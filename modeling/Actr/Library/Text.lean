import Mathlib.Data.List.DropRight

/-!
# Text

The bytes of a string, its parts around the first occurrence of a character, the reading of decimal numbers of a
bounded size from the left, the hexadecimal and the URL-safe Base64 digits of bytes, the white space around a text,
and the fields of a text whose values may hold anything.
-/

namespace Actr.Library.Text

variable {bytes : List UInt8} {separator char : Char} {before after : List Char}

def utf8 (text : String) : List UInt8 := text.toUTF8.data.toList

theorem utf8_injective : Function.Injective utf8 := by
  intro first second same
  apply String.toByteArray_inj.mp
  apply ByteArray.ext
  exact Array.toList_inj.mp same

def fromUtf8 (bytes : List UInt8) : Option String := String.fromUTF8? ⟨bytes.toArray⟩

theorem fromUtf8_utf8 {text : String} : fromUtf8 (utf8 text) = some text := by
  have bytes : (⟨(utf8 text).toArray⟩ : ByteArray) = text.toByteArray := rfl
  unfold fromUtf8 String.fromUTF8?
  rw [bytes, dif_pos text.isValidUTF8]
  rfl

theorem utf8_of_fromUtf8 {text : String} (decoded : fromUtf8 bytes = some text) : utf8 text = bytes := by
  unfold fromUtf8 String.fromUTF8? at decoded
  split at decoded
  · cases decoded
    rfl
  · cases decoded

def splitOnce (separator : Char) : List Char → Option (List Char × List Char)
  | [] => none
  | char :: rest =>
    if char = separator then some ([], rest)
    else (splitOnce separator rest).map fun parts => (char :: parts.1, parts.2)

theorem splitOnce_eq_some {text : List Char} :
    splitOnce separator text = some (before, after) ↔
      text = before ++ separator :: after ∧ separator ∉ before := by
  induction text generalizing before with
  | nil => simp [splitOnce]
  | cons char rest ih =>
    unfold splitOnce
    split
    · next same =>
      subst same
      cases before with
      | nil => simp [eq_comm]
      | cons => simp +contextual
    · next different =>
      simp only [Option.map_eq_some_iff, Prod.exists, Prod.mk.injEq]
      constructor
      · rintro ⟨first, second, found, rfl, rfl⟩
        obtain ⟨rfl, absent⟩ := ih.mp found
        simp [absent, Ne.symm different]
      · rintro ⟨text, absent⟩
        cases before with
        | nil =>
          cases text
          exact absurd rfl different
        | cons first before =>
          cases text
          have absent := List.not_mem_of_not_mem_cons absent
          exact ⟨before, after, ih.mpr ⟨rfl, absent⟩, rfl, rfl⟩

theorem first_separator_inj {before' after' : List Char} (absent : separator ∉ before)
    (absent' : separator ∉ before') (same : before ++ separator :: after = before' ++ separator :: after') :
    before = before' ∧ after = after' := by
  have first := splitOnce_eq_some.mpr ⟨Eq.refl (before ++ separator :: after), absent⟩
  have second := splitOnce_eq_some.mpr ⟨same, absent'⟩
  rw [first] at second
  simpa using second

theorem last_separator_inj {before' after' : List Char} (absent : separator ∉ after) (absent' : separator ∉ after')
    (same : before ++ separator :: after = before' ++ separator :: after') : before = before' ∧ after = after' := by
  have reversed := congrArg List.reverse same
  simp only [List.reverse_append, List.reverse_cons, List.append_assoc, List.singleton_append] at reversed
  obtain ⟨tail, head⟩ := first_separator_inj (by simpa using absent) (by simpa using absent') reversed
  exact ⟨List.reverse_injective head, List.reverse_injective tail⟩

def rsplitOnce (separator : Char) (text : List Char) : Option (List Char × List Char) :=
  (splitOnce separator text.reverse).map fun parts => (parts.2.reverse, parts.1.reverse)

theorem rsplitOnce_eq_some {text : List Char} : rsplitOnce separator text = some (before, after) ↔
      text = before ++ separator :: after ∧ separator ∉ after := by
  simp only [rsplitOnce, Option.map_eq_some_iff, Prod.exists, splitOnce_eq_some, Prod.mk.injEq]
  constructor
  · rintro ⟨tail, head, ⟨same, absent⟩, rfl, rfl⟩
    exact ⟨List.reverse_injective (by simp [same]), by simpa using absent⟩
  · rintro ⟨rfl, absent⟩
    exact ⟨after.reverse, before.reverse, by simpa using absent, by simp, by simp⟩

inductive ParseIntError where
  | empty
  | invalidDigit
  | posOverflow
  deriving DecidableEq, Repr

def ParseIntError.display : ParseIntError → String
  | .empty => "cannot parse integer from empty string"
  | .invalidDigit => "invalid digit found in string"
  | .posOverflow => "number too large to fit in target type"

def toDigit (char : Char) : Option Nat :=
  if '0' ≤ char ∧ char ≤ '9' then some (char.toNat - '0'.toNat) else none

-- The digit is looked at before the product that it is added to.
def readDigits (bound : Nat) : Nat → List Char → Except ParseIntError Nat
  | value, [] => .ok value
  | value, char :: rest =>
    match toDigit char with
    | none => .error .invalidDigit
    | some digit =>
      if value * 10 + digit < bound then readDigits bound (value * 10 + digit) rest else .error .posOverflow

def parseUnsigned (bound : Nat) : List Char → Except ParseIntError Nat
  | [] => .error .empty
  | ['+'] => .error .invalidDigit
  | '+' :: digits => readDigits bound 0 digits
  | digits => readDigits bound 0 digits

section Decimal

variable {bound value number : Nat} {digits rest : List Char}

theorem toDigit_digitChar : ∀ digit < 10, toDigit (Nat.digitChar digit) = some digit := by
  decide

theorem readDigits_append (read : readDigits bound value digits = .ok number) :
    readDigits bound value (digits ++ rest) = readDigits bound number rest := by
  induction digits generalizing value with
  | nil =>
    cases read
    rfl
  | cons char digits ih =>
    simp only [List.cons_append, readDigits] at read ⊢
    split at read
    · cases read
    · split at read
      · next small => rw [if_pos small, ih read]
      · cases read

theorem readDigits_toDigits (small : number < bound) : readDigits bound 0 (Nat.toDigits 10 number) = .ok number := by
  induction number using Nat.strongRecOn with
  | ind number ih =>
    rw [Nat.toDigits_eq_if (by decide)]
    split
    · next digit => simp [readDigits, toDigit_digitChar number digit, small]
    · next more =>
      have last := toDigit_digitChar (number % 10) (by omega)
      have whole : number / 10 * 10 + number % 10 = number := by omega
      rw [readDigits_append (ih (number / 10) (by omega) (by omega))]
      simp [readDigits, last, whole, small]

theorem parseUnsigned_toString (small : number < bound) : parseUnsigned bound (toString number).toList = .ok number := by
  have unsigned : '+' ∉ Nat.toDigits 10 number := fun member => by
    cases Nat.isDigit_of_mem_toDigits (by decide) (by decide) member
  rw [Nat.toString_eq_ofList_toDigits, String.toList_ofList, ← readDigits_toDigits small]
  unfold parseUnsigned
  split
  · next empty => exact absurd empty Nat.toDigits_ne_nil
  · next sign => simp [sign] at unsigned
  · next sign => simp [sign] at unsigned
  · rfl

end Decimal

def hexDigits (bytes : List UInt8) : List Char :=
  bytes.flatMap fun byte => [Nat.digitChar (byte.toNat / 16), Nat.digitChar (byte.toNat % 16)]

def hexEncode (bytes : List UInt8) : String := String.ofList (hexDigits bytes)

theorem digitChar_inj : ∀ first < 16, ∀ second < 16, Nat.digitChar first = Nat.digitChar second → first = second := by
  decide

theorem hexDigits_injective : Function.Injective hexDigits := by
  intro first second same
  induction first generalizing second with
  | nil =>
    cases second with
    | nil => rfl
    | cons => simp [hexDigits] at same
  | cons byte rest ih =>
    cases second with
    | nil => simp [hexDigits] at same
    | cons byte' =>
      simp only [hexDigits, List.flatMap_cons, List.cons_append, List.nil_append, List.cons.injEq] at same
      obtain ⟨high, low, rest⟩ := same
      have small := byte.toNat_lt
      have small' := byte'.toNat_lt
      have high := digitChar_inj _ (by omega) _ (by omega) high
      have low := digitChar_inj _ (by omega) _ (by omega) low
      rw [ih rest, UInt8.toNat_inj.mp (show byte.toNat = byte'.toNat by omega)]

theorem hexEncode_injective : Function.Injective hexEncode := by
  intro first second same
  exact hexDigits_injective (String.ofList_injective same)

theorem of_mem_hexEncode {P : Char → Prop} (digits : ∀ digit < 16, P (Nat.digitChar digit))
    (member : char ∈ (hexEncode bytes).toList) : P char := by
  simp only [hexEncode, String.toList_ofList, hexDigits, List.mem_flatMap, List.mem_cons, List.not_mem_nil,
    or_false] at member
  obtain ⟨byte, -, rfl | rfl⟩ := member
  · exact digits _ (by have := byte.toNat_lt; omega)
  · exact digits _ (by omega)

theorem notMem_hexEncode (other : char.isAlphanum = false) : char ∉ (hexEncode bytes).toList := by
  intro member
  have digit := of_mem_hexEncode (P := (·.isAlphanum = true)) (by decide) member
  cases other.symm.trans digit

theorem notMem_toString {number : Nat} (other : char.isAlphanum = false) : char ∉ (toString number).toList := by
  intro member
  rw [Nat.toString_eq_ofList_toDigits, String.toList_ofList] at member
  simp [Char.isAlphanum, Nat.isDigit_of_mem_toDigits (by decide) (by decide) member] at other

theorem utf8Size_digitChar : ∀ digit < 16, (Nat.digitChar digit).utf8Size = 1 := by
  decide

theorem utf8ByteSize_hexEncode : (hexEncode bytes).utf8ByteSize = 2 * bytes.length := by
  induction bytes with
  | nil => rfl
  | cons byte rest ih =>
    have small := byte.toNat_lt
    have step : hexEncode (byte :: rest) = String.singleton (Nat.digitChar (byte.toNat / 16)) ++
        (String.singleton (Nat.digitChar (byte.toNat % 16)) ++ hexEncode rest) := by
      simp only [hexEncode, hexDigits, List.flatMap_cons, List.cons_append, List.nil_append, String.ofList_cons]
    rw [step, String.utf8ByteSize_append, String.utf8ByteSize_append, String.utf8ByteSize_singleton,
      String.utf8ByteSize_singleton, ih, utf8Size_digitChar _ (by omega), utf8Size_digitChar _ (by omega),
      List.length_cons]
    omega

theorem toString_injective : Function.Injective (toString : Nat → String) := by
  intro first second same
  have digits := String.ofList_injective same
  rw [← Nat.ofDigitChars_ten_toDigits (n := first), digits, Nat.ofDigitChars_ten_toDigits]

def base64Char (digit : Nat) : Char :=
  if digit < 26 then Char.ofNat ('A'.toNat + digit)
  else if digit < 52 then Char.ofNat ('a'.toNat + (digit - 26))
  else if digit < 62 then Char.ofNat ('0'.toNat + (digit - 52))
  else if digit = 62 then '-'
  else '_'

def base64Digits : List UInt8 → List Nat
  | [] => []
  | [a] => [a.toNat / 4, a.toNat % 4 * 16]
  | [a, b] => [a.toNat / 4, a.toNat % 4 * 16 + b.toNat / 16, b.toNat % 16 * 4]
  | a :: b :: c :: rest =>
    [a.toNat / 4, a.toNat % 4 * 16 + b.toNat / 16, b.toNat % 16 * 4 + c.toNat / 64, c.toNat % 64] ++
      base64Digits rest

def urlSafeNoPad (bytes : List UInt8) : String := String.ofList ((base64Digits bytes).map base64Char)

theorem base64Digits_lt : ∀ digit ∈ base64Digits bytes, digit < 64 := by
  induction bytes using base64Digits.induct with
  | case1 => simp [base64Digits]
  | case2 a =>
    have := a.toNat_lt
    simp only [base64Digits, List.forall_mem_cons, List.not_mem_nil, false_implies, implies_true, and_true]
    omega
  | case3 a b =>
    have := a.toNat_lt
    have := b.toNat_lt
    simp only [base64Digits, List.forall_mem_cons, List.not_mem_nil, false_implies, implies_true, and_true]
    omega
  | case4 a b c rest ih =>
    have := a.toNat_lt
    have := b.toNat_lt
    have := c.toNat_lt
    simp only [base64Digits, List.cons_append, List.nil_append, List.forall_mem_cons]
    refine ⟨?_, ?_, ?_, ?_, ih⟩
    all_goals omega

-- The characters with the Unicode property `White_Space`.
def isWhitespace (char : Char) : Bool :=
  let code := char.toNat
  9 ≤ code ∧ code ≤ 13 ∨ code = 0x20 ∨ code = 0x85 ∨ code = 0xA0 ∨ code = 0x1680 ∨ 0x2000 ≤ code ∧ code ≤ 0x200A ∨
    code = 0x2028 ∨ code = 0x2029 ∨ code = 0x202F ∨ code = 0x205F ∨ code = 0x3000

def trim (text : String) : String :=
  String.ofList ((text.toList.dropWhile isWhitespace).rdropWhile isWhitespace)

theorem trim_eq_self {text : String} (solid : ∀ char ∈ text.toList, isWhitespace char = false) :
    trim text = text := by
  have front : text.toList.dropWhile isWhitespace = text.toList := by
    rw [List.dropWhile_eq_self_iff]
    intro bound
    simp [solid _ (List.getElem_mem bound)]
  have back : text.toList.rdropWhile isWhitespace = text.toList := by
    rw [List.rdropWhile_eq_self_iff]
    intro nonempty
    simp [solid _ (List.getLast_mem nonempty)]
  rw [trim, front, back, String.ofList_toList]

theorem base64Char_solid : ∀ digit < 64, isWhitespace (base64Char digit) = false := by
  decide

theorem urlSafeNoPad_solid (member : char ∈ (urlSafeNoPad bytes).toList) : isWhitespace char = false := by
  simp only [urlSafeNoPad, String.toList_ofList, List.mem_map] at member
  obtain ⟨digit, listed, rfl⟩ := member
  exact base64Char_solid digit (base64Digits_lt digit listed)

/-- The last field of a text is told from what stands before it when its name ends in a character that no value has. -/
theorem last_field_inj (separator : Char) (word : List Char) {name body body' value value' : String}
    (ends : name.toList = word ++ [separator]) (absent : separator ∉ value.toList)
    (absent' : separator ∉ value'.toList) (same : body ++ name ++ value = body' ++ name ++ value') :
    body = body' ∧ value = value' := by
  have chars := congrArg String.toList same
  simp only [String.toList_append, ends, List.append_assoc, List.singleton_append] at chars
  rw [← List.append_assoc, ← List.append_assoc] at chars
  obtain ⟨front, back⟩ := last_separator_inj absent absent' chars
  exact ⟨String.toList_injective (List.append_cancel_right front), String.toList_injective back⟩

/-- The first field of a text is told from what follows it when the next name starts with a character that no value
has. -/
theorem first_field_inj (separator : Char) (word : List Char) {head name value value' rest rest' : String}
    (starts : name.toList = separator :: word) (absent : separator ∉ value.toList)
    (absent' : separator ∉ value'.toList) (same : head ++ value ++ name ++ rest = head ++ value' ++ name ++ rest') :
    value = value' ∧ rest = rest' := by
  have chars := congrArg String.toList same
  simp only [String.toList_append, starts, List.append_assoc, List.cons_append] at chars
  obtain ⟨front, back⟩ := first_separator_inj absent absent' (List.append_cancel_left chars)
  exact ⟨String.toList_injective front, String.toList_injective (List.append_cancel_left back)⟩

end Actr.Library.Text
