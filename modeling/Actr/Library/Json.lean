import Actr.Library.Text

/-!
# JSON values and their text

The compact text of a JSON value. A number is kept as the text that it is printed with, and the entries of an object
in the order in which they are printed.
-/

namespace Actr.Library.Json

def isNumeric (char : Char) : Bool := char.isDigit || char ∈ ['-', '+', '.', 'e', 'E']

structure Number where
  text : List Char
  nonempty : text ≠ []
  numeric : ∀ char ∈ text, isNumeric char = true
  deriving DecidableEq

inductive Value where
  | null
  | bool (flag : Bool)
  | number (number : Number)
  | string (text : String)
  | array (items : List Value)
  | object (entries : List (String × Value))

def escapeChar (char : Char) : List Char :=
  if char = '"' then ['\\', '"']
  else if char = '\\' then ['\\', '\\']
  else if char = Char.ofNat 8 then ['\\', 'b']
  else if char = Char.ofNat 12 then ['\\', 'f']
  else if char = '\n' then ['\\', 'n']
  else if char = '\r' then ['\\', 'r']
  else if char = '\t' then ['\\', 't']
  else if char.toNat < 32 then
    ['\\', 'u', '0', '0', Nat.digitChar (char.toNat / 16), Nat.digitChar (char.toNat % 16)]
  else [char]

def printString (text : String) : List Char := '"' :: text.toList.flatMap escapeChar ++ ['"']

mutual

def print : Value → List Char
  | .null => ['n', 'u', 'l', 'l']
  | .bool true => ['t', 'r', 'u', 'e']
  | .bool false => ['f', 'a', 'l', 's', 'e']
  | .number number => number.text
  | .string text => printString text
  | .array items => '[' :: printItems [] items
  | .object entries => '{' :: printEntries [] entries

def printItems (separator : List Char) : List Value → List Char
  | [] => [']']
  | item :: rest => separator ++ (print item ++ printItems [','] rest)

def printEntries (separator : List Char) : List (String × Value) → List Char
  | [] => ['}']
  | (key, value) :: rest => separator ++ (printString key ++ ':' :: (print value ++ printEntries [','] rest))

end

variable {entries : List (String × Value)} {char char' : Char} {separator rest rest' : List Char}

def escapeLength : List Char → Nat
  | '\\' :: 'u' :: _ => 6
  | '\\' :: _ => 2
  | _ => 1

def hexValue (char : Char) : Nat := if char.isDigit then char.toNat - 48 else char.toNat - 87

theorem hexValue_digitChar : ∀ digit < 16, hexValue (Nat.digitChar digit) = digit := by
  decide

def unescapeChar : List Char → Char
  | [char] => char
  | ['\\', 'b'] => Char.ofNat 8
  | ['\\', 'f'] => Char.ofNat 12
  | ['\\', 'n'] => '\n'
  | ['\\', 'r'] => '\r'
  | ['\\', 't'] => '\t'
  | ['\\', 'u', '0', '0', high, low] => Char.ofNat (hexValue high * 16 + hexValue low)
  | ['\\', char] => char
  | _ => '"'

theorem escapeChar_cases (char : Char) :
    (escapeChar char = [char] ∧ char ≠ '"' ∧ char ≠ '\\') ∨
      (∃ mark, escapeChar char = ['\\', mark] ∧ mark ≠ 'u' ∧ unescapeChar ['\\', mark] = char) ∨
      ∃ code, escapeChar char = '\\' :: 'u' :: code ∧ code.length = 4 ∧ unescapeChar ('\\' :: 'u' :: code) = char := by
  unfold escapeChar
  split
  · next same => exact .inr (.inl ⟨'"', rfl, by decide, same.symm⟩)
  split
  · next same => exact .inr (.inl ⟨'\\', rfl, by decide, same.symm⟩)
  split
  · next same => exact .inr (.inl ⟨'b', rfl, by decide, same.symm⟩)
  split
  · next same => exact .inr (.inl ⟨'f', rfl, by decide, same.symm⟩)
  split
  · next same => exact .inr (.inl ⟨'n', rfl, by decide, same.symm⟩)
  split
  · next same => exact .inr (.inl ⟨'r', rfl, by decide, same.symm⟩)
  split
  · next same => exact .inr (.inl ⟨'t', rfl, by decide, same.symm⟩)
  split
  · next control =>
    refine .inr (.inr ⟨_, rfl, rfl, ?_⟩)
    change Char.ofNat (hexValue (Nat.digitChar _) * 16 + hexValue (Nat.digitChar _)) = char
    rw [hexValue_digitChar _ (by omega), hexValue_digitChar _ (by omega), Nat.div_add_mod']
    exact Char.ofNat_toNat char
  · next quote slash _ _ _ _ _ _ => exact .inl ⟨rfl, quote, slash⟩

theorem escapeLength_escapeChar (char : Char) (rest : List Char) :
    escapeLength (escapeChar char ++ rest) = (escapeChar char).length := by
  rcases escapeChar_cases char with ⟨code, -, plain⟩ | ⟨mark, code, other, -⟩ | ⟨digits, code, length, -⟩
  · rw [code]
    simp [escapeLength, plain]
  · rw [code]
    simp [escapeLength, other]
  · rw [code]
    simp [escapeLength, length]

theorem unescapeChar_escapeChar (char : Char) : unescapeChar (escapeChar char) = char := by
  rcases escapeChar_cases char with ⟨code, -⟩ | ⟨mark, code, -, back⟩ | ⟨digits, code, -, back⟩
  · exact congrArg unescapeChar code
  · rw [code, back]
  · rw [code, back]

theorem escapeChar_append_inj (same : escapeChar char ++ rest = escapeChar char' ++ rest') :
    char = char' ∧ rest = rest' := by
  have lengths : (escapeChar char).length = (escapeChar char').length := by
    rw [← escapeLength_escapeChar char rest, ← escapeLength_escapeChar char' rest', same]
  obtain ⟨codes, rests⟩ := List.append_inj same lengths
  refine ⟨?_, rests⟩
  rw [← unescapeChar_escapeChar char, codes, unescapeChar_escapeChar]

theorem escapeChar_ne_quote : escapeChar char ++ rest ≠ '"' :: rest' := by
  intro same
  rcases escapeChar_cases char with ⟨code, plain, -⟩ | ⟨mark, code, -⟩ | ⟨digits, code, -⟩
  · rw [code] at same
    exact plain (List.cons.inj same).1
  · rw [code] at same
    exact absurd (List.cons.inj same).1 (by decide)
  · rw [code] at same
    exact absurd (List.cons.inj same).1 (by decide)

theorem escaped_append_inj {chars chars' : List Char}
    (same : chars.flatMap escapeChar ++ '"' :: rest = chars'.flatMap escapeChar ++ '"' :: rest') :
    chars = chars' ∧ rest = rest' := by
  induction chars generalizing chars' with
  | nil =>
    cases chars' with
    | nil => exact ⟨rfl, (List.cons.inj same).2⟩
    | cons =>
      rw [List.flatMap_cons, List.append_assoc] at same
      exact absurd same.symm escapeChar_ne_quote
  | cons char chars ih =>
    cases chars' with
    | nil =>
      rw [List.flatMap_cons, List.append_assoc] at same
      exact absurd same escapeChar_ne_quote
    | cons =>
      rw [List.flatMap_cons, List.flatMap_cons, List.append_assoc, List.append_assoc] at same
      obtain ⟨rfl, after⟩ := escapeChar_append_inj same
      obtain ⟨rfl, rests⟩ := ih after
      exact ⟨rfl, rests⟩

theorem printString_append_inj {text text' : String} (same : printString text ++ rest = printString text' ++ rest') :
    text = text' ∧ rest = rest' := by
  simp only [printString, List.cons_append, List.append_assoc, List.nil_append, List.cons.injEq, true_and] at same
  obtain ⟨chars, rests⟩ := escaped_append_inj same
  exact ⟨String.toList_injective chars, rests⟩

def kind : List Char → Nat
  | 'n' :: _ => 0
  | 't' :: _ | 'f' :: _ => 1
  | '"' :: _ => 3
  | '[' :: _ => 4
  | '{' :: _ => 5
  | ']' :: _ => 6
  | '}' :: _ => 7
  | _ => 8

def kindOf : Value → Nat
  | .null => 0
  | .bool _ => 1
  | .string _ => 3
  | .array _ => 4
  | .object _ => 5
  | .number _ => 8

theorem kind_of_isNumeric (numeric : isNumeric char = true) : kind (char :: rest) = 8 := by
  unfold kind
  split
  all_goals first
    | rfl
    | next same =>
      cases same
      revert numeric
      decide

theorem kind_print (value : Value) (rest : List Char) : kind (print value ++ rest) = kindOf value := by
  cases value with
  | null | string | array | object => rfl
  | bool flag => cases flag <;> rfl
  | number number =>
    obtain ⟨text, nonempty, numeric⟩ := number
    cases text with
    | nil => exact absurd rfl nonempty
    | cons char => exact kind_of_isNumeric (numeric char List.mem_cons_self)

def EndsNumber (rest : List Char) : Prop := ∀ char ∈ rest.head?, isNumeric char = false

theorem takeWhile_number {text : List Char} (numeric : ∀ char ∈ text, isNumeric char = true)
    (ends : EndsNumber rest) : (text ++ rest).takeWhile isNumeric = text := by
  rw [List.takeWhile_append_of_pos numeric]
  cases rest with
  | nil => exact List.append_nil text
  | cons char => simp [ends char rfl]

theorem number_append_inj {text text' : List Char} (numeric : ∀ char ∈ text, isNumeric char = true)
    (numeric' : ∀ char ∈ text', isNumeric char = true) (ends : EndsNumber rest) (ends' : EndsNumber rest')
    (same : text ++ rest = text' ++ rest') : text = text' ∧ rest = rest' := by
  have texts : text = text' := by rw [← takeWhile_number numeric ends, same, takeWhile_number numeric' ends']
  subst texts
  exact ⟨rfl, List.append_cancel_left same⟩

theorem endsNumber_printItems {items : List Value} : EndsNumber (printItems [','] items ++ rest) := by
  cases items with
  | nil | cons => simp [EndsNumber, printItems, isNumeric]

theorem endsNumber_printEntries : EndsNumber (printEntries [','] entries ++ rest) := by
  cases entries with
  | nil | cons => simp [EndsNumber, printEntries, isNumeric]

theorem kindOf_eq {value value' : Value} (same : print value ++ rest = print value' ++ rest') :
    kindOf value = kindOf value' := by
  rw [← kind_print value rest, same, kind_print]

theorem kindOf_ne_close {value : Value} : kindOf value ≠ 6 := by
  cases value <;> nofun

theorem printItems_ne_close {item : Value} {items : List Value}
    (mark : separator = [] ∨ separator = [',']) : printItems separator (item :: items) ++ rest ≠ ']' :: rest' := by
  intro same
  rcases mark with rfl | rfl
  · simp only [printItems, List.nil_append, List.append_assoc] at same
    have kinds := congrArg kind same
    rw [kind_print] at kinds
    exact kindOf_ne_close kinds
  · exact absurd (List.cons.inj same).1 (by decide)

theorem printEntries_ne_close {entry : String × Value} (mark : separator = [] ∨ separator = [',']) :
    printEntries separator (entry :: entries) ++ rest ≠ '}' :: rest' := by
  intro same
  rcases mark with rfl | rfl
  · exact absurd (List.cons.inj same).1 (by decide)
  · exact absurd (List.cons.inj same).1 (by decide)

-- By recursion on the first value; the kind of a text rules out a second value of another form.
mutual

theorem print_append_inj : ∀ (value value' : Value) (rest rest' : List Char), EndsNumber rest → EndsNumber rest' →
    print value ++ rest = print value' ++ rest' → value = value' ∧ rest = rest'
  | .null, value', rest, rest', _, _, same => by
      have kinds := kindOf_eq same
      cases value' with
      | null => exact ⟨rfl, List.append_cancel_left same⟩
      | _ => cases kinds
  | .bool flag, value', rest, rest', _, _, same => by
      have kinds := kindOf_eq same
      cases value' with
      | bool flag' =>
        have flags : flag = flag' := by
          cases flag <;> cases flag' <;> first | rfl | exact absurd (List.cons.inj same).1 (by decide)
        subst flags
        exact ⟨rfl, List.append_cancel_left same⟩
      | _ => cases kinds
  | .number number, value', rest, rest', ends, ends', same => by
      have kinds := kindOf_eq same
      cases value' with
      | number number' =>
        obtain ⟨text, _, numeric⟩ := number
        obtain ⟨text', _, numeric'⟩ := number'
        obtain ⟨rfl, rests⟩ := number_append_inj numeric numeric' ends ends' same
        exact ⟨rfl, rests⟩
      | _ => cases kinds
  | .string text, value', rest, rest', _, _, same => by
      have kinds := kindOf_eq same
      cases value' with
      | string =>
        exact (printString_append_inj same).imp_left (congrArg Value.string)
      | _ => cases kinds
  | .array items, value', rest, rest', _, _, same => by
      have kinds := kindOf_eq same
      cases value' with
      | array items' =>
        exact (printItems_append_inj items items' [] rest rest' (.inl rfl) (List.cons.inj same).2).imp_left
          (congrArg Value.array)
      | _ => cases kinds
  | .object entries, value', rest, rest', _, _, same => by
      have kinds := kindOf_eq same
      cases value' with
      | object entries' =>
        exact (printEntries_append_inj entries entries' [] rest rest' (.inl rfl) (List.cons.inj same).2).imp_left
          (congrArg Value.object)
      | _ => cases kinds

theorem printItems_append_inj : ∀ (items items' : List Value) (separator rest rest' : List Char),
    separator = [] ∨ separator = [','] → printItems separator items ++ rest = printItems separator items' ++ rest' →
    items = items' ∧ rest = rest'
  | [], [], _, _, _, _, same => ⟨rfl, (List.cons.inj same).2⟩
  | [], _ :: _, _, _, _, mark, same => absurd same.symm (printItems_ne_close mark)
  | _ :: _, [], _, _, _, mark, same => absurd same (printItems_ne_close mark)
  | item :: items, item' :: items', separator, rest, rest', _, same => by
      simp only [printItems, List.append_assoc] at same
      obtain ⟨rfl, after⟩ := print_append_inj item item' _ _ endsNumber_printItems endsNumber_printItems
        (List.append_cancel_left same)
      obtain ⟨rfl, rests⟩ := printItems_append_inj items items' [','] rest rest' (.inr rfl) after
      exact ⟨rfl, rests⟩

theorem printEntries_append_inj : ∀ (entries entries' : List (String × Value)) (separator rest rest' : List Char),
    separator = [] ∨ separator = [','] →
    printEntries separator entries ++ rest = printEntries separator entries' ++ rest' → entries = entries' ∧ rest = rest'
  | [], [], _, _, _, _, same => ⟨rfl, (List.cons.inj same).2⟩
  | [], _ :: _, _, _, _, mark, same => absurd same.symm (printEntries_ne_close mark)
  | _ :: _, [], _, _, _, mark, same => absurd same (printEntries_ne_close mark)
  | (key, value) :: entries, (key', value') :: entries', separator, rest, rest', _, same => by
      simp only [printEntries, List.append_assoc] at same
      obtain ⟨rfl, values⟩ := printString_append_inj (List.append_cancel_left same)
      simp only [List.cons_append, List.cons.injEq, true_and, List.append_assoc] at values
      obtain ⟨rfl, after⟩ := print_append_inj value value' _ _ endsNumber_printEntries endsNumber_printEntries values
      obtain ⟨rfl, rests⟩ := printEntries_append_inj entries entries' [','] rest rest' (.inr rfl) after
      exact ⟨rfl, rests⟩

end

theorem print_injective : Function.Injective print := by
  intro value value' same
  have ends : EndsNumber [] := nofun
  exact (print_append_inj value value' [] [] ends ends (by simpa using same)).1

end Actr.Library.Json
