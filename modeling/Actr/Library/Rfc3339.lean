import Actr.Library.Text
import Mathlib.Algebra.Ring.Nat

/-!
# Points in time as RFC 3339 text

A point in time is a year of four digits, a day of the year, a second of the day and nanoseconds, without leap
seconds.
-/

namespace Actr.Library.Rfc3339

variable {year day nanos : Nat}

def isLeap (year : Nat) : Bool := year % 4 = 0 ∧ (year % 100 ≠ 0 ∨ year % 400 = 0)

def monthLengths (year : Nat) : List Nat :=
  [31, if isLeap year then 29 else 28, 31, 30, 31, 30, 31, 31, 30, 31, 30, 31]

structure DateTime where
  year : Nat
  dayOfYear : Nat
  secs : Nat
  nanos : Nat
  year_lt : year < 10000
  day_lt : dayOfYear < (monthLengths year).sum
  secs_lt : secs < 86400
  nanos_lt : nanos < 1000000000
  deriving DecidableEq

def DateTime.rank (t : DateTime) : Nat := ((t.year * 366 + t.dayOfYear) * 86400 + t.secs) * 1000000000 + t.nanos

def monthDay : List Nat → Nat → Nat × Nat
  | [], day => (0, day)
  | length :: rest, day =>
    if day < length then (0, day) else ((monthDay rest (day - length)).1 + 1, (monthDay rest (day - length)).2)

def dayOf : List Nat → Nat → Nat → Option Nat
  | [], _, _ => none
  | length :: _, 0, day => if day < length then some day else none
  | length :: rest, month + 1, day => (dayOf rest month day).map (length + ·)

def pad : Nat → Nat → List Char
  | 0, _ => []
  | width + 1, number => pad width (number / 10) ++ [Nat.digitChar (number % 10)]

def dateText (year dayOfYear : Nat) : List Char :=
  let date := monthDay (monthLengths year) dayOfYear
  pad 4 year ++ '-' :: (pad 2 (date.1 + 1) ++ '-' :: pad 2 (date.2 + 1))

def clockText (secs : Nat) : List Char :=
  pad 2 (secs / 3600) ++ ':' :: (pad 2 (secs / 60 % 60) ++ ':' :: pad 2 (secs % 60))

def fractionText (nanos : Nat) : List Char :=
  if nanos = 0 then []
  else if nanos % 1000000 = 0 then '.' :: pad 3 (nanos / 1000000)
  else if nanos % 1000 = 0 then '.' :: pad 6 (nanos / 1000)
  else '.' :: pad 9 nanos

def offsetText : List Char := "+00:00".toList

def DateTime.chars (t : DateTime) : List Char :=
  dateText t.year t.dayOfYear ++ 'T' :: (clockText t.secs ++ (fractionText t.nanos ++ offsetText))

def DateTime.toRfc3339 (t : DateTime) : String := String.ofList t.chars

def readFixed : Nat → List Char → Option (Nat × List Char)
  | 0, chars => some (0, chars)
  | width + 1, chars =>
    match readFixed width chars with
    | some (value, char :: rest) => (Text.toDigit char).map fun digit => (value * 10 + digit, rest)
    | _ => none

def expect (char : Char) : List Char → Option (List Char)
  | first :: rest => if first = char then some rest else none
  | [] => none

-- Digits after the ninth are dropped.
def readNanos (digits : List Char) : Option Nat :=
  if digits = [] then none
  else
    let kept := digits.take 9
    (readFixed kept.length kept).map fun read => read.1 * 10 ^ (9 - kept.length)

def readFraction : List Char → Option (Nat × List Char)
  | '.' :: rest =>
    let digits := rest.takeWhile fun char => (Text.toDigit char).isSome
    (readNanos digits).map fun nanos => (nanos, rest.drop digits.length)
  | chars => some (0, chars)

def ofFields (year month day hour minute second nanos : Nat) : Option DateTime :=
  if month = 0 ∨ day = 0 ∨ 24 ≤ hour ∨ 60 ≤ minute ∨ 60 ≤ second then none
  else
    match dayOf (monthLengths year) (month - 1) (day - 1) with
    | none => none
    | some dayOfYear =>
      let secs := hour * 3600 + minute * 60 + second
      if bounds : year < 10000 ∧ dayOfYear < (monthLengths year).sum ∧ secs < 86400 ∧ nanos < 1000000000 then
        some ⟨year, dayOfYear, secs, nanos, bounds.1, bounds.2.1, bounds.2.2.1, bounds.2.2.2⟩
      else none

def parse (text : String) : Option DateTime := do
  let (year, rest) ← readFixed 4 text.toList
  let rest ← expect '-' rest
  let (month, rest) ← readFixed 2 rest
  let rest ← expect '-' rest
  let (day, rest) ← readFixed 2 rest
  let rest ← expect 'T' rest
  let (hour, rest) ← readFixed 2 rest
  let rest ← expect ':' rest
  let (minute, rest) ← readFixed 2 rest
  let rest ← expect ':' rest
  let (second, rest) ← readFixed 2 rest
  let (nanos, rest) ← readFraction rest
  if rest = offsetText then ofFields year month day hour minute second nanos else none

variable {width number other : Nat} {rest : List Char}

@[simp]
theorem length_pad : (pad width number).length = width := by
  induction width generalizing number with
  | zero => rfl
  | succ width ih => simp [pad, ih]

theorem digitChar_lt : ∀ first < 10, ∀ second < 10, first < second → Nat.digitChar first < Nat.digitChar second := by
  decide

theorem lt_append {first second left right : List Char} (below : first < second)
    (same : first.length = second.length) : first ++ left < second ++ right := by
  induction below with
  | nil => cases same
  | rel head => exact .rel head
  | cons _ ih => exact .cons (ih (Nat.succ.inj same))

theorem separated_lt {front left right : List Char} {char : Char} (below : left < right) :
    front ++ char :: left < front ++ char :: right :=
  List.append_left_lt (List.cons_lt_cons_iff.mpr (.inr ⟨rfl, below⟩))

theorem pad_lt (below : number < other) (bound : other < 10 ^ width) : pad width number < pad width other := by
  induction width generalizing number other with
  | zero => omega
  | succ width ih =>
    unfold pad
    rcases Nat.lt_or_ge (number / 10) (other / 10) with higher | same
    · exact lt_append (ih higher (by omega)) (by simp)
    · have equal : number / 10 = other / 10 := by omega
      rw [equal]
      apply List.append_left_lt
      rw [List.cons_lt_cons_iff]
      exact .inl (digitChar_lt _ (by omega) _ (by omega) (by omega))

theorem readFixed_pad (bound : number < 10 ^ width) :
    readFixed width (pad width number ++ rest) = some (number, rest) := by
  induction width generalizing number rest with
  | zero =>
    have zero : number = 0 := by omega
    simp [readFixed, pad, zero]
  | succ width ih =>
    have front : readFixed width (pad width (number / 10) ++ Nat.digitChar (number % 10) :: rest) =
        some (number / 10, Nat.digitChar (number % 10) :: rest) := ih (by omega)
    simp only [readFixed, pad, List.append_assoc, List.singleton_append, front,
      Text.toDigit_digitChar _ (Nat.mod_lt number (by decide)), Option.map_some]
    congr
    omega

section Months

variable {lengths : List Nat} {day day' : Nat}

theorem monthDay_lt (below : day < day') (bound : day' < lengths.sum) :
    (monthDay lengths day).1 < (monthDay lengths day').1 ∨
      (monthDay lengths day).1 = (monthDay lengths day').1 ∧ (monthDay lengths day).2 < (monthDay lengths day').2 := by
  induction lengths generalizing day day' with
  | nil => cases bound
  | cons length rest ih =>
    rw [List.sum_cons] at bound
    unfold monthDay
    by_cases first : day < length
    · by_cases first' : day' < length
      · simp [first, first', below]
      · simp [first, first']
    · have later : ¬ day' < length := by omega
      rw [if_neg first, if_neg later]
      have earlier : day - length < day' - length := by omega
      simpa using ih earlier (by omega)

theorem monthDay_bounds (bound : day < lengths.sum) :
    (monthDay lengths day).1 < lengths.length ∧ ∃ length ∈ lengths, (monthDay lengths day).2 < length := by
  induction lengths generalizing day with
  | nil => cases bound
  | cons length rest ih =>
    rw [List.sum_cons] at bound
    unfold monthDay
    by_cases first : day < length
    · simp [first]
    · have later : day - length < rest.sum := by omega
      rw [if_neg first]
      obtain ⟨month, length', listed, inside⟩ := ih later
      exact ⟨Nat.succ_lt_succ month, length', List.mem_cons_of_mem _ listed, inside⟩

theorem dayOf_monthDay (bound : day < lengths.sum) :
    dayOf lengths (monthDay lengths day).1 (monthDay lengths day).2 = some day := by
  induction lengths generalizing day with
  | nil => cases bound
  | cons length rest ih =>
    rw [List.sum_cons] at bound
    unfold monthDay
    by_cases first : day < length
    · simp [first, dayOf]
    · have later : day - length < rest.sum := by omega
      rw [if_neg first]
      simp only [dayOf, ih later, Option.map_some, Option.some.injEq]
      omega

end Months

theorem monthDay_year (bound : day < (monthLengths year).sum) :
    (monthDay (monthLengths year) day).1 < 12 ∧ (monthDay (monthLengths year) day).2 < 31 := by
  obtain ⟨month, length, listed, inside⟩ := monthDay_bounds bound
  refine ⟨month, ?_⟩
  have short : length ≤ 31 := by
    simp only [monthLengths, List.mem_cons, List.not_mem_nil, or_false] at listed
    split at listed
    all_goals omega
  omega

theorem sum_monthLengths_le (year : Nat) : (monthLengths year).sum ≤ 366 := by
  unfold monthLengths
  split
  all_goals decide

theorem length_dateText : (dateText year day).length = 10 := by
  simp [dateText]

theorem length_clockText {secs : Nat} : (clockText secs).length = 8 := by
  simp [clockText]

theorem dateText_lt_of_year {year' day' : Nat} (below : year < year') (bound : year' < 10000) :
    dateText year day < dateText year' day' :=
  lt_append (pad_lt below bound) (by simp)

theorem dateText_lt_of_day {day' : Nat} (below : day < day') (bound : day' < (monthLengths year).sum) :
    dateText year day < dateText year day' := by
  obtain ⟨month, inside⟩ := monthDay_year bound
  apply separated_lt
  rcases monthDay_lt below bound with earlier | ⟨same, earlier⟩
  · exact lt_append (pad_lt (by omega) (by omega)) (by simp)
  · rw [same]
    exact separated_lt (pad_lt (by omega) (by omega))

theorem clockText_lt {secs secs' : Nat} (below : secs < secs') (bound : secs' < 86400) :
    clockText secs < clockText secs' := by
  unfold clockText
  rcases Nat.lt_or_ge (secs / 3600) (secs' / 3600) with hour | hour
  · exact lt_append (pad_lt hour (by omega)) (by simp)
  · have sameHour : secs / 3600 = secs' / 3600 := by omega
    rw [sameHour]
    apply separated_lt
    rcases Nat.lt_or_ge (secs / 60 % 60) (secs' / 60 % 60) with minute | minute
    · exact lt_append (pad_lt minute (by omega)) (by simp)
    · have sameMinute : secs / 60 % 60 = secs' / 60 % 60 := by omega
      rw [sameMinute]
      exact separated_lt (pad_lt (by omega) (by omega))

theorem pad_add (front back number : Nat) :
    pad (front + back) number = pad front (number / 10 ^ back) ++ pad back number := by
  induction back generalizing number with
  | zero => simp [pad]
  | succ back ih =>
    rw [← Nat.add_assoc, pad, ih, pad, List.append_assoc, Nat.div_div_eq_div_mul, Nat.pow_succ, Nat.mul_comm]

theorem pad_of_mod (zero : number % 10 ^ width = 0) : ∀ char ∈ pad width number, char = '0' := by
  induction width generalizing number with
  | zero => simp [pad]
  | succ width ih =>
    have last : number % 10 = 0 := by
      exact Nat.mod_eq_zero_of_dvd (Nat.dvd_trans (Nat.dvd_mul_left 10 _) (Nat.dvd_of_mod_eq_zero zero))
    have front : number / 10 % 10 ^ width = 0 := by
      rw [← Nat.mod_mul_right_div_self, Nat.mul_comm, ← Nat.pow_succ, zero]
    intro char member
    rcases List.mem_append.mp member with before | final
    · exact ih front char before
    · rw [List.mem_singleton.mp final, last]
      rfl

theorem forall_pad {P : Char → Prop} (digits : ∀ digit < 10, P (Nat.digitChar digit)) :
    ∀ char ∈ pad width number, P char := by
  induction width generalizing number with
  | zero => simp [pad]
  | succ width ih =>
    intro char member
    rcases List.mem_append.mp member with before | final
    · exact ih char before
    · rw [List.mem_singleton.mp final]
      exact digits _ (Nat.mod_lt number (by decide))

theorem pad_sign : ∀ char ∈ pad width number, ¬ char < '0' ∧ '+' < char := forall_pad (by decide)

section Cut

variable {first second left right : List Char}

theorem not_lt_zeros (digits : ∀ char ∈ first, ¬ char < '0' ∧ '+' < char) (zeros : ∀ char ∈ second, char = '0')
    (same : first.length = second.length) : ¬ first < second := by
  intro below
  induction below with
  | nil => cases same
  | rel head =>
    rw [zeros _ List.mem_cons_self] at head
    exact (digits _ List.mem_cons_self).1 head
  | cons _ ih =>
    rw [List.forall_mem_cons] at digits zeros
    exact ih digits.2 zeros.2 (Nat.succ.inj same)

/-- Digits without the zeros at their end, followed by a sign, are ordered like the digits. -/
theorem cut_lt {k j : Nat} (below : first < second) (same : first.length = second.length)
    (digits : ∀ char ∈ first, ¬ char < '0' ∧ '+' < char) (digits' : ∀ char ∈ second, ¬ char < '0' ∧ '+' < char)
    (zeros : ∀ char ∈ second.drop j, char = '0') : first.take k ++ '+' :: left < second.take j ++ '+' :: right := by
  cases j with
  | zero => exact absurd below (not_lt_zeros digits zeros same)
  | succ j =>
    induction below generalizing k j with
    | nil => cases same
    | rel head =>
      cases k with
      | zero => exact .rel (digits' _ List.mem_cons_self).2
      | succ => exact .rel head
    | cons tail ih =>
      cases k with
      | zero => exact .rel (digits' _ List.mem_cons_self).2
      | succ =>
        rw [List.forall_mem_cons] at digits digits'
        refine .cons ?_
        cases j with
        | zero => exact absurd tail (not_lt_zeros digits.2 zeros (Nat.succ.inj same))
        | succ j => exact ih (Nat.succ.inj same) digits.2 digits'.2 j zeros

end Cut

theorem fractionText_pad (positive : nanos ≠ 0) :
    ∃ k ≤ 9, 0 < k ∧ nanos % 10 ^ (9 - k) = 0 ∧ fractionText nanos = '.' :: pad k (nanos / 10 ^ (9 - k)) := by
  unfold fractionText
  rw [if_neg positive]
  split
  · next millis => exact ⟨3, by decide, by decide, millis, rfl⟩
  · split
    · next micros => exact ⟨6, by decide, by decide, micros, rfl⟩
    · exact ⟨9, by decide, by decide, Nat.mod_one nanos, by rw [Nat.sub_self, Nat.pow_zero, Nat.div_one]⟩

/-- The fraction is what is left of nine digits without groups of zeros at their end. -/
theorem fractionText_cut (positive : nanos ≠ 0) :
    ∃ k, fractionText nanos = '.' :: (pad 9 nanos).take k ∧ ∀ char ∈ (pad 9 nanos).drop k, char = '0' := by
  obtain ⟨k, short, -, zeros, text⟩ := fractionText_pad positive
  have digits := pad_add k (9 - k) nanos
  rw [Nat.add_sub_cancel' short] at digits
  refine ⟨k, ?_, ?_⟩
  · rw [text, digits, List.take_left' length_pad]
  · rw [digits, List.drop_left' length_pad]
    exact pad_of_mod zeros

theorem fractionText_lt {nanos' : Nat} (below : nanos < nanos') (bound : nanos' < 1000000000) :
    fractionText nanos ++ offsetText < fractionText nanos' ++ offsetText := by
  obtain ⟨j, second, zeros⟩ := fractionText_cut (Nat.ne_of_gt (Nat.zero_lt_of_lt below))
  rw [second]
  by_cases zero : nanos = 0
  · rw [zero]
    exact List.cons_lt_cons_iff.mpr (.inl (by decide))
  · obtain ⟨k, first, -⟩ := fractionText_cut zero
    rw [first, List.cons_append, List.cons_append, List.cons_lt_cons_iff]
    exact .inr ⟨rfl, cut_lt (pad_lt below bound) (by simp) pad_sign pad_sign zeros⟩

theorem chars_lt {t t' : DateTime} (below : t.rank < t'.rank) : t.chars < t'.chars := by
  have days' := Nat.le_trans t'.day_lt (sum_monthLengths_le t'.year)
  have secs' := t'.secs_lt
  have nanos' := t'.nanos_lt
  unfold DateTime.rank at below
  unfold DateTime.chars
  rcases Nat.lt_trichotomy t.year t'.year with year | year | year
  · exact lt_append (dateText_lt_of_year year t'.year_lt) (by simp only [length_dateText])
  · rw [year] at below ⊢
    rcases Nat.lt_trichotomy t.dayOfYear t'.dayOfYear with day | day | day
    · exact lt_append (dateText_lt_of_day day t'.day_lt) (by simp only [length_dateText])
    · rw [day] at below ⊢
      apply separated_lt
      rcases Nat.lt_trichotomy t.secs t'.secs with second | second | second
      · exact lt_append (clockText_lt second secs') (by simp only [length_clockText])
      · rw [second] at below ⊢
        exact List.append_left_lt (fractionText_lt (by omega) nanos')
      · omega
    · omega
  · omega

/-- Texts are ordered like the points in time they stand for. -/
theorem toRfc3339_lt {t t' : DateTime} (below : t.rank < t'.rank) : t.toRfc3339 < t'.toRfc3339 := by
  rw [String.lt_iff, DateTime.toRfc3339, DateTime.toRfc3339, String.toList_ofList, String.toList_ofList]
  exact chars_lt below

theorem toDigit_pad : ∀ char ∈ pad width number, (Text.toDigit char).isSome = true := forall_pad (by decide)

theorem readNanos_pad {k : Nat} (positive : 0 < k) (short : k ≤ 9) (bound : number < 10 ^ k) :
    readNanos (pad k number) = some (number * 10 ^ (9 - k)) := by
  have nonempty : pad k number ≠ [] := by
    intro empty
    have length := congrArg List.length empty
    rw [length_pad] at length
    exact Nat.ne_of_gt positive length
  have all : (pad k number).take 9 = pad k number := List.take_of_length_le (by simpa using short)
  have read : readFixed k (pad k number ++ []) = some (number, []) := readFixed_pad bound
  rw [List.append_nil] at read
  unfold readNanos
  rw [if_neg nonempty]
  simp only [all, length_pad, read, Option.map_some]

theorem readFraction_fractionText (bound : nanos < 1000000000) :
    readFraction (fractionText nanos ++ offsetText) = some (nanos, offsetText) := by
  by_cases zero : nanos = 0
  · rw [zero]
    rfl
  · obtain ⟨k, short, positive, whole, text⟩ := fractionText_pad zero
    have digits : (pad k (nanos / 10 ^ (9 - k)) ++ offsetText).takeWhile (fun char => (Text.toDigit char).isSome) =
        pad k (nanos / 10 ^ (9 - k)) := by
      rw [List.takeWhile_append_of_pos toDigit_pad]
      exact List.append_nil _
    have small : nanos / 10 ^ (9 - k) < 10 ^ k := by
      apply Nat.div_lt_of_lt_mul
      rw [← Nat.pow_add, Nat.sub_add_cancel short]
      exact bound
    rw [text, List.cons_append]
    unfold readFraction
    simp only [digits, readNanos_pad positive short small, Option.map_some, length_pad,
      Nat.div_mul_cancel (Nat.dvd_of_mod_eq_zero whole), List.drop_left' length_pad]

theorem ofFields_fields (t : DateTime) : ofFields t.year ((monthDay (monthLengths t.year) t.dayOfYear).1 + 1)
      ((monthDay (monthLengths t.year) t.dayOfYear).2 + 1) (t.secs / 3600) (t.secs / 60 % 60) (t.secs % 60) t.nanos =
      some t := by
  have secs := t.secs_lt
  have sum : t.secs / 3600 * 3600 + t.secs / 60 % 60 * 60 + t.secs % 60 = t.secs := by omega
  unfold ofFields
  rw [if_neg (by omega), Nat.add_sub_cancel, Nat.add_sub_cancel, dayOf_monthDay t.day_lt]
  simp only [sum]
  rw [dif_pos ⟨t.year_lt, t.day_lt, t.secs_lt, t.nanos_lt⟩]

theorem expect_self {char : Char} : expect char (char :: rest) = some rest := if_pos rfl

theorem bind_eq_of_some {α β : Type} {step : Option α} {next : α → Option β} {found : α} {result : β}
    (first : step = some found) (second : next found = some result) : (step >>= next) = some result := by
  rw [first]
  exact second

/-- A text is read back to the point in time it was written for. -/
theorem parse_toRfc3339 (t : DateTime) : parse t.toRfc3339 = some t := by
  obtain ⟨month, day⟩ := monthDay_year t.day_lt
  have secs := t.secs_lt
  have year : t.year < 10 ^ 4 := t.year_lt
  have two {number : Nat} {rest : List Char} (bound : number < 100) :
      readFixed 2 (pad 2 number ++ rest) = some (number, rest) := readFixed_pad bound
  unfold parse DateTime.toRfc3339 DateTime.chars dateText clockText
  simp only [String.toList_ofList, List.append_assoc, List.cons_append]
  refine bind_eq_of_some (readFixed_pad year) (bind_eq_of_some expect_self ?_)
  refine bind_eq_of_some (two (by omega)) (bind_eq_of_some expect_self ?_)
  refine bind_eq_of_some (two (by omega)) (bind_eq_of_some expect_self ?_)
  refine bind_eq_of_some (two (by omega)) (bind_eq_of_some expect_self ?_)
  refine bind_eq_of_some (two (by omega)) (bind_eq_of_some expect_self ?_)
  refine bind_eq_of_some (two (by omega)) (bind_eq_of_some (readFraction_fractionText t.nanos_lt) ?_)
  exact (if_pos rfl).trans (ofFields_fields t)

end Actr.Library.Rfc3339
