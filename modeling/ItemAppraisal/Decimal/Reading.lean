import ItemAppraisal.Decimal.Fixed

/-!
# Reading numbers

Integers and doubles in decimal notation. Only ASCII digits have a value here. Main statement: the
digits of a natural number read back.
-/

namespace ItemAppraisal.Decimal

/-! ## Natural numbers and integers -/

/-- The value of a row of digits. -/
def value (row : List Char) : Nat :=
  row.foldl (fun n c => 10 * n + (c.toNat - '0'.toNat)) 0

/-- A row of one or more ASCII digits. -/
def isNumeral (row : List Char) : Bool :=
  !row.isEmpty && row.all Char.isDigit

/-- A natural number: one or more digits and nothing else. -/
def natural? (s : List Char) : Option Nat :=
  if isNumeral s then some (value s) else none

/-- The sign of a number, set for a minus, and what follows it. -/
def splitSign : List Char → Bool × List Char
  | '-' :: rest => (true, rest)
  | '+' :: rest => (false, rest)
  | s => (false, s)

/-- An integer: a natural number after at most one sign. -/
def integer? (s : List Char) : Option Int :=
  let (negative, rest) := splitSign s
  (natural? rest).map fun n => if negative then -(n : Int) else n

/-! ## Digits -/

theorem value_eq_ofDigitChars (row : List Char) : value row = Nat.ofDigitChars 10 row 0 :=
  Nat.ofDigitChars_eq_foldl.symm

theorem value_digits (n : Nat) : value (digits n) = n := by
  rw [value_eq_ofDigitChars]
  exact Nat.ofDigitChars_ten_toDigits

/-- Leading zeros are worth nothing. -/
theorem value_zeros_append (count : Nat) (row : List Char) :
    value (List.replicate count '0' ++ row) = value row := by
  simp only [value_eq_ofDigitChars, Nat.ofDigitChars_append, Nat.ofDigitChars_replicate_zero, Nat.mul_zero]

theorem isDigit_of_mem_digits {n : Nat} {c : Char} (member : c ∈ digits n) : c.isDigit = true :=
  Nat.isDigit_of_mem_toDigits (by decide) (by decide) member

theorem digits_ne_nil (n : Nat) : digits n ≠ [] :=
  Nat.toDigits_ne_nil

theorem natural?_digits (n : Nat) : natural? (digits n) = some n := by
  have numeral : isNumeral (digits n) = true := by
    rw [isNumeral, Bool.and_eq_true, List.all_eq_true]
    exact ⟨by simp [digits_ne_nil], fun _ => isDigit_of_mem_digits⟩
  rw [natural?, if_pos numeral, value_digits]

/-- The digits of a number are its shortest spelling. -/
theorem head?_digits {n : Nat} (positive : n ≠ 0) : (digits n).head? ≠ some '0' := by
  have single : ∀ d < 10, d ≠ 0 → d.digitChar ≠ '0' := by decide
  induction n using Nat.strongRecOn with
  | ind n ih =>
    rw [digits, Nat.toDigits_eq_if (by decide)]
    split
    · rename_i small
      simpa using single n small positive
    · have shorter := ih (n / 10) (by omega) (by omega)
      obtain ⟨c, rest, same⟩ := List.exists_cons_of_ne_nil (digits_ne_nil (n / 10))
      rw [same] at shorter
      rw [← digits, same]
      exact shorter

/-! ## Doubles -/

/-- From this power of ten on a number is infinite as a double. -/
def infinitePower : Int := 309

/-- Up to this power of ten a number is zero as a double. -/
def zeroPower : Int := -330

/-- A power of ten that a positive number reaches: a binary digit is worth more than 0.30102 decimal
ones. -/
def powerBelow (m : Nat) : Nat :=
  m.log2 * 30102 / 100000

/-- A power of ten that a number does not reach: a binary digit is worth less than 0.30103 decimal
ones. -/
def powerAbove (m : Nat) : Nat :=
  (m.log2 + 1) * 30103 / 100000 + 1

/-- The double nearest to `m · 10^e`. -/
def toDouble (m : Nat) (e : Int) : Float :=
  if m = 0 || e + powerAbove m ≤ zeroPower then 0
  else if infinitePower ≤ e + powerBelow m then 1 / 0
  else Float.ofScientific m (e < 0) e.natAbs

/-- The exponent part of a number: none, or an `e` with an integer. -/
def exponent? : List Char → Option Int
  | [] => some 0
  | c :: rest => if c = 'e' ∨ c = 'E' then integer? rest else none

/-- A decimal without a sign: digits with at most one point among them and an optional exponent. -/
def unsignedDouble? (s : List Char) : Option Float :=
  let (whole, rest) := s.span Char.isDigit
  let (places, rest) := match rest with
    | '.' :: rest => rest.span Char.isDigit
    | rest => ([], rest)
  if whole.isEmpty && places.isEmpty then none
  else (exponent? rest).map fun e => toDouble (value (whole ++ places)) (e - places.length)

/-- The words for numbers that have no digits, in any case. -/
def namedDouble? (s : List Char) : Option Float :=
  let word := String.ofList (s.map Char.toLower)
  if word = "inf" ∨ word = "infinity" then some (1 / 0)
  else if word = "nan" then some (0 / 0)
  else none

/-- A double: a decimal, an infinity or NaN, after at most one sign. -/
def double? (s : List Char) : Option Float :=
  let (negative, rest) := splitSign s
  ((unsignedDouble? rest).or (namedDouble? rest)).map fun x => if negative then -x else x

end ItemAppraisal.Decimal
