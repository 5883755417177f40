import ItemAppraisal.Decimal.Reading
import ItemAppraisal.Text.Digit
import ItemAppraisal.Text.Part

/-!
# Quantities

A quantity is an integer of 64 bits with a sign. Sums of quantities stop at the ends of that range, and
a number read from a paste stops there too. Main statements: `saturate` keeps what is in the range and
stays in it; adding up amounts that are not negative gives their sum or the end of the range
(`foldl_add`); whatever is read is in the range (`read_inRange`).
-/

namespace ItemAppraisal

namespace Quantity

/-- The largest quantity, `2^63 - 1`. -/
def greatest : Int := 9223372036854775807

/-- The least quantity, `-2^63`. -/
def least : Int := -9223372036854775808

/-- An integer that is a quantity. -/
def InRange (n : Int) : Prop := least ≤ n ∧ n ≤ greatest

instance (n : Int) : Decidable (InRange n) := inferInstanceAs (Decidable (_ ∧ _))

/-- The quantity nearest to an integer. -/
def saturate (n : Int) : Int :=
  max least (min greatest n)

/-- The sum of two quantities, or the end of the range that it passes. -/
def add (a b : Int) : Int :=
  saturate (a + b)

theorem saturate_inRange (n : Int) : InRange (saturate n) := by
  simp only [InRange, saturate, least, greatest]
  omega

theorem saturate_of_inRange {n : Int} (h : InRange n) : saturate n = n := by
  simp only [InRange, saturate] at *
  omega

theorem add_nonneg {a b : Int} (ha : 0 ≤ a) (hb : 0 ≤ b) : 0 ≤ add a b := by
  simp only [add, saturate, least, greatest]
  omega

/-- A quotient by a positive number stays between any two numbers around zero that the dividend is between. -/
theorem tdiv_between {low high n divisor : Int} (around : low ≤ 0 ∧ 0 ≤ high) (between : low ≤ n ∧ n ≤ high)
    (positive : 0 < divisor) : low ≤ Int.tdiv n divisor ∧ Int.tdiv n divisor ≤ high := by
  rcases Int.le_total 0 n with nonneg | nonpos
  · have lower := Int.tdiv_nonneg nonneg (Int.le_of_lt positive)
    have upper := Int.tdiv_le_self divisor nonneg
    omega
  · have opposite : 0 ≤ -n := Int.neg_nonneg_of_nonpos nonpos
    have lower := Int.tdiv_nonneg opposite (Int.le_of_lt positive)
    have upper := Int.tdiv_le_self divisor opposite
    rw [Int.neg_tdiv] at lower upper
    omega

theorem sum_nonneg {amounts : List Int} (ha : ∀ a ∈ amounts, 0 ≤ a) : 0 ≤ amounts.foldr (· + ·) 0 := by
  induction amounts with
  | nil => exact Int.le_refl 0
  | cons a amounts ih =>
    obtain ⟨head, tail⟩ := List.forall_mem_cons.1 ha
    rw [List.foldr_cons]
    exact Int.add_nonneg head (ih tail)

theorem sum_append (amounts more : List Int) :
    (amounts ++ more).foldr (· + ·) 0 = amounts.foldr (· + ·) 0 + more.foldr (· + ·) 0 :=
  List.sum_append

theorem sum_perm {amounts amounts' : List Int} (perm : amounts.Perm amounts') :
    amounts.foldr (· + ·) 0 = amounts'.foldr (· + ·) 0 :=
  perm.foldr_eq' (fun a _ b _ rest => Int.add_left_comm b a rest) 0

theorem foldl_add_nonneg {amounts : List Int} {start : Int} (hs : 0 ≤ start) (ha : ∀ a ∈ amounts, 0 ≤ a) :
    0 ≤ amounts.foldl add start := by
  induction amounts generalizing start with
  | nil => exact hs
  | cons a amounts ih =>
    obtain ⟨head, tail⟩ := List.forall_mem_cons.1 ha
    exact ih (add_nonneg hs head) tail

/-- Sums of amounts that are not negative reach the end of the range once and stay there. -/
theorem foldl_add {amounts : List Int} {start : Int} (hs : 0 ≤ start) (hg : start ≤ greatest)
    (ha : ∀ a ∈ amounts, 0 ≤ a) :
    amounts.foldl add start = min (start + amounts.foldr (· + ·) 0) greatest := by
  induction amounts generalizing start with
  | nil => simp only [List.foldl_nil, List.foldr_nil]; omega
  | cons a amounts ih =>
    obtain ⟨head, tail⟩ := List.forall_mem_cons.1 ha
    have rest : 0 ≤ amounts.foldr (· + ·) 0 := sum_nonneg tail
    have step : add start a = min (start + a) greatest := by
      simp only [add, saturate, least]
      omega
    rw [List.foldl_cons, List.foldr_cons, ih (add_nonneg hs head) (by omega) tail, step]
    omega

/-- The quantity nearest to a double in the direction of zero; NaN is zero. -/
def ofDouble (x : Float) : Int :=
  match Decimal.magnitude x with
  | .finite _ _ => saturate ((Decimal.truncate? x).getD 0)
  | .infinite => if Decimal.isNegative x then least else greatest
  | .notANumber => 0

/-! ## Reading -/

/-- A separator of digit groups that is dropped wherever it stands. -/
def isDroppedSeparator (c : Char) : Bool :=
  c == ',' || c == Char.ofNat 39

/-- Digits whose number satisfies a condition. -/
def isGroup (size : Nat → Bool) (s : List Char) : Bool :=
  size s.length && s.all Text.isDigit

/-- Groups of three digits joined by points, with one to three digits in front. -/
def isPointGrouped (s : List Char) : Bool :=
  match Text.splitAt (· == '.') s with
  | first :: second :: rest =>
    isGroup (fun n => 1 ≤ n && n ≤ 3) first && (second :: rest).all (isGroup (· == 3))
  | _ => false

/-- An integer in the range of quantities. -/
def integer? (s : List Char) : Option Int :=
  (Decimal.integer? s).filter fun n => decide (InRange n)

/-- A number whose groups are separated by points. Beyond the range it is zero. -/
def readGroups (s : List Char) : Int :=
  (integer? (s.filter (· != '.'))).getD 0

/-- A number without groups: an integer in the range as it is, and anything else as a double of which a
fraction is cut off. So an integer beyond the range is the end of the range (`readPlain_eq`). -/
def readPlain (s : List Char) : Int :=
  match integer? s with
  | some n => n
  | none => ((Decimal.double? s).map ofDouble).getD 0

/-- Reads a quantity. Commas and apostrophes are dropped; points separate groups if every group but the
first has three digits, and otherwise start a fraction. What is no number is zero. -/
def read (token : List Char) : Int :=
  let s := (Text.trimBy Text.isBlank token).filter (!isDroppedSeparator ·)
  if isPointGrouped s then readGroups s else readPlain s

theorem ofDouble_inRange (x : Float) : InRange (ofDouble x) := by
  rw [ofDouble]
  split
  · exact saturate_inRange _
  · split <;> decide
  · decide

theorem inRange_of_integer? {s : List Char} {n : Int} (read : integer? s = some n) : InRange n :=
  of_decide_eq_true (Option.filter_eq_some_iff.1 read).2

theorem readGroups_inRange (s : List Char) : InRange (readGroups s) := by
  rw [readGroups]
  cases found : integer? (s.filter (· != '.')) with
  | none => decide
  | some n => exact inRange_of_integer? found

theorem readPlain_inRange (s : List Char) : InRange (readPlain s) := by
  rw [readPlain]
  cases found : integer? s with
  | some n => exact inRange_of_integer? found
  | none =>
    cases Decimal.double? s with
    | none => decide
    | some x => exact ofDouble_inRange x

theorem read_inRange (token : List Char) : InRange (read token) := by
  rw [read]
  split
  · exact readGroups_inRange _
  · exact readPlain_inRange _

end Quantity

namespace Amount

/-- Reads an amount of money such as `-1,234,567.89 ISK`. What is no number is zero. -/
def read (token : List Char) : Float :=
  let s := Text.dropEndings "ISK".toList (Text.trimBy Text.isBlank token)
  let s := (Text.trimBy Text.isBlank s).filter (!Quantity.isDroppedSeparator ·)
  (Decimal.double? s).getD 0

/-- Reads a volume such as `1,234.5 m3`. -/
def readVolume (token : List Char) : Float :=
  read (Text.dropEndings "m3".toList (Text.trimBy Text.isBlank token))

/-- Puts a comma before every group of three digits that follows another. -/
def groupThousands (whole : List Char) : List Char :=
  match whole with
  | [] => []
  | c :: rest => if rest.length % 3 = 0 ∧ rest ≠ [] then c :: ',' :: groupThousands rest
      else c :: groupThousands rest

/-- An amount with two decimal places, a half to the even neighbour, and commas between thousands. -/
def display (x : Float) : String :=
  let text := Decimal.fixedMagnitude 2 x
  let (whole, places) := match text.span (· != '.') with
    | (whole, _ :: places) => (whole, places)
    | (whole, []) => (whole, ['0', '0'])
  let sign := if x < 0 then ['-'] else []
  String.ofList (sign ++ groupThousands whole ++ '.' :: places)

/-- A volume in cubic metres. -/
def displayVolume (x : Float) : String :=
  display x ++ " m3"

end Amount

end ItemAppraisal
