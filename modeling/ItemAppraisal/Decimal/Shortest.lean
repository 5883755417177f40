import ItemAppraisal.Decimal.Fixed

/-!
# Shortest decimals

The decimal with the fewest digits that still reads back as a given double, and of those the one
nearest to it.
-/

namespace ItemAppraisal.Decimal

/-- The number `digits · 10^exponent`. -/
structure Scaled where
  digits : Nat
  exponent : Int
  deriving DecidableEq, Repr

/-- Which neighbour a value half-way between two shortest decimals takes. -/
inductive Tie where
  | toEven
  | upward

/-- The reals that read back as `m · 2^q`, with the value itself, as numerators over one denominator.
The lower half of the interval is halved where the exponent changes. -/
structure Neighbourhood where
  low : Nat
  value : Nat
  high : Nat
  den : Nat
  /-- Whether the ends belong to it. -/
  closed : Bool

/-- The neighbourhood of a double: half-way to the next double on either side, the ends included for an
even mantissa. -/
def neighbourhood (m : Nat) (q : Int) : Neighbourhood :=
  let (num, den) := ratio 1 q
  let below := if m == leastNormal && leastExponent < q then 1 else 2
  { low := (4 * m - below) * num
    value := 4 * m * num
    high := (4 * m + 2) * num
    den := 4 * den
    closed := m % 2 == 0 }

/-- Whether the neighbourhood holds `num / den`. -/
def Neighbourhood.holds (n : Neighbourhood) (num den : Nat) : Bool :=
  let x := num * n.den
  if n.closed then n.low * den ≤ x && x ≤ n.high * den
  else n.low * den < x && x < n.high * den

/-- The multiple of `10^e` in the neighbourhood that is nearest to the value. -/
def Neighbourhood.onGrid? (tie : Tie) (n : Neighbourhood) (e : Int) : Option Scaled :=
  let (up, down) := if 0 ≤ e then (Nat.pow 10 e.toNat, 1) else (1, Nat.pow 10 (-e).toNat)
  let num := n.value * down
  let den := n.den * up
  let below := num / den
  let twice := 2 * (num % den)
  let upper := den < twice || (twice == den && match tie with
    | .toEven => below % 2 == 1
    | .upward => true)
  let fitsBelow := n.holds (below * up) down
  let fitsAbove := n.holds ((below + 1) * up) down
  if fitsBelow && !(upper && fitsAbove) then some ⟨below, e⟩
  else if fitsAbove then some ⟨below + 1, e⟩
  else none

/-- How many digits stand before the point of `num / den`; a number below one has none or, for each zero
after its point, one less. -/
def pointPosition (num den : Nat) : Int :=
  if den ≤ num then (digits (num / den)).length
  else 1 - ((digits ((den + num - 1) / num - 1)).length : Int)

/-- The digits without their trailing zeros, of which there are at most `fuel`. -/
def Scaled.dropZeros : Nat → Scaled → Scaled
  | 0, d => d
  | fuel + 1, d =>
    if d.digits ≠ 0 ∧ d.digits % 10 = 0 then dropZeros fuel ⟨d.digits / 10, d.exponent + 1⟩ else d

/-- The shortest decimal for `m · 2^q`: the coarsest decimal grid with a point in the neighbourhood. A
grid of seventeen digits always has one. -/
def shortest (tie : Tie) (m : Nat) (q : Int) : Scaled :=
  let n := neighbourhood m q
  let point := pointPosition n.value n.den
  match (List.range 18).findSome? fun (k : Nat) => n.onGrid? tie (point - k) with
  | some d => d.dropZeros 18
  | none => ⟨0, 0⟩

/-- Digits and zeros with a point where it belongs; `tail` stands after a whole number. -/
def positional (tail : List Char) (d : Scaled) : List Char :=
  let text := digits d.digits
  if 0 ≤ d.exponent then text ++ List.replicate d.exponent.toNat '0' ++ tail
  else
    let places := (-d.exponent).toNat
    let padded := List.replicate (places + 1 - text.length) '0' ++ text
    padded.take (padded.length - places) ++ '.' :: padded.drop (padded.length - places)

/-- A minus sign in front of the text of a number whose sign bit is set. -/
def signed (x : Float) (text : List Char) : List Char :=
  if isNegative x then '-' :: text else text

/-- A double as messages show it: the shortest decimal, never with an exponent. -/
def display (x : Float) : String :=
  String.ofList <| match magnitude x with
    | .finite m q => signed x (if m == 0 then ['0'] else positional [] (shortest .upward m q))
    | .infinite => signed x "inf".toList
    | .notANumber => "NaN".toList

/-- The shortest decimal as a document shows it: with an exponent, which has a sign, outside the range
from `1e-5` to `1e16`, and otherwise with a digit after the point. -/
def documentDigits (d : Scaled) : List Char :=
  let text := digits d.digits
  let point := d.exponent + text.length
  if 0 ≤ d.exponent && point ≤ 16 then positional ['.', '0'] d
  else if -5 < point && point ≤ 16 then positional [] d
  else
    let power := point - 1
    let exponent := 'e' :: (if power < 0 then '-' else '+') :: digits power.natAbs
    match text with
    | [] => []
    | [c] => c :: exponent
    | c :: rest => c :: '.' :: rest ++ exponent

/-- A finite double as a document shows it, `none` for one that has no such form. -/
def documentText? (x : Float) : Option (List Char) :=
  match magnitude x with
  | .finite m q =>
    some (signed x (if m == 0 then "0.0".toList else documentDigits (shortest .toEven m q)))
  | _ => none

end ItemAppraisal.Decimal
