import ItemAppraisal.Json.Basic
import ItemAppraisal.Decimal.Reading
import ItemAppraisal.Quantity
import ItemAppraisal.Table

/-!
# Decoding JSON

Values of the program's types out of JSON values. A record is an object, or an array of its fields in
their order. Fields that the record does not have are passed over; one that it has may not be repeated.
-/

namespace ItemAppraisal.Json

/-! ## Scalars -/

/-- A truth value. -/
def bool? : Json → Option Bool
  | bool b => some b
  | _ => none

/-- A text. -/
def string? : Json → Option String
  | string s => some s
  | _ => none

/-- A whole number of 64 bits with a sign. -/
def int? : Json → Option Int
  | int n => if Quantity.InRange n then some n else none
  | _ => none

/-- A whole number of 64 bits without a sign. -/
def nat? : Json → Option Nat
  | int n => if 0 ≤ n then some n.toNat else none
  | _ => none

/-- Any number, rounded to the nearest double. -/
def float? : Json → Option Float
  | int n => some (Float.ofInt n)
  | float x => some x
  | _ => none

/-! ## Containers -/

/-- All elements of an array. -/
def list? {α : Type} (decode : Json → Option α) : Json → Option (List α)
  | array js => js.mapM decode
  | _ => none

/-- Null, or a value. -/
def nullable? {α : Type} (decode : Json → Option α) : Json → Option (Option α)
  | null => some none
  | j => (decode j).map some

/-- An object with any names, each decoded to a key; of fields with equal keys the last one counts. -/
def map? {κ α : Type} [DecidableEq κ] (key? : Name → Option κ) (decode : Json → Option α) :
    Json → Option (Table κ α)
  | object fs => (fs.mapM fun (name, j) => do return (← key? name, ← decode j)).map Table.ofList
  | _ => none

/-- An integer as a field name: in its shortest spelling and without escapes. -/
def integerKey? (name : Name) : Option Int :=
  let (negative, row) := match name.text.toList with
    | '-' :: rest => (true, rest)
    | s => (false, s)
  match row with
  | '0' :: _ :: _ => none
  | _ => do
    guard name.plain
    let n ← Decimal.natural? row
    if negative then if n = 0 then none else some (-(n : Int)) else some n

/-- A whole number of 64 bits with a sign as a field name. -/
def intKey? (name : Name) : Option Int :=
  (integerKey? name).filter fun n => decide (Quantity.InRange n)

/-- A whole number of 64 bits without a sign as a field name. -/
def natKey? (name : Name) : Option Nat :=
  (integerKey? name).bind fun n => if 0 ≤ n ∧ n < Decimal.wordCount then some n.toNat else none

/-! ## Records -/

/-- The fields that a record takes from a value. -/
abbrev Record := Table String Json

/-- The fields that a record with the given field names takes from a value. -/
def record? (names : List String) : Json → Option Record
  | object fs =>
    let known := (fs.map fun f => (f.1.text, f.2)).filter fun f => names.contains f.1
    if (known.map (·.1)).eraseDups.length == known.length then some known else none
  | array js => if js.length ≤ names.length then some (names.zip js) else none
  | _ => none

namespace Record

/-- A field that must be there. -/
def required? {α : Type} (fs : Record) (decode : Json → Option α) (name : String) : Option α :=
  (fs.get? name).bind decode

/-- A field with a value for when it is missing. -/
def fieldOr? {α : Type} (fs : Record) (decode : Json → Option α) (default : α) (name : String) :
    Option α :=
  match fs.get? name with
  | some j => decode j
  | none => some default

end Record

end ItemAppraisal.Json
