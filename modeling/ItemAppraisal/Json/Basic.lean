/-!
# JSON values

A document as a tree. The fields of an object keep their order and their repetitions; what a repetition
means is for the reader of the object to say.
-/

namespace ItemAppraisal

/-- The name of a field. -/
structure Json.Name where
  text : String
  /-- Whether the name is written as it is, without escapes. One that stands for a number has to be. -/
  plain : Bool := true
  deriving DecidableEq, Repr

/-- A JSON value. Numbers without fraction and exponent are kept apart from the others. -/
inductive Json where
  | null
  | bool (b : Bool)
  /-- A whole number between `-2^63` and `2^64 - 1`, written without fraction and exponent. -/
  | int (n : Int)
  | float (x : Float)
  | string (s : String)
  | array (elements : List Json)
  | object (fields : List (Json.Name × Json))
  /-- Well-formed text without a value: a number beyond the doubles or a string with half of a
  surrogate pair. -/
  | unrepresentable
  deriving Inhabited

namespace Json

/-- A field of an object. -/
abbrev Field := Name × Json

/-- An object of fields with plain names. -/
def ofFields (fs : List (String × Json)) : Json :=
  object (fs.map fun (name, j) => ({ text := name }, j))

/-- The fields of an object, none for any other value. -/
def fields : Json → List Field
  | object fs => fs
  | _ => []

/-- The first field of an object with a name. -/
def field? (j : Json) (name : String) : Option Json :=
  (j.fields.find? (·.1.text == name)).map (·.2)

/-! ## Fields that may be left out -/

/-- A flag as a field, none if it is off. -/
def flagField (name : String) (b : Bool) : List (String × Json) :=
  if b then [(name, .bool true)] else []

/-- A text as a field, none if it is empty. -/
def textField (name s : String) : List (String × Json) :=
  if s.isEmpty then [] else [(name, .string s)]

/-- A double as a field, none if it is zero. -/
def floatField (name : String) (x : Float) : List (String × Json) :=
  if x == 0 then [] else [(name, .float x)]

/-- An integer as a field, none if it is zero. -/
def intField (name : String) (n : Int) : List (String × Json) :=
  if n == 0 then [] else [(name, .int n)]

/-- A value as a field, none if it is missing. -/
def optionalField {α : Type} (name : String) (encode : α → Json) (a : Option α) :
    List (String × Json) :=
  a.elim [] fun a => [(name, encode a)]

end Json

end ItemAppraisal
