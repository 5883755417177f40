import ItemAppraisal.Format.Cell

/-!
# Directional scans

Lines of a label, a type and a distance, with the id of the type in front or without. Each line is one
item of its type.
-/

namespace ItemAppraisal

open Text (Pattern)

/-- A line of a directional scan. -/
structure Sighting where
  /-- The id of the type, if the line gives one in ASCII digits that is a quantity. -/
  typeId : Option Int
  label : String
  name : String
  /-- The distance, `-` if it is not known. -/
  distance : String
  deriving DecidableEq, Repr

namespace Sighting

/-- The shape of a line. -/
def shape : Pattern :=
  Format.line [.optional (.seq (.group 1 (.many Text.isDigit)) Format.tab),
    .group 2 (.eager (Format.noneOf "\t")), Format.tab, .group 3 (.many (Format.noneOf "\t")),
    Format.tab, .group 4 (.alt (.text "-") Format.distance)]

/-- Reads a line. -/
def read? (s : List Char) : Option Sighting := do
  let caps ← shape.match? s
  return {
    typeId := Quantity.integer? (caps.get 1)
    label := caps.text 2
    name := caps.text 3
    distance := caps.text 4 }

/-- The listed item of a line. -/
def listed (i : Sighting) : ListedItem :=
  { name := i.name, quantity := 1 }

end Sighting

end ItemAppraisal
