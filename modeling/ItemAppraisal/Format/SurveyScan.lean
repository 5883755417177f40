import ItemAppraisal.Format.Cell

/-!
# Survey scans

Lines of an ore, a quantity and a distance.
-/

namespace ItemAppraisal

open Text (Pattern)

/-- A line of a survey scan. -/
structure SurveyedOre where
  name : String
  quantity : Int
  distance : String
  deriving DecidableEq, Repr

namespace SurveyedOre

/-- The shape of a line. -/
def shape : Pattern :=
  Format.line [.group 1 Format.visible, Format.tab, .group 2 Format.number, Format.tab,
    .group 3 Format.distance]

/-- Reads a line. -/
def read? (s : List Char) : Option SurveyedOre :=
  (shape.match? s).map fun caps =>
    { name := caps.text 1, quantity := Quantity.read (caps.get 2), distance := caps.text 3 }

/-- The listed item of a line. -/
def listed (i : SurveyedOre) : ListedItem :=
  { name := i.name, quantity := i.quantity, details := { distance := i.distance } }

end SurveyedOre

end ItemAppraisal
