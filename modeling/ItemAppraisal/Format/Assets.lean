import ItemAppraisal.Format.Cell

/-!
# Lists of assets

A line holds a name and a quantity and then any number of columns, of which seven have a meaning. An
empty quantity stands for one item that cannot be stacked.
-/

namespace ItemAppraisal

open Text (Pattern)

/-- A line of an inventory or a hangar. -/
structure Asset where
  name : String
  quantity : Int
  group : String
  category : String
  size : String
  slot : String
  volume : String
  metaLevel : String
  techLevel : String
  deriving DecidableEq, Repr

namespace Asset

/-- The shape of a line. -/
def shape : Pattern :=
  Format.line [.group 1 Format.visible, Format.tab, .group 2 (.eager Format.isNumeric),
    .group 3 (.optional (.seq Format.tab (.eager fun c => c == '\t' || Format.isVisible c)))]

/-- The columns after the quantity, without white space at their ends. -/
def columns (s : List Char) : List String :=
  ((Text.splitAt (· == '\t') s).drop 1).map fun column =>
    String.ofList (Text.trimBy Text.isBlank column)

/-- Reads a line. -/
def read? (s : List Char) : Option Asset := do
  let caps ← shape.match? s
  let columns := columns (caps.get 3)
  let column (n : Nat) := columns[n]?.getD ""
  return {
    name := caps.text 1
    quantity := if (caps.get 2).isEmpty then 1 else Quantity.read (caps.get 2)
    group := column 0
    category := column 1
    size := column 2
    slot := column 3
    volume := column 4
    metaLevel := column 5
    techLevel := column 6 }

/-- The listed item of an asset. -/
def listed (a : Asset) : ListedItem :=
  { name := a.name, quantity := a.quantity }

end Asset

end ItemAppraisal
