import ItemAppraisal.Format.Cell

/-!
# Contents of containers and ships

Lines of a name, a group, a location and a quantity. The location is one of the known bays and slots.
-/

namespace ItemAppraisal

open Text (Pattern)

/-- A line of the contents of a container. -/
structure ContainedItem where
  name : String
  group : String
  location : String
  quantity : Int
  deriving DecidableEq, Repr

namespace ContainedItem

/-- The bays and slots that a line may name. -/
def locations : List String :=
  ["Cargo Hold", "Drone Bay", "Fighter Bay", "Fleet Hangar", "Fuel Bay", "Ore Hold",
    "Ship Maintenance Bay", "High Slot", "Medium Slot", "Low Slot", "Rig Slot", "Subsystem Slot",
    "Implant", "Booster", "Quafe Bay"]

/-- The shape of a location: the earliest of the list that fits. -/
def locationShape : Pattern :=
  (locations.map Pattern.text).foldr .alt (.one fun _ => false)

/-- The shape of a line. -/
def shape : Pattern :=
  Format.line [.group 1 Format.visible, Format.tab, .group 2 (.eager Format.isVisible), Format.tab,
    .group 3 locationShape, Format.tab, .group 4 Format.number]

/-- Reads a line. -/
def read? (s : List Char) : Option ContainedItem :=
  (shape.match? s).map fun caps =>
    { name := caps.text 1
      group := caps.text 2
      location := caps.text 3
      quantity := Quantity.read (caps.get 4) }

/-- The listed item of a line. -/
def listed (i : ContainedItem) : ListedItem :=
  { name := i.name, quantity := i.quantity, details := { location := i.location } }

end ContainedItem

end ItemAppraisal
