import ItemAppraisal.Format.Cell

/-!
# Colonies

Lines of planetary routes and stores: whether the commodity is routed, its name, its quantity, and
perhaps its volume.
-/

namespace ItemAppraisal

open Text (Pattern)

/-- A line of a colony. -/
structure Commodity where
  name : String
  quantity : Int
  routed : Bool
  volume : Float
  deriving DecidableEq

namespace Commodity

/-- The shape of a line. -/
def shape : Pattern :=
  Format.line [.group 1 (.alt (.text "Routed") (.text "Not Routed")), Format.tab,
    .group 2 Format.visible, Format.tab, .group 3 Format.number,
    .optional (.all [Format.tab, .group 4 Format.number, .text " m3"])]

/-- Reads a line. -/
def read? (s : List Char) : Option Commodity :=
  (shape.match? s).map fun caps =>
    { name := caps.text 2
      quantity := Quantity.read (caps.get 3)
      routed := caps.text 1 == "Routed"
      volume := Amount.readVolume (caps.get 4) }

/-- The listed item of a line. -/
def listed (i : Commodity) : ListedItem :=
  { name := i.name, quantity := i.quantity, details := { routed := i.routed, volume := i.volume } }

end Commodity

end ItemAppraisal
