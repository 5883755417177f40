import ItemAppraisal.Format.Cell

/-!
# Loot logs

Lines that contain `20:45:13 Some Pilot has looted 1,000 x Tritanium` from some place on. The items of a
log are ordered by name.
-/

namespace ItemAppraisal

open Text (Pattern)

/-- A line of a loot log. -/
structure Loot where
  time : String
  playerName : String
  quantity : Int
  name : String
  deriving DecidableEq, Repr

namespace Loot

/-- The shape of the part of a line that counts. -/
def shape : Pattern :=
  Format.line [.group 1 (.all [Format.digits 2, .text ":", Format.digits 2, .text ":",
      Format.digits 2]),
    .text " ", .group 2 Format.visible, .text " has looted ", .group 3 Format.number, .text " x ",
    .group 4 Format.visible]

/-- Reads a line. -/
def read? (s : List Char) : Option Loot :=
  (shape.search? s).map fun caps =>
    { time := caps.text 1
      playerName := caps.text 2
      quantity := Quantity.read (caps.get 3)
      name := caps.text 4 }

/-- By name; items with one name stay in their order. -/
def sort (items : List Loot) : List Loot :=
  items.mergeSort fun a b => !(b.name < a.name)

/-- The listed item of a line. -/
def listed (i : Loot) : ListedItem :=
  { name := i.name, quantity := i.quantity, details := { playerName := i.playerName } }

end Loot

end ItemAppraisal
