import ItemAppraisal.Format.Cell

/-!
# Mining ledgers

Lines of a date, an ore, a quantity, a volume, perhaps an estimated value, and a solar system.
-/

namespace ItemAppraisal

open Text (Pattern)

/-- A line of a mining ledger. -/
structure MinedOre where
  date : String
  name : String
  quantity : Int
  volume : Float
  /-- The value at the time of mining, zero if the column is missing. -/
  estimatedValue : Float
  solarSystem : String
  deriving DecidableEq

namespace MinedOre

/-- The shape of a line. -/
def shape : Pattern :=
  Format.line [.group 1 Format.date, Format.tab, .group 2 Format.visible, Format.tab,
    .group 3 Format.number, Format.tab, .group 4 (.all [Format.number, .text " m3"]),
    .optional (.seq Format.tab (.group 5 (.all [Format.number, .text " ISK"]))), Format.tab,
    .group 6 Format.visible]

/-- Reads a line. -/
def read? (s : List Char) : Option MinedOre :=
  (shape.match? s).map fun caps =>
    { date := caps.text 1
      name := caps.text 2
      quantity := Quantity.read (caps.get 3)
      volume := Amount.readVolume (caps.get 4)
      estimatedValue := Amount.read (caps.get 5)
      solarSystem := caps.text 6 }

/-- The listed item of a line. -/
def listed (i : MinedOre) : ListedItem :=
  { name := i.name
    quantity := i.quantity
    details := { location := i.solarSystem, volume := i.volume } }

end MinedOre

end ItemAppraisal
