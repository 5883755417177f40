import ItemAppraisal.Item.Listed
import ItemAppraisal.Prices.Basic

/-!
# Appraised items

Items with their types and prices, their value, and the sums of values over a list of items. An item may
carry the priced materials that it breaks down into.
-/

namespace ItemAppraisal

/-- The step that a material came out of. -/
inductive Qualifier where
  /-- Taken as it is. -/
  | direct
  /-- Refined from ore or ice. -/
  | refine
  /-- Reprocessed from anything else. -/
  | reprocess
  deriving DecidableEq, Repr

/-- The word for a step. -/
def Qualifier.text : Qualifier → String
  | direct => "DIRECT"
  | refine => "REFINE"
  | reprocess => "REPROCESS"

/-- Sums over a list of items. -/
structure Totals where
  buy : Float := 0
  sell : Float := 0
  volume : Float := 0
  deriving DecidableEq, Inhabited

mutual

/-- An item with its type and its price. Type id 0 stands for an item whose type is not known. -/
structure AppraisedItem where
  name : String := ""
  typeId : Int := 0
  typeName : String := ""
  /-- The volume of one unit. -/
  typeVolume : Float := 0
  quantity : Int := 0
  prices : Prices := {}
  /-- The percentage of the price that counts; zero stands for all of it. -/
  adjustment : Float := 0
  rejected : Bool := false
  /-- The step that the material came out of, if it is one and came out of one kind of step. -/
  qualifier : Option Qualifier := none
  /-- The efficiency of that step in percent. -/
  efficiency : Float := 0
  /-- The materials that the item breaks down into. -/
  buyback : Option Valuation := none
  details : ItemDetails := {}

/-- Priced items with the sums over them. -/
structure Valuation where
  totals : Totals := {}
  items : List AppraisedItem := []

end

instance : Inhabited AppraisedItem := ⟨{}⟩

instance : Inhabited Valuation := ⟨{}⟩

namespace AppraisedItem

/-- A listed item before its type is looked up. -/
def ofListed (i : ListedItem) : AppraisedItem :=
  { name := i.name, quantity := i.quantity, details := i.details }

/-- Whether the type is known. -/
def isResolved (i : AppraisedItem) : Bool :=
  i.typeId != 0

/-- The name of the type, or the name as it was listed. -/
def displayName (i : AppraisedItem) : String :=
  if i.typeName.isEmpty then i.name else i.typeName

/-- The share of the price that counts. -/
def effectiveAdjustment (i : AppraisedItem) : Float :=
  if i.adjustment == 0 then 1 else i.adjustment / 100

/-- The quantity as a double. -/
def units (i : AppraisedItem) : Float :=
  Float.ofInt i.quantity

/-- The value when it is sold to buyers. -/
def buyTotal (i : AppraisedItem) : Float :=
  i.units * i.effectiveAdjustment * i.prices.buy.max

/-- The value when it is offered for sale. -/
def sellTotal (i : AppraisedItem) : Float :=
  i.units * i.effectiveAdjustment * i.prices.sell.min

/-- The volume of all units. -/
def totalVolume (i : AppraisedItem) : Float :=
  i.units * i.typeVolume

/-- The price of a unit: the best offer, or the best bid if there is no offer. -/
def unitPrice (i : AppraisedItem) : Float :=
  if i.prices.sell.min != 0 then i.effectiveAdjustment * i.prices.sell.min
  else i.effectiveAdjustment * i.prices.buy.max

/-- The price of all units. -/
def value (i : AppraisedItem) : Float :=
  i.units * i.unitPrice

/-- By descending quantity, and by name among equals. -/
def sortByQuantity (items : List AppraisedItem) : List AppraisedItem :=
  items.mergeSort fun a b =>
    b.quantity < a.quantity || (a.quantity == b.quantity && !(b.name < a.name))

/-- By descending value. -/
def sortByValue (items : List AppraisedItem) : List AppraisedItem :=
  items.mergeSort fun a b => Decimal.orderKey b.value ≤ Decimal.orderKey a.value

end AppraisedItem

/-- The sums with one more item. -/
def Totals.add (t : Totals) (i : AppraisedItem) : Totals :=
  { buy := t.buy + i.buyTotal
    sell := t.sell + i.sellTotal
    volume := t.volume + i.totalVolume }

/-- The sum of the quantities. -/
def Valuation.totalQuantity (v : Valuation) : Int :=
  (v.items.map (·.quantity)).foldr (· + ·) 0

end ItemAppraisal
