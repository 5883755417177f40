import ItemAppraisal.Buyback.Decomposition
import ItemAppraisal.Pricing.Engine

/-!
# Buybacks

Every accepted item is broken down on its own, and the materials of all of them together make the
buyback. Materials are priced in a market of their own, with adjustments.
-/

namespace ItemAppraisal

/-- What buybacks are made with. -/
structure Buyback where
  types : TypeCatalog
  settings : BuybackSettings

namespace Buyback

/-- An item that is rejected if its type is known and not eligible, and accepted if it is eligible. -/
def judge (b : Buyback) (item : AppraisedItem) : AppraisedItem :=
  if item.isResolved then
    match b.types.byId? item.typeId with
    | some r => { item with rejected := !isEligible b.types b.settings r }
    | none => item
  else item

/-- Whether an item has a known type that is not eligible. -/
def isRejected (b : Buyback) (item : AppraisedItem) : Bool :=
  item.isResolved && (b.types.byId? item.typeId).any fun r => !isEligible b.types b.settings r

/-- The materials of an item, `none` if it is rejected or its type is not known. -/
def basket? (b : Buyback) (item : AppraisedItem) : Option Basket :=
  if item.rejected || !item.isResolved then none
  else (b.types.byId? item.typeId).map fun r => decompose b.types b.settings r item.quantity

/-- A material as an item to be priced. -/
def lineItem (l : MaterialLine) : AppraisedItem :=
  { name := l.name
    typeId := l.typeId
    quantity := l.quantity
    qualifier := l.reportedQualifier
    efficiency := l.reportedEfficiency }

/-- A basket with prices, the largest quantities first. -/
def priceBasket (b : Buyback) (pricing : Pricing) (basket : Basket) : Valuation :=
  pricing.priceItems b.settings.market b.settings.adjustmentTable
    (AppraisedItem.sortByQuantity (basket.lines.map lineItem))

/-- An item with its priced materials. -/
def withBasket (b : Buyback) (pricing : Pricing) (item : AppraisedItem) : AppraisedItem :=
  match b.basket? item with
  | some basket => { item with buyback := some (b.priceBasket pricing basket) }
  | none => item

/-- The materials of all items together. -/
def globalBasket (b : Buyback) (items : List AppraisedItem) : Basket :=
  (items.filterMap b.basket?).foldl Basket.merge .empty

/-- Items with their priced materials, and the priced materials of all of them together. -/
def calculate (b : Buyback) (pricing : Pricing) (items : List AppraisedItem) :
    List AppraisedItem × Valuation :=
  (items.map (b.withBasket pricing), b.priceBasket pricing (b.globalBasket items))

end Buyback

end ItemAppraisal
