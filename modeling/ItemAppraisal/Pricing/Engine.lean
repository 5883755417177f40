import ItemAppraisal.Pricing.BlueprintCopy
import ItemAppraisal.Pricing.OreYield

/-!
# Pricing

Items get the type that their name stands for and its price: that of a blueprint copy, that of the plain
ore with a bonus, or that of the type in the market. Items without a type stay as they are, and rejected
ones have no price; neither counts in the totals.
-/

namespace ItemAppraisal

/-- What prices are found with. -/
structure Pricing where
  types : TypeCatalog
  prices : PriceCatalog
  ores : List OreFamily
  settings : PricingSettings

/-- The percentage for a type: none without a base adjustment; with one, that of the type, or else the
base. -/
def adjustmentFor (adjustments : Table Int Float) (typeId : Int) : Float :=
  let base := (adjustments.get? baseAdjustmentKey).getD 0
  if base == 0 then 0 else (adjustments.get? typeId).getD base

namespace Pricing

/-- The type of an item: by its id if it has one, by its name if not. -/
def record? (p : Pricing) (item : AppraisedItem) : Option TypeRecord :=
  if item.isResolved then p.types.byId? item.typeId else p.types.byName? item.name

/-- An item with the id, the name and the volume of its type. -/
def withRecord (item : AppraisedItem) (r : TypeRecord) : AppraisedItem :=
  { item with typeId := r.id, typeName := r.name, typeVolume := r.unitVolume }

/-- An item with its type, if it has one. -/
def resolve (p : Pricing) (item : AppraisedItem) : AppraisedItem :=
  match p.record? item with
  | some r => withRecord item r
  | none => item

/-- The price of a type in a market, with the way in which it was found; no prices without one. -/
def marketPrices (p : Pricing) (market : String) (typeId : Int) : Prices :=
  match p.prices.price? market typeId with
  | some price => if price.strategy.isEmpty then { price with strategy := "market" } else price
  | none => {}

/-- The price of the plain ore with the bonus of a quality. -/
def orePrices (p : Pricing) (market : String) (m : OreMatch) (base : TypeRecord) : Prices :=
  { ((p.prices.price? market base.id).getD {}).scale m.multiplier with
    strategy := "ore_yield", basis := m.basis }

/-- The price of an item that is no blueprint copy: that of a quality of an ore if the plain ore is a
known type. -/
def ordinaryPrices (p : Pricing) (market : String) (item : AppraisedItem) : Prices :=
  match (OreFamily.match? p.ores item.name).bind fun m => (p.types.byName? m.base).map (m, ·) with
  | some (m, base) => p.orePrices market m base
  | none => p.marketPrices market item.typeId

/-- The price of an item with a type. -/
def pricesFor (p : Pricing) (market : String) (item : AppraisedItem) : Prices :=
  if item.details.blueprintCopy then
    match CopyValue.ofItem? p.types p.prices p.settings market item with
    | some v =>
      if p.settings.valueBlueprintCopies then v.net else .ofStrategy blueprintCopyStrategy
    | none => {}
  else p.ordinaryPrices market item

/-- Whether an item has a type and is not rejected. -/
def counts (p : Pricing) (item : AppraisedItem) : Bool :=
  (p.record? item).isSome && !item.rejected

/-- An item with its type and its price. -/
def priceItem (p : Pricing) (market : String) (adjustments : Table Int Float)
    (item : AppraisedItem) : AppraisedItem :=
  match p.record? item with
  | none => item
  | some r =>
    let item := withRecord item r
    if item.rejected then { item with prices := {} }
    else { item with
      prices := p.pricesFor market item
      adjustment := adjustmentFor adjustments r.id }

/-- Items with their types and prices, and the totals of those that count. -/
def priceItems (p : Pricing) (market : String) (adjustments : Table Int Float)
    (items : List AppraisedItem) : Valuation :=
  let price := p.priceItem market adjustments
  { totals := ((items.filter p.counts).map price).foldl Totals.add {}
    items := items.map price }

end Pricing

end ItemAppraisal
