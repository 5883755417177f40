import ItemAppraisal.Item.Appraised
import ItemAppraisal.Markets.Catalog
import ItemAppraisal.Settings
import ItemAppraisal.Text.Part
import ItemAppraisal.Types.Catalog

/-!
# Blueprint copies

A copy is worth what its product sells for, less the cost of the materials, for each of its runs.
Products are priced at the best offer; materials at the cheaper of the best offer and the best bid, of
which a share counts.
-/

namespace ItemAppraisal

/-- The way in which blueprint copies are priced. -/
def blueprintCopyStrategy : String := "bpc"

/-- The value of a blueprint copy, in its parts. -/
structure CopyValue where
  /-- What the products of one run sell for. -/
  product : Prices
  /-- What the materials of one run cost. -/
  cost : Prices
  runs : Int
  deriving DecidableEq

namespace CopyValue

/-- The value of all runs, of which there is at least one. -/
def net (v : CopyValue) : Prices :=
  (v.product - v.cost).scale (Float.ofInt (max v.runs 1))

/-- What the names of blueprints end with. -/
def blueprintEnding : List Char := " Blueprint".toList

/-- The name of the product of a blueprint. -/
def productName (blueprint : String) : String :=
  String.ofList (Text.withoutEnding blueprintEnding blueprint.toList)

/-- What one run makes: the products of the record, or one unit of the type. -/
def productsOf (r : TypeRecord) : List Component :=
  if r.products.isEmpty then [⟨r.id, 1⟩] else r.products

/-- The sum over components of unit prices times quantities. Components without a price in the market
are passed over. -/
def sumPrices (prices : PriceCatalog) (market : String) (unit : Prices → Float)
    (components : List Component) : Prices :=
  components.foldl (fun sum c =>
    match prices.price? market c.typeId with
    | some p => sum + (p.setPrice (unit p)).scale (Float.ofInt c.quantity)
    | none => sum) (.ofStrategy blueprintCopyStrategy)

/-- The market in which products are priced. -/
def productMarket (s : PricingSettings) (market : String) : String :=
  if Text.equalIgnoringAsciiCase market s.replacedMarket then s.replacingMarket else market

/-- The value of a blueprint copy, `none` if its product is not a known type. -/
def ofItem? (types : TypeCatalog) (prices : PriceCatalog) (s : PricingSettings) (market : String)
    (item : AppraisedItem) : Option CopyValue :=
  (types.byName? (productName item.displayName)).map fun product =>
    { product := sumPrices prices (productMarket s market) (·.sell.min) (productsOf product)
      cost := (sumPrices prices market (fun p => Decimal.least p.sell.min p.buy.max)
        product.components).scale s.productionEfficiency
      runs := item.details.copyRuns }

end CopyValue

end ItemAppraisal
