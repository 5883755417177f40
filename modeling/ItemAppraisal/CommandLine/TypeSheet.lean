import ItemAppraisal.Buyback.Decomposition
import ItemAppraisal.CommandLine.Columns
import ItemAppraisal.Markets.Catalog
import ItemAppraisal.Pricing.OreYield

/-!
# Type sheets

The lines that show a type to a person: its data, its materials, its price, and what becomes of it in a
buyback.
-/

namespace ItemAppraisal.CommandLine

/-- The data of a type. -/
def recordLines (r : TypeRecord) : List String :=
  ["", r.name ++ " (" ++ Json.integerText r.id ++ ")",
    "  Group:        " ++ Json.integerText r.groupId,
    "  Category:     " ++ Json.integerText r.categoryId,
    "  Market group: " ++ Json.integerText r.marketGroupId,
    "  Volume:       " ++ Decimal.display r.unitVolume ++ " m3",
    "  Portion size: " ++ Json.integerText r.portion]

/-- The row of a material. -/
def materialRow (types : TypeCatalog) (c : Component) : String :=
  let name := (types.byId? c.typeId).elim "unknown type" (·.name)
  "  " ++ flushRight 10 (Json.integerText c.quantity) ++ " x " ++ name ++ " (" ++
    Json.integerText c.typeId ++ ")"

/-- The materials of a type. -/
def materialRows (types : TypeCatalog) (r : TypeRecord) : List String :=
  if r.materials.isEmpty then [] else ["", "Materials"] ++ r.materials.map (materialRow types)

/-- The price of a type in a market. -/
def priceLine (prices : PriceCatalog) (market : String) (r : TypeRecord) : String :=
  match prices.price? market r.id with
  | some p =>
    "  " ++ market ++ ": sell " ++ Amount.display p.sell.min ++ "  buy " ++ Amount.display p.buy.max
  | none => "  No price in market '" ++ market ++ "'"

/-- A quality of an ore with its bonus. -/
def variantText (v : OreVariant) : String :=
  v.adjective ++ " +" ++ Json.integerText v.bonus ++ "%"

/-- The family that a plain ore gives its name to, compressed or not. -/
def familyOf? (name : String) : Option OreFamily :=
  let base := (Text.afterLead? OreFamily.compressed.toList name.toList).elim name String.ofList
  OreFamily.standard.find? fun f => Text.equalIgnoringAsciiCase f.base base

/-- What a type has to do with ore yields. -/
def oreLines (name : String) : List String :=
  match OreFamily.match? OreFamily.standard name, familyOf? name with
  | some m, _ => ["  Priced by ore yield: " ++ m.basis]
  | none, some f => ["  Quality variants: " ++ ", ".intercalate (f.variants.map variantText)]
  | none, none => []

/-- How a type is broken down. -/
def conversionText : Conversion → String
  | .direct => "taken as-is"
  | .refine rate => "refined at " ++ Decimal.fixed 1 rate ++ "%"
  | .reprocess rate => "reprocessed at " ++ Decimal.fixed 1 rate ++ "%"
  | .leaf => "none, no materials"

/-- What becomes of a type in a buyback. -/
def buybackLines (types : TypeCatalog) (s : BuybackSettings) (r : TypeRecord) : List String :=
  ["", "Buyback", "  Conversion: " ++ conversionText (.of s r),
    "  Eligible:   " ++ (if isEligible types s r then "yes" else "no")]

/-- The lines of a type. -/
def typeLines (types : TypeCatalog) (prices : PriceCatalog) (s : BuybackSettings) (market : String)
    (r : TypeRecord) : List String :=
  recordLines r ++ materialRows types r ++ ["", "Price", priceLine prices market r] ++
    oreLines r.name ++ buybackLines types s r

end ItemAppraisal.CommandLine
