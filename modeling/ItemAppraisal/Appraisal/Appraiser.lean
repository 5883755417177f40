import ItemAppraisal.Appraisal.Basic
import ItemAppraisal.Buyback.Engine
import ItemAppraisal.Classification
import ItemAppraisal.Item.Merge

/-!
# Appraising

From a text to an appraisal: the text is read in every format, the items are merged, priced and broken
down.
-/

namespace ItemAppraisal

/-- What texts are appraised with. -/
structure Appraiser where
  settings : Settings
  types : TypeCatalog
  prices : PriceCatalog

namespace Appraiser

/-- The pricing of an appraiser, with the published ores. -/
def pricing (a : Appraiser) : Pricing :=
  { types := a.types
    prices := a.prices
    ores := OreFamily.standard
    settings := a.settings.pricing }

/-- The buyback of an appraiser. -/
def buyback (a : Appraiser) : Buyback :=
  { types := a.types, settings := a.settings.buyback }

/-- What is wrong with a request, if anything is. -/
def problem? (a : Appraiser) (market raw : String) : Option ConfigurationError :=
  if Text.isBlankText raw then some .blankInput
  else if a.settings.maxInputBytes < raw.utf8ByteSize then
    some (.longInput raw.utf8ByteSize a.settings.maxInputBytes)
  else if Text.isBlankText market then some .blankMarket
  else none

/-- The items of a parse before they are priced. Where items can be rejected, their types are looked up
first and those that are not eligible are rejected. -/
def itemsOf (a : Appraiser) (parse : Parse) : List AppraisedItem :=
  let items := (ListedItem.merge parse.listed).map AppraisedItem.ofListed
  if a.settings.buyback.rejectIneligible then
    (items.map a.pricing.resolve).map a.buyback.judge
  else items

/-- The appraisal of a text that was read, without an id and a time. -/
def value (a : Appraiser) (market raw : String) (c : Classification) : Appraisal :=
  let priced := a.pricing.priceItems market [] (a.itemsOf c.parse)
  let (items, materials) := a.buyback.calculate a.pricing priced.items
  { kind := c.kind.name
    marketName := market
    pasted := { priced with items }
    buyback := materials
    raw
    unparsed := c.unparsed.map fun line => (line.number, line.text) }

/-- The appraisal of a text in a market, without an id and a time. -/
def appraise (a : Appraiser) (market raw : String) : Except Error Appraisal :=
  match a.problem? market raw with
  | some cause => .error (.configuration cause)
  | none => (classify a.types (Paste.ofText raw)).map (a.value market raw)

end Appraiser

end ItemAppraisal
