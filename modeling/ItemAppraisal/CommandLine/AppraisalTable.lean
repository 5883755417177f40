import ItemAppraisal.Appraisal.Basic
import ItemAppraisal.CommandLine.Columns

/-!
# Appraisals as tables

The lines that show an appraisal to a person.
-/

namespace ItemAppraisal.CommandLine

/-- A row of a table of items. -/
def tableRow (name quantity sell buy notes : String) : String :=
  "  " ++ flushLeft 40 name ++ " " ++ flushRight 12 quantity ++ " " ++ flushRight 18 sell ++ " " ++
    flushRight 18 buy ++ " " ++ notes

/-- A remark that is made on a condition. -/
def noteIf (condition : Bool) (note : String) : List String :=
  if condition then [note] else []

/-- The remarks on an item. -/
def itemNotes (i : AppraisedItem) : List String :=
  noteIf i.rejected "rejected" ++ noteIf (!i.isResolved) "unknown type" ++
    (i.qualifier.elim [] fun q => [q.text ++ " " ++ Decimal.fixed 0 i.efficiency ++ "%"]) ++
    noteIf (!i.prices.basis.isEmpty) i.prices.basis ++
    noteIf (i.adjustment != 0) ("adj " ++ Decimal.fixed 0 i.adjustment ++ "%") ++
    noteIf i.details.blueprintCopy ("BPC runs " ++ Json.integerText i.details.copyRuns)

/-- The row of an item. -/
def itemRow (i : AppraisedItem) : String :=
  tableRow i.displayName (Json.integerText i.quantity) (Amount.display i.sellTotal)
    (Amount.display i.buyTotal) (", ".intercalate (itemNotes i))

/-- The table of priced items. -/
def valuationLines (v : Valuation) : List String :=
  tableRow "Name" "Quantity" "Sell" "Buy" "Notes" :: v.items.map itemRow ++
    [tableRow "Total" (Json.integerText v.totalQuantity) (Amount.display v.totals.sell)
      (Amount.display v.totals.buy) (Amount.displayVolume v.totals.volume)]

/-- The tables of the materials of single items. -/
def basketLines (items : List AppraisedItem) : List String :=
  items.flatMap fun i =>
    match i.buyback with
    | some basket =>
      ["", "Basket: " ++ i.displayName ++ " x" ++ Json.integerText i.quantity] ++ valuationLines basket
    | none => []

/-- The lines that no format took. -/
def unparsedLines (unparsed : Table Nat String) : List String :=
  if unparsed.isEmpty then []
  else
    ["", "Warning: " ++ countText unparsed.length ++ " unparsed lines"] ++
      unparsed.map fun (number, text) => "  " ++ flushRight 4 (countText number) ++ ": " ++ text

/-- The lines of an appraisal. -/
def appraisalLines (showBaskets : Bool) (a : Appraisal) : List String :=
  ["", "Appraisal " ++ a.id,
    "  Market: " ++ a.marketName ++ "   Format: " ++ a.kind ++ "   Created: " ++
      a.createdTime.display,
    "", "Items"] ++ valuationLines a.pasted ++
  (if a.buyback.items.isEmpty then []
    else ["", "Buyback materials"] ++ valuationLines a.buyback) ++
  (if showBaskets then basketLines a.pasted.items else []) ++ unparsedLines a.unparsed ++ [""]

end ItemAppraisal.CommandLine
