import ItemAppraisal.Item.Appraised
import ItemAppraisal.Prices.Document

/-!
# Appraised items as documents

The JSON form of appraised items and of their valuations, which hold each other to any depth.
-/

namespace ItemAppraisal

namespace Qualifier

/-- A step as its word. -/
def toJson (q : Qualifier) : Json :=
  .string q.text

/-- The step of a word. -/
def ofText? (word : String) : Option Qualifier :=
  [direct, refine, reprocess].find? (·.text == word)

/-- Reads a step: its word, or an object with its word over null. -/
def ofJson? : Json → Option Qualifier
  | .string word => ofText? word
  | .object [(word, .null)] => ofText? word.text
  | _ => none

end Qualifier

namespace Totals

/-- Sums as an object. -/
def toJson (t : Totals) : Json :=
  .ofFields [("buy", .float t.buy), ("sell", .float t.sell), ("volume", .float t.volume)]

/-- Reads sums. -/
def ofJson? (j : Json) : Option Totals := do
  let fs ← j.record? ["buy", "sell", "volume"]
  let buy ← fs.required? Json.float? "buy"
  let sell ← fs.required? Json.float? "sell"
  let volume ← fs.required? Json.float? "volume"
  return { buy, sell, volume }

end Totals

/-! ## Writing -/

/-- The fields of an item, given the JSON form of its materials. An adjustment or an efficiency of zero,
an item that is not rejected, and a missing step or list of materials are not written. -/
def AppraisedItem.fieldsWith (i : AppraisedItem) (buyback : List (String × Json)) :
    List (String × Json) :=
  [("name", .string i.name), ("typeID", .int i.typeId), ("typeName", .string i.typeName),
    ("typeVolume", .float i.typeVolume), ("quantity", .int i.quantity),
    ("prices", i.prices.toJson)] ++
  Json.floatField "adjustment" i.adjustment ++ Json.flagField "rejected" i.rejected ++
  Json.optionalField "qualifier" Qualifier.toJson i.qualifier ++
  Json.floatField "efficiency" i.efficiency ++ buyback ++ [("meta", i.details.toJson)]

/-- The fields of a valuation, given the JSON forms of its items. -/
def Valuation.fieldsWith (totals : Totals) (items : List Json) : List (String × Json) :=
  [("totals", totals.toJson), ("items", .array items)]

mutual

/-- An item as an object. -/
def AppraisedItem.toJson : AppraisedItem → Json
  | i@⟨_, _, _, _, _, _, _, _, _, _, buyback, _⟩ => .ofFields (i.fieldsWith (buybackField buyback))

/-- The materials of an item as a field, none if there are none. -/
def buybackField : Option Valuation → List (String × Json)
  | none => []
  | some v => [("buyback", v.toJson)]

/-- A valuation as an object. -/
def Valuation.toJson : Valuation → Json
  | ⟨totals, items⟩ => .ofFields (Valuation.fieldsWith totals (itemsToJson items))

/-- The items of a valuation. -/
def itemsToJson : List AppraisedItem → List Json
  | [] => []
  | i :: is => i.toJson :: itemsToJson is

end

/-! ## Reading -/

mutual

/-- How deep arrays and objects are nested. -/
def Json.depth : Json → Nat
  | .array js => 1 + Json.depthOfList js
  | .object fs => 1 + Json.depthOfFields fs
  | _ => 0

/-- The greatest depth in a list. -/
def Json.depthOfList : List Json → Nat
  | [] => 0
  | j :: js => max j.depth (Json.depthOfList js)

/-- The greatest depth in a list of fields. -/
def Json.depthOfFields : List Json.Field → Nat
  | [] => 0
  | (_, j) :: fs => max j.depth (Json.depthOfFields fs)

end

/-- The names of the fields of an item in their order. -/
def AppraisedItem.fieldNames : List String :=
  ["name", "typeID", "typeName", "typeVolume", "quantity", "prices", "adjustment", "rejected",
    "qualifier", "efficiency", "buyback", "meta"]

mutual

/-- Reads an item whose materials are nested at most `fuel` deep. -/
def AppraisedItem.decode : Nat → Json → Option AppraisedItem
  | 0, _ => none
  | fuel + 1, j => do
    let fs ← j.record? AppraisedItem.fieldNames
    let name ← fs.required? Json.string? "name"
    let typeId ← fs.fieldOr? Json.int? 0 "typeID"
    let typeName ← fs.fieldOr? Json.string? "" "typeName"
    let typeVolume ← fs.fieldOr? Json.float? 0 "typeVolume"
    let quantity ← fs.required? Json.int? "quantity"
    let prices ← fs.fieldOr? Prices.ofJson? {} "prices"
    let adjustment ← fs.fieldOr? Json.float? 0 "adjustment"
    let rejected ← fs.fieldOr? Json.bool? false "rejected"
    let qualifier ← fs.fieldOr? (Json.nullable? Qualifier.ofJson?) none "qualifier"
    let efficiency ← fs.fieldOr? Json.float? 0 "efficiency"
    let buyback ← fs.fieldOr? (Json.nullable? (Valuation.decode fuel)) none "buyback"
    let details ← fs.fieldOr? ItemDetails.ofJson? {} "meta"
    return { name, typeId, typeName, typeVolume, quantity, prices, adjustment, rejected, qualifier,
             efficiency, buyback, details }

/-- Reads a valuation whose items are nested at most `fuel` deep. -/
def Valuation.decode : Nat → Json → Option Valuation
  | 0, _ => none
  | fuel + 1, j => do
    let fs ← j.record? ["totals", "items"]
    let totals ← fs.required? Totals.ofJson? "totals"
    let items ← fs.required? (Json.list? (AppraisedItem.decode fuel)) "items"
    return { totals, items }

end

/-- Reads an item. -/
def AppraisedItem.ofJson? (j : Json) : Option AppraisedItem :=
  AppraisedItem.decode (j.depth + 1) j

/-- Reads a valuation. -/
def Valuation.ofJson? (j : Json) : Option Valuation :=
  Valuation.decode (j.depth + 1) j

end ItemAppraisal
