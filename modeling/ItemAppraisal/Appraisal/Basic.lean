import ItemAppraisal.Error
import ItemAppraisal.Item.Document

/-!
# Appraisals

The appraisal of one text in one market, its summary and its JSON form.
-/

namespace ItemAppraisal

/-- The appraisal of a text. -/
structure Appraisal where
  id : String := ""
  /-- The time of creation in seconds since 1970. -/
  created : Int := 0
  /-- The format that took most of the text. -/
  kind : String := ""
  marketName : String := ""
  /-- The items of the text. -/
  pasted : Valuation := {}
  /-- The materials of all accepted items. -/
  buyback : Valuation := {}
  raw : String := ""
  /-- The lines with text that no format took, by number. -/
  unparsed : Table Nat String := []
  ownerId : Option Int := none
  isPrivate : Bool := false
  privateToken : Option String := none
  userName : Option String := none
  deriving Inhabited

namespace Appraisal

/-- The time of creation. -/
def createdTime (a : Appraisal) : Timestamp :=
  .ofSeconds a.created

/-- Whether the names of all items are those of compressed ores. -/
def onlyCompressed (a : Appraisal) : Bool :=
  a.pasted.items.all fun i => "Compressed ".toList.isPrefixOf i.name.toList

/-- The items in the order of their values, the greatest first. -/
def byValue (a : Appraisal) : List AppraisedItem :=
  AppraisedItem.sortByValue a.pasted.items

/-- The appraisal in one line. -/
def summary (a : Appraisal) : String :=
  "[Appraisal] id=" ++ (if a.id.isEmpty then "-" else a.id) ++ ", market=" ++ a.marketName ++
    ", kind=" ++ a.kind ++ ", items=" ++ countText a.pasted.items.length ++ ", unparsed=" ++
    countText a.unparsed.length ++ (a.userName.elim "" fun user => ", user=" ++ user) ++
    (if a.isPrivate then ", private" else "")

/-! ## Documents -/

/-- The names of the fields in their order. -/
def fieldNames : List String :=
  ["id", "created", "kind", "market_name", "original", "buyback", "raw", "unparsed", "owner_id",
    "private", "private_token", "user_name"]

/-- Lines by number as an object. -/
def linesToJson (lines : Table Nat String) : Json :=
  .ofFields (lines.map fun (n, s) => (countText n, .string s))

/-- The fields that are written; what is not known of the owner is left out. -/
def fields (a : Appraisal) : List (String × Json) :=
  [("id", .string a.id), ("created", .int a.created), ("kind", .string a.kind),
    ("market_name", .string a.marketName), ("original", a.pasted.toJson),
    ("buyback", a.buyback.toJson), ("raw", .string a.raw),
    ("unparsed", linesToJson a.unparsed)] ++
    Json.optionalField "owner_id" .int a.ownerId ++ [("private", .bool a.isPrivate)] ++
    Json.optionalField "private_token" .string a.privateToken ++
    Json.optionalField "user_name" .string a.userName

/-- An appraisal as an object. -/
def toJson (a : Appraisal) : Json :=
  .ofFields a.fields

/-- Reads an appraisal. -/
def ofJson? (j : Json) : Option Appraisal := do
  let fs ← j.record? fieldNames
  let id ← fs.required? Json.string? "id"
  let created ← fs.required? Json.int? "created"
  let kind ← fs.required? Json.string? "kind"
  let marketName ← fs.required? Json.string? "market_name"
  let pasted ← fs.required? Valuation.ofJson? "original"
  let buyback ← fs.required? Valuation.ofJson? "buyback"
  let raw ← fs.required? Json.string? "raw"
  let unparsed ← fs.required? (Json.map? Json.natKey? Json.string?) "unparsed"
  let ownerId ← fs.fieldOr? (Json.nullable? Json.int?) none "owner_id"
  let isPrivate ← fs.fieldOr? Json.bool? false "private"
  let privateToken ← fs.fieldOr? (Json.nullable? Json.string?) none "private_token"
  let userName ← fs.fieldOr? (Json.nullable? Json.string?) none "user_name"
  return { id, created, kind, marketName, pasted, buyback, raw, ownerId, isPrivate, privateToken,
           userName, unparsed := unparsed.mergeSort fun a b => a.1 ≤ b.1 }

end Appraisal

end ItemAppraisal
