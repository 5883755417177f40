import ItemAppraisal.Json.Decode

/-!
# Listed items

A name and a quantity, with what the format they were read from knows besides, and their JSON form.
-/

namespace ItemAppraisal

/-- What a format knows of an item besides its name and quantity. -/
structure ItemDetails where
  fitted : Bool := false
  dropped : Bool := false
  destroyed : Bool := false
  location : String := ""
  playerName : String := ""
  routed : Bool := false
  volume : Float := 0
  distance : String := ""
  /-- A blueprint copy, which is good for a limited number of runs. -/
  blueprintCopy : Bool := false
  /-- The runs left on a blueprint copy. -/
  copyRuns : Int := 0
  deriving DecidableEq, Inhabited

/-- A name and a quantity. -/
structure ListedItem where
  name : String
  quantity : Int
  details : ItemDetails := {}
  deriving DecidableEq, Inhabited

/-! ## Documents -/

namespace ItemDetails

/-- The names of the fields in their order. -/
def fieldNames : List String :=
  ["fitted", "dropped", "destroyed", "location", "player_name", "routed", "volume", "distance", "bpc",
    "bpcRuns"]

/-- The fields that are written; only the mark of a blueprint copy is always there. -/
def fields (d : ItemDetails) : List (String × Json) :=
  Json.flagField "fitted" d.fitted ++ Json.flagField "dropped" d.dropped ++
    Json.flagField "destroyed" d.destroyed ++ Json.textField "location" d.location ++
    Json.textField "player_name" d.playerName ++ Json.flagField "routed" d.routed ++
    Json.floatField "volume" d.volume ++ Json.textField "distance" d.distance ++
    [("bpc", .bool d.blueprintCopy)] ++ Json.intField "bpcRuns" d.copyRuns

/-- Details as an object. -/
def toJson (d : ItemDetails) : Json :=
  .ofFields d.fields

/-- Reads details; every field may be missing. -/
def ofJson? (j : Json) : Option ItemDetails := do
  let fs ← j.record? fieldNames
  let fitted ← fs.fieldOr? Json.bool? false "fitted"
  let dropped ← fs.fieldOr? Json.bool? false "dropped"
  let destroyed ← fs.fieldOr? Json.bool? false "destroyed"
  let location ← fs.fieldOr? Json.string? "" "location"
  let playerName ← fs.fieldOr? Json.string? "" "player_name"
  let routed ← fs.fieldOr? Json.bool? false "routed"
  let volume ← fs.fieldOr? Json.float? 0 "volume"
  let distance ← fs.fieldOr? Json.string? "" "distance"
  let blueprintCopy ← fs.fieldOr? Json.bool? false "bpc"
  let copyRuns ← fs.fieldOr? Json.int? 0 "bpcRuns"
  return { fitted, dropped, destroyed, location, playerName, routed, volume, distance, blueprintCopy,
           copyRuns }

end ItemDetails

namespace ListedItem

/-- A listed item as an object. -/
def toJson (i : ListedItem) : Json :=
  .ofFields [("name", .string i.name), ("quantity", .int i.quantity), ("meta", i.details.toJson)]

/-- Reads a listed item. -/
def ofJson? (j : Json) : Option ListedItem := do
  let fs ← j.record? ["name", "quantity", "meta"]
  let name ← fs.required? Json.string? "name"
  let quantity ← fs.required? Json.int? "quantity"
  let details ← fs.fieldOr? ItemDetails.ofJson? {} "meta"
  return { name, quantity, details }

end ListedItem

end ItemAppraisal
