import ItemAppraisal.Json.Decode

/-!
# Types of items

The static data of one type of item, and its JSON form.
-/

namespace ItemAppraisal

/-- A quantity of a type, as an ingredient or a result of something else. -/
structure Component where
  typeId : Int
  quantity : Int
  deriving DecidableEq, Repr

/-- The static data of a type of item. -/
structure TypeRecord where
  id : Int := 0
  groupId : Int := 0
  marketGroupId : Int := 0
  categoryId : Int := 0
  name : String := ""
  volume : Float := 0
  packagedVolume : Float := 0
  basePrice : Float := 0
  portionSize : Int := 0
  /-- What one run of the blueprint makes, if not one unit of the type. -/
  products : List Component := []
  /-- What one run of the blueprint takes. -/
  components : List Component := []
  baseComponents : List Component := []
  /-- What one portion gives when it is refined or reprocessed. -/
  materials : List Component := []
  deriving DecidableEq, Inhabited

namespace TypeRecord

/-- The volume of a unit as it is shipped: packaged if that is known. -/
def unitVolume (r : TypeRecord) : Float :=
  if r.packagedVolume != 0 then r.packagedVolume else r.volume

/-- The units that are converted at a time, at least one. -/
def portion (r : TypeRecord) : Int :=
  max r.portionSize 1

theorem portion_pos (r : TypeRecord) : 0 < r.portion :=
  Int.lt_of_lt_of_le (by decide) (Int.le_max_right _ _)

/-- Whether the type breaks down into materials. -/
def isDecomposable (r : TypeRecord) : Bool :=
  !r.materials.isEmpty

end TypeRecord

/-! ## Documents -/

namespace Component

/-- A component as an object. -/
def toJson (c : Component) : Json :=
  .ofFields [("quantity", .int c.quantity), ("type_id", .int c.typeId)]

/-- Reads a component. -/
def ofJson? (j : Json) : Option Component := do
  let fs ← j.record? ["quantity", "type_id"]
  let quantity ← fs.required? Json.int? "quantity"
  let typeId ← fs.required? Json.int? "type_id"
  return { typeId, quantity }

end Component

namespace TypeRecord

/-- The names of the fields in their order. -/
def fieldNames : List String :=
  ["id", "group_id", "market_group_id", "category_id", "name", "volume", "packaged_volume",
    "base_price", "portion_size", "blueprint_products", "components", "base_components", "materials"]

/-- A list of components as a field, none if it is empty. -/
def listField (name : String) (cs : List Component) : List (String × Json) :=
  if cs.isEmpty then [] else [(name, .array (cs.map (·.toJson)))]

/-- A record as an object; empty lists are left out. -/
def toJson (r : TypeRecord) : Json :=
  .ofFields <| [("id", .int r.id), ("group_id", .int r.groupId),
    ("market_group_id", .int r.marketGroupId), ("category_id", .int r.categoryId),
    ("name", .string r.name), ("volume", .float r.volume),
    ("packaged_volume", .float r.packagedVolume), ("base_price", .float r.basePrice),
    ("portion_size", .int r.portionSize)] ++
    listField "blueprint_products" r.products ++ listField "components" r.components ++
    listField "base_components" r.baseComponents ++ listField "materials" r.materials

/-- Reads a record; every field may be missing. -/
def ofJson? (j : Json) : Option TypeRecord := do
  let fs ← j.record? fieldNames
  let id ← fs.fieldOr? Json.int? 0 "id"
  let groupId ← fs.fieldOr? Json.int? 0 "group_id"
  let marketGroupId ← fs.fieldOr? Json.int? 0 "market_group_id"
  let categoryId ← fs.fieldOr? Json.int? 0 "category_id"
  let name ← fs.fieldOr? Json.string? "" "name"
  let volume ← fs.fieldOr? Json.float? 0 "volume"
  let packagedVolume ← fs.fieldOr? Json.float? 0 "packaged_volume"
  let basePrice ← fs.fieldOr? Json.float? 0 "base_price"
  let portionSize ← fs.fieldOr? Json.int? 0 "portion_size"
  let products ← fs.fieldOr? (Json.list? Component.ofJson?) [] "blueprint_products"
  let components ← fs.fieldOr? (Json.list? Component.ofJson?) [] "components"
  let baseComponents ← fs.fieldOr? (Json.list? Component.ofJson?) [] "base_components"
  let materials ← fs.fieldOr? (Json.list? Component.ofJson?) [] "materials"
  return { id, groupId, marketGroupId, categoryId, name, volume, packagedVolume, basePrice,
           portionSize, products, components, baseComponents, materials }

end TypeRecord

end ItemAppraisal
