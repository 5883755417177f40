import ItemAppraisal.Error
import ItemAppraisal.Json.Decode
import ItemAppraisal.Text.Blank

/-!
# Settings

How items are priced and what is taken for a buyback, with defaults, their JSON form and the conditions
under which they can be used.
-/

namespace ItemAppraisal

/-- How items are priced. -/
structure PricingSettings where
  /-- The share of the cost of materials that counts when a blueprint copy is valued. -/
  productionEfficiency : Float := 0.91
  /-- A market in which the products of blueprint copies are not priced. -/
  replacedMarket : String := "universe"
  /-- The market in which they are priced instead. -/
  replacingMarket : String := "jita"
  /-- Whether blueprint copies have a value at all. -/
  valueBlueprintCopies : Bool := false
  deriving DecidableEq

/-- What is taken for a buyback. -/
structure BuybackSettings where
  /-- The market in which materials are priced. -/
  market : String := "jita"
  /-- The efficiency of refining in percent. -/
  refineRate : Float := 85
  /-- The efficiency of reprocessing in percent. -/
  reprocessRate : Float := 55
  /-- The percentage of the price that counts for materials; zero stands for all of it. -/
  baseAdjustment : Float := 0
  /-- The percentage for single types. -/
  adjustments : Table Int Float := []
  /-- How many levels of materials are followed. -/
  maxDepth : Nat := 8
  /-- Whether items are rejected that do not break down into primitive materials. -/
  rejectIneligible : Bool := false
  /-- The groups of primitive materials: minerals, moon materials and ice products. -/
  directGroups : List Int := [18, 427, 423]
  /-- The groups that are refined. -/
  refineGroups : List Int := [465]
  /-- The categories that are refined. -/
  refineCategories : List Int := [25]
  deriving DecidableEq

/-- All settings. -/
structure Settings where
  pricing : PricingSettings := {}
  buyback : BuybackSettings := {}
  /-- The longest text that is appraised, in bytes. -/
  maxInputBytes : Nat := 200000
  deriving DecidableEq

/-- The key of an adjustment table under which the base adjustment stands. -/
def baseAdjustmentKey : Int := 0

namespace BuybackSettings

/-- The percentages by type, with a base adjustment that is not zero under its key. -/
def adjustmentTable (s : BuybackSettings) : Table Int Float :=
  if s.baseAdjustment != 0 then s.adjustments.insert baseAdjustmentKey s.baseAdjustment
  else s.adjustments

end BuybackSettings

/-! ## Conditions -/

/-- A rate above zero and up to a limit. -/
def isRate (limit x : Float) : Bool :=
  0 < x && x ≤ limit

/-- The first condition that settings do not meet. -/
def Settings.problem? (s : Settings) : Option ConfigurationError :=
  if !isRate 100 s.buyback.refineRate then some (.rate "refine_rate" s.buyback.refineRate)
  else if !isRate 100 s.buyback.reprocessRate then
    some (.rate "reprocess_rate" s.buyback.reprocessRate)
  else if s.buyback.baseAdjustment < 0 then
    some (.negativeBaseAdjustment s.buyback.baseAdjustment)
  else if s.buyback.maxDepth = 0 then some .noDepth
  else if Text.isBlankText s.buyback.market then some .blankBuybackMarket
  else if !isRate 1 s.pricing.productionEfficiency then
    some (.productionEfficiency s.pricing.productionEfficiency)
  else if s.maxInputBytes = 0 then some .noInputAllowed
  else none

/-- Checks that settings can be used. -/
def Settings.validate (s : Settings) : Except Error Unit :=
  match s.problem? with
  | some cause => .error (.configuration cause)
  | none => .ok ()

theorem pos_of_isRate {limit x : Float} (rate : isRate limit x = true) : 0 < x := by
  rw [isRate, Bool.and_eq_true] at rate
  exact of_decide_eq_true rate.1

/-- Settings that can be used have rates at which something comes out. -/
theorem Settings.rates_of_validate {s : Settings} (valid : s.validate = .ok ()) :
    isRate 100 s.buyback.refineRate = true ∧ isRate 100 s.buyback.reprocessRate = true := by
  have none : s.problem? = none := by
    cases found : s.problem? with
    | none => rfl
    | some cause => rw [validate, found] at valid; cases valid
  rw [problem?] at none
  split at none
  · cases none
  · split at none
    · cases none
    · rename_i refined reprocessed
      exact ⟨by simpa using refined, by simpa using reprocessed⟩

/-! ## Documents -/

namespace PricingSettings

/-- The names of the fields in their order. -/
def fieldNames : List String :=
  ["production_efficiency", "bpc_fallback_from", "bpc_fallback_to", "value_blueprint_copies"]

/-- Settings as an object. -/
def toJson (s : PricingSettings) : Json :=
  .ofFields [("production_efficiency", .float s.productionEfficiency),
    ("bpc_fallback_from", .string s.replacedMarket), ("bpc_fallback_to", .string s.replacingMarket),
    ("value_blueprint_copies", .bool s.valueBlueprintCopies)]

/-- Reads settings; what is missing has its default. -/
def ofJson? (j : Json) : Option PricingSettings := do
  let default : PricingSettings := {}
  let fs ← j.record? fieldNames
  let productionEfficiency ←
    fs.fieldOr? Json.float? default.productionEfficiency "production_efficiency"
  let replacedMarket ← fs.fieldOr? Json.string? default.replacedMarket "bpc_fallback_from"
  let replacingMarket ← fs.fieldOr? Json.string? default.replacingMarket "bpc_fallback_to"
  let valueBlueprintCopies ←
    fs.fieldOr? Json.bool? default.valueBlueprintCopies "value_blueprint_copies"
  return { productionEfficiency, replacedMarket, replacingMarket, valueBlueprintCopies }

end PricingSettings

namespace BuybackSettings

/-- The names of the fields in their order. -/
def fieldNames : List String :=
  ["market", "refine_rate", "reprocess_rate", "base_adjustment", "adjustments", "max_depth",
    "reject_ineligible", "direct_group_ids", "refine_group_ids", "refine_category_ids"]

/-- Numbers of groups or categories as an array. -/
def idsToJson (ids : List Int) : Json :=
  .array (ids.map .int)

/-- Percentages by type as an object. -/
def adjustmentsToJson (adjustments : Table Int Float) : Json :=
  .ofFields (adjustments.map fun (id, x) => (Json.integerText id, .float x))

/-- Settings as an object. -/
def toJson (s : BuybackSettings) : Json :=
  .ofFields [("market", .string s.market), ("refine_rate", .float s.refineRate),
    ("reprocess_rate", .float s.reprocessRate), ("base_adjustment", .float s.baseAdjustment),
    ("adjustments", adjustmentsToJson s.adjustments),
    ("max_depth", .int s.maxDepth), ("reject_ineligible", .bool s.rejectIneligible),
    ("direct_group_ids", idsToJson s.directGroups), ("refine_group_ids", idsToJson s.refineGroups),
    ("refine_category_ids", idsToJson s.refineCategories)]

/-- Reads settings; what is missing has its default. -/
def ofJson? (j : Json) : Option BuybackSettings := do
  let default : BuybackSettings := {}
  let fs ← j.record? fieldNames
  let ids := Json.list? Json.int?
  let market ← fs.fieldOr? Json.string? default.market "market"
  let refineRate ← fs.fieldOr? Json.float? default.refineRate "refine_rate"
  let reprocessRate ← fs.fieldOr? Json.float? default.reprocessRate "reprocess_rate"
  let baseAdjustment ← fs.fieldOr? Json.float? default.baseAdjustment "base_adjustment"
  let adjustments ← fs.fieldOr? (Json.map? Json.intKey? Json.float?) default.adjustments "adjustments"
  let maxDepth ← fs.fieldOr? Json.nat? default.maxDepth "max_depth"
  let rejectIneligible ← fs.fieldOr? Json.bool? default.rejectIneligible "reject_ineligible"
  let directGroups ← fs.fieldOr? ids default.directGroups "direct_group_ids"
  let refineGroups ← fs.fieldOr? ids default.refineGroups "refine_group_ids"
  let refineCategories ← fs.fieldOr? ids default.refineCategories "refine_category_ids"
  return { market, refineRate, reprocessRate, baseAdjustment, adjustments, maxDepth,
           rejectIneligible, directGroups, refineGroups, refineCategories }

end BuybackSettings

namespace Settings

/-- Settings as an object. -/
def toJson (s : Settings) : Json :=
  .ofFields [("pricing", s.pricing.toJson), ("buyback", s.buyback.toJson),
    ("max_input_bytes", .int s.maxInputBytes)]

/-- Reads settings; what is missing has its default. -/
def ofJson? (j : Json) : Option Settings := do
  let default : Settings := {}
  let fs ← j.record? ["pricing", "buyback", "max_input_bytes"]
  let pricing ← fs.fieldOr? PricingSettings.ofJson? default.pricing "pricing"
  let buyback ← fs.fieldOr? BuybackSettings.ofJson? default.buyback "buyback"
  let maxInputBytes ← fs.fieldOr? Json.nat? default.maxInputBytes "max_input_bytes"
  return { pricing, buyback, maxInputBytes }

end Settings

end ItemAppraisal
