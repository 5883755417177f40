import ItemAppraisal.Proofs.ItemStatus

/-!
# Adjustments of materials

A base adjustment shares one table with the percentages of single types, under a key that is no type. Lines
of baskets are of types with positive ids, which keeps them apart from that key (`adjustmentFor_table`).
With a base adjustment every line gets the percentage of its type or the base, without one it gets nothing,
except where a percentage is listed under the key itself: that one acts as a base (`lines_adjusted`).
-/

namespace ItemAppraisal

namespace BuybackSettings

/-- The percentage of a type: none without a base adjustment; with one, its own or else the base. -/
def percentageOf (s : BuybackSettings) (typeId : Int) : Float :=
  if s.baseAdjustment == 0 then 0 else (s.adjustments.get? typeId).getD s.baseAdjustment

/-- What is listed among the percentages of single types under the key of the base adjustment. -/
def listedBase (s : BuybackSettings) : Float :=
  (s.adjustments.get? baseAdjustmentKey).getD 0

/-- The percentage that a line of a type gets. -/
def linePercentage (s : BuybackSettings) (typeId : Int) : Float :=
  if s.baseAdjustment == 0 && !(s.listedBase == 0) then (s.adjustments.get? typeId).getD s.listedBase
  else s.percentageOf typeId

theorem linePercentage_of_base {s : BuybackSettings} (base : (s.baseAdjustment == 0) = false)
    (typeId : Int) : s.linePercentage typeId = (s.adjustments.get? typeId).getD s.baseAdjustment := by
  simp [linePercentage, percentageOf, base]

/-- The key of the base adjustment is put into the table only if there is one, so that without one
whatever is listed under it stays. -/
theorem adjustmentFor_table (s : BuybackSettings) {typeId : Int} (typed : typeId ≠ baseAdjustmentKey) :
    adjustmentFor s.adjustmentTable typeId = s.linePercentage typeId := by
  by_cases base : (s.baseAdjustment == 0) = true
  · have table : s.adjustmentTable = s.adjustments := by simp [adjustmentTable, bne, base]
    rw [adjustmentFor, table, ← listedBase, linePercentage, percentageOf, base]
    by_cases listed : (s.listedBase == 0) = true
    · simp [listed]
    · simp [Bool.eq_false_iff.2 listed]
  · have none := Bool.eq_false_iff.2 base
    have table : s.adjustmentTable = s.adjustments.insert baseAdjustmentKey s.baseAdjustment := by
      simp [adjustmentTable, bne, none]
    rw [adjustmentFor, table, Table.get?_insert, Table.get?_insert, if_pos rfl, if_neg typed,
      linePercentage_of_base none]
    simp [none]

end BuybackSettings

theorem adjustmentFor_nil (typeId : Int) : adjustmentFor [] typeId = 0 := by
  have zero : ((0 : Float) == 0) = true := Decimal.beq_self_of_isFinite rfl
  simp [adjustmentFor, zero]

/-! ## Types of lines -/

/-- A line of a type of the catalog. -/
def MaterialLine.IsTyped (types : TypeCatalog) (l : MaterialLine) : Prop :=
  ∃ r ∈ types.records, l.typeId = r.id

section Typed

variable {types : TypeCatalog} {s : BuybackSettings}

theorem MaterialLine.absorb_typed (l m : MaterialLine) (typed : l.IsTyped types) (_ : m.IsTyped types) :
    (l.absorb m).IsTyped types := typed

theorem materialLines_typed {levels : Nat} {path : List Int} {origin : Option Step} {r : TypeRecord}
    {quantity : Int} (entered : r ∈ types.records) :
    ∀ l ∈ materialLines types s levels path origin r quantity, l.IsTyped types := by
  induction levels generalizing path origin r quantity with
  | zero =>
    intro l member
    obtain ⟨step, -, rfl⟩ := mem_leafLines.1 member
    exact ⟨r, entered, rfl⟩
  | succ levels ih =>
    intro l member
    rcases materialLines_cases member with ⟨-, step, -, rfl⟩ | ⟨-, rfl⟩ |
      ⟨fewer, step, m, child, part, same, -, -, -, known, -, -, inside⟩
    · exact ⟨r, entered, rfl⟩
    · exact ⟨r, entered, rfl⟩
    · cases same
      exact ih (TypeCatalog.mem_records_of_byId? known) l inside

theorem decompose_typed {r : TypeRecord} (entered : r ∈ types.records) (quantity : Int) :
    ∀ l ∈ (decompose types s r quantity).lines, l.IsTyped types := by
  rw [decompose, decomposeInto_eq_addAll]
  apply Basket.forall_addAll MaterialLine.absorb_typed
  · intro l member
    cases member
  · exact materialLines_typed entered

end Typed

/-! ## Priced baskets -/

/-- Priced materials, each of a type and with the percentage of that type. -/
def Valuation.FollowsBase (s : BuybackSettings) (v : Valuation) : Prop :=
  ∀ m ∈ v.items, m.typeId ≠ baseAdjustmentKey ∧ m.adjustment = s.linePercentage m.typeId

namespace Buyback

variable {b : Buyback} {p : Pricing} (shared : p.types = b.types) (ids : ∀ r ∈ b.types.records, 0 < r.id)

theorem typed_of_basket? {item : AppraisedItem} {basket : Basket} (found : b.basket? item = some basket) :
    ∀ l ∈ basket.lines, l.IsTyped b.types := by
  obtain ⟨-, -, r, known, rfl⟩ := basket?_eq_some_iff.1 found
  exact decompose_typed (TypeCatalog.mem_records_of_byId? known) _

theorem globalBasket_typed (items : List AppraisedItem) :
    ∀ l ∈ (b.globalBasket items).lines, l.IsTyped b.types := by
  apply Basket.forall_foldl_merge MaterialLine.absorb_typed
  · intro l member
    cases member
  · intro basket member
    obtain ⟨item, -, found⟩ := List.mem_filterMap.1 member
    exact typed_of_basket? found

include shared ids

theorem adjusted_lineItem {l : MaterialLine} (typed : l.IsTyped b.types) :
    let m := p.priceItem b.settings.market b.settings.adjustmentTable (lineItem l)
    m.typeId = l.typeId ∧ m.typeId ≠ baseAdjustmentKey ∧
      m.adjustment = b.settings.linePercentage m.typeId := by
  obtain ⟨r, entered, id⟩ := typed
  have resolved : r.id ≠ baseAdjustmentKey := Int.ne_of_gt (ids r entered)
  have found : p.record? (lineItem l) = some r := by
    have own : (lineItem l).typeId ≠ 0 := fun zero => resolved (id.symm.trans zero)
    rw [Pricing.record?_of_resolved own, shared]
    exact TypeCatalog.byId?_eq_some_iff.2 ⟨entered, id.symm⟩
  have priced : p.priceItem b.settings.market b.settings.adjustmentTable (lineItem l) =
      { Pricing.withRecord (lineItem l) r with
        prices := p.pricesFor b.settings.market (Pricing.withRecord (lineItem l) r)
        adjustment := adjustmentFor b.settings.adjustmentTable r.id } := by
    rw [Pricing.priceItem, found]
    rfl
  intro m
  refine ⟨?_, ?_, ?_⟩ <;> simp only [m, priced, Pricing.withRecord]
  · exact id.symm
  · exact resolved
  · exact b.settings.adjustmentFor_table resolved

theorem priceBasket_follows {basket : Basket} (typed : ∀ l ∈ basket.lines, l.IsTyped b.types) :
    (b.priceBasket p basket).FollowsBase b.settings := by
  intro m member
  rw [priceBasket, Pricing.priceItems] at member
  obtain ⟨item, sorted, rfl⟩ := List.mem_map.1 member
  rw [AppraisedItem.sortByQuantity, List.mem_mergeSort] at sorted
  obtain ⟨l, inside, rfl⟩ := List.mem_map.1 sorted
  exact (adjusted_lineItem shared ids (typed l inside)).2

theorem exists_priced_line {basket : Basket} (typed : ∀ l ∈ basket.lines, l.IsTyped b.types)
    {l : MaterialLine} (member : l ∈ basket.lines) :
    ∃ m ∈ (b.priceBasket p basket).items, m.typeId = l.typeId := by
  have sorted : lineItem l ∈ AppraisedItem.sortByQuantity (basket.lines.map lineItem) := by
    rw [AppraisedItem.sortByQuantity, List.mem_mergeSort]
    exact List.mem_map_of_mem member
  exact ⟨_, List.mem_map_of_mem sorted, (adjusted_lineItem shared ids (typed l member)).1⟩

theorem calculate_follows (items : List AppraisedItem) :
    (∀ i ∈ items, ∀ basket, b.basket? i = some basket →
      (b.withBasket p i).buyback = some (b.priceBasket p basket) ∧
        (b.priceBasket p basket).FollowsBase b.settings) ∧
    (b.calculate p items).2.FollowsBase b.settings := by
  constructor
  · intro i _ basket found
    rw [withBasket_some found]
    exact ⟨rfl, priceBasket_follows shared ids (typed_of_basket? found)⟩
  · exact priceBasket_follows shared ids (globalBasket_typed items)

end Buyback

/-! ## Appraisals -/

namespace Appraiser

variable {a : Appraiser} (ids : ∀ r ∈ a.types.records, 0 < r.id)

theorem adjustment_outcome (a : Appraiser) (market : String) (l : ListedItem) :
    (a.outcome market l).adjustment = 0 := by
  cases known : a.types.byName? l.name with
  | none =>
    rw [outcome_of_unknown known]
    rfl
  | some r =>
    rw [outcome_of_known known]
    split
    · rfl
    · exact adjustmentFor_nil r.id

include ids

theorem outcome_follows {market : String} {l : ListedItem} {materials : Valuation}
    (priced : (a.outcome market l).buyback = some materials) : materials.FollowsBase a.settings.buyback := by
  cases known : a.types.byName? l.name with
  | none =>
    rw [outcome_of_unknown known] at priced
    cases priced
  | some r =>
    rw [outcome_of_known known] at priced
    split at priced
    · cases priced
    · cases priced
      have entered := TypeCatalog.mem_records_of_byName? known
      exact Buyback.priceBasket_follows rfl ids (decompose_typed entered l.quantity)

theorem appraise_follows {market raw : String} {v : Appraisal} (appraised : a.appraise market raw = .ok v) :
    (∀ i ∈ v.pasted.items, i.adjustment = 0 ∧
      ∀ materials, i.buyback = some materials → materials.FollowsBase a.settings.buyback) ∧
    v.buyback.FollowsBase a.settings.buyback := by
  obtain ⟨c, -, rfl⟩ := eq_value_of_appraise appraised
  obtain ⟨items, -, materials⟩ := value_eq ids market raw c
  constructor
  · intro i member
    rw [items] at member
    obtain ⟨l, -, rfl⟩ := List.mem_map.1 member
    exact ⟨a.adjustment_outcome market l, fun materials priced => outcome_follows ids priced⟩
  · rw [materials]
    exact Buyback.priceBasket_follows rfl ids (Buyback.globalBasket_typed _)

end Appraiser

/-- With a catalog of a document, every line of a priced basket carries the percentage of its type: of its
own or the base if there is a base adjustment, and otherwise none, unless a percentage is listed under the
key of the base. The items of a text themselves carry none. -/
theorem lines_adjusted {document : String} {types : TypeCatalog} {summary : LoadSummary}
    (loaded : TypeCatalog.ofText? document = some (types, summary)) (s : Settings) (prices : PriceCatalog) :
    (∀ (ores : List OreFamily) (rates : PricingSettings) (items : List AppraisedItem),
      let b : Buyback := ⟨types, s.buyback⟩
      let p : Pricing := ⟨types, prices, ores, rates⟩
      (∀ i ∈ items, ∀ basket, b.basket? i = some basket →
        (b.withBasket p i).buyback = some (b.priceBasket p basket) ∧
          (b.priceBasket p basket).FollowsBase s.buyback) ∧
      (b.calculate p items).2.FollowsBase s.buyback) ∧
    ∀ (market raw : String) (v : Appraisal), (Appraiser.mk s types prices).appraise market raw = .ok v →
      (∀ i ∈ v.pasted.items, i.adjustment = 0 ∧
        ∀ materials, i.buyback = some materials → materials.FollowsBase s.buyback) ∧
      v.buyback.FollowsBase s.buyback := by
  have ids : ∀ r ∈ types.records, 0 < r.id := fun r member =>
    TypeCatalog.pos_of_isLoadable (TypeCatalog.isLoadable_of_ofText? loaded member)
  constructor
  · intro ores rates items b p
    exact Buyback.calculate_follows rfl ids items
  · intro market raw v appraised
    exact Appraiser.appraise_follows (a := ⟨s, types, prices⟩) ids appraised

/-! ## Percentages of a mineral -/

namespace ShipReport

/-- Ten units of the mineral. -/
def stack : AppraisedItem := { name := "Tritanium", typeId := 34, quantity := 10 }

/-- Settings with a base adjustment and a percentage for the mineral. -/
def adjusting : Settings := { buyback := { baseAdjustment := 85, adjustments := [(34, 95)] } }

/-- Settings without a base adjustment that list a percentage under its key. -/
def listing : Settings := { buyback := { adjustments := [(0, 50)] } }

theorem evaluated : (adjusting.problem? = none ∧ adjusting.buyback.linePercentage 34 = 95) ∧
    listing.problem? = none ∧ listing.buyback.linePercentage 34 = 50 ∧
      listing.buyback.percentageOf 34 = 0 := by
  decide +kernel

theorem validate_adjusting : adjusting.validate = .ok () := by
  rw [Settings.validate, evaluated.1.1]

theorem validate_listing : listing.validate = .ok () := by
  rw [Settings.validate, evaluated.2.1]

/-- The mineral is in the materials of the stack under all settings that take its group as it is. -/
theorem exists_line (s : BuybackSettings) (group : s.directGroups = [18, 427, 423]) (deep : s.maxDepth = 8)
    (p : Pricing) (shared : p.types = appraiser.types) :
    ∃ m ∈ ((Buyback.mk appraiser.types s).calculate p [stack]).2.items, m.typeId = 34 := by
  have known : appraiser.types.byId? 34 = some mineral :=
    TypeCatalog.byId?_eq_some_iff.2 ⟨by simp [records_types], rfl⟩
  have direct : Conversion.of s mineral = .direct := by
    rw [Conversion.of, group]
    rfl
  have basket : (Buyback.mk appraiser.types s).basket? stack =
      some (decompose appraiser.types s mineral 10) :=
    Buyback.basket?_eq_some_iff.2 ⟨rfl, rfl, mineral, known, rfl⟩
  have lines : ((Buyback.mk appraiser.types s).globalBasket [stack]).lines =
      [.ofStep mineral 10 directStep] := by
    rw [Buyback.globalBasket, List.filterMap_cons, basket, decompose, decomposeInto_eq_addAll, deep,
      materialLines, direct]
    rfl
  have typed := Buyback.globalBasket_typed (b := ⟨appraiser.types, s⟩) [stack]
  exact Buyback.exists_priced_line shared ids_types typed (lines ▸ List.mem_singleton_self _)

end ShipReport

open ShipReport

theorem lines_adjusted_of_mineral :
    TypeCatalog.ofText? document = some (appraiser.types, (TypeCatalog.load [mineral, ship]).2) ∧
    adjusting.validate = .ok () ∧
    let a : Appraiser := ⟨adjusting, appraiser.types, {}⟩
    ∃ m ∈ (a.buyback.calculate a.pricing [stack]).2.items, m.typeId = 34 ∧ m.adjustment = 95 := by
  refine ⟨loaded, validate_adjusting, ?_⟩
  intro a
  obtain ⟨calculated, -⟩ := lines_adjusted loaded adjusting {}
  obtain ⟨m, member, type⟩ := exists_line adjusting.buyback rfl rfl a.pricing rfl
  obtain ⟨-, percentage⟩ := (calculated OreFamily.standard adjusting.pricing [stack]).2 m member
  refine ⟨m, member, type, percentage.trans ?_⟩
  rw [type]
  exact evaluated.1.2

/-- Without a base adjustment a percentage that is listed under its key applies to a mineral all the
same. -/
theorem line_adjusted_without_base :
    TypeCatalog.ofText? document = some (appraiser.types, (TypeCatalog.load [mineral, ship]).2) ∧
    listing.validate = .ok () ∧ listing.buyback.baseAdjustment = 0 ∧
    let a : Appraiser := ⟨listing, appraiser.types, {}⟩
    ∃ m ∈ (a.buyback.calculate a.pricing [stack]).2.items, m.typeId = 34 ∧ m.adjustment = 50 ∧
      listing.buyback.percentageOf 34 = 0 := by
  refine ⟨loaded, validate_listing, rfl, ?_⟩
  intro a
  obtain ⟨m, member, type⟩ := exists_line listing.buyback rfl rfl a.pricing rfl
  obtain ⟨-, percentage⟩ := (Buyback.calculate_follows rfl ids_types [stack]).2 m member
  refine ⟨m, member, type, percentage.trans ?_, evaluated.2.2.2⟩
  rw [type]
  exact evaluated.2.2.1

end ItemAppraisal
