import ItemAppraisal.Proofs.ItemStatus

/-!
# Rejecting as a filter

Where items can be rejected their types are looked up before they are priced, and not while they are. Yet
rejecting only takes items out: what is eligible and how it breaks down does not depend on it
(`isEligible_rejecting`, `decompose_rejecting`), so an item becomes the same with it and without unless it
is rejected (`outcome_rejecting`), and the materials are those of the items that are left
(`appraise_rejecting`).
-/

namespace ItemAppraisal

/-! ## Settings with rejecting -/

/-- The settings under which items are rejected that are not eligible. -/
def BuybackSettings.rejecting (s : BuybackSettings) : BuybackSettings :=
  { s with rejectIneligible := true }

section

variable (types : TypeCatalog) (s : BuybackSettings)

theorem decompose_rejecting (r : TypeRecord) (quantity : Int) :
    decompose types s.rejecting r quantity = decompose types s r quantity := by
  have conversion (r : TypeRecord) : Conversion.of s.rejecting r = Conversion.of s r := rfl
  rw [decompose, decompose, decomposeInto_eq_addAll, decomposeInto_eq_addAll, materialLines_congr conversion]
  rfl

theorem isEligible_rejecting (r : TypeRecord) : isEligible types s.rejecting r = isEligible types s r := by
  have groups : s.rejecting.directGroups = s.directGroups := rfl
  exact reducesWithin_congr groups s.maxDepth [] r

end

namespace Appraiser

/-- The appraiser that differs in rejecting items that are not eligible. -/
def rejecting (a : Appraiser) : Appraiser :=
  { a with settings := { a.settings with buyback := a.settings.buyback.rejecting } }

/-- An item that is rejected if it has a type that is not eligible. -/
def withRejection (a : Appraiser) (i : AppraisedItem) : AppraisedItem :=
  if a.buyback.isRejected i then { i with prices := {}, rejected := true, buyback := none } else i

/-- The second appraisal is the first one with all items rejected that are not eligible. -/
structure Filters (a : Appraiser) (v v' : Appraisal) : Prop where
  kind_eq : v'.kind = v.kind
  unparsed_eq : v'.unparsed = v.unparsed
  /-- Nothing is rejected at first. -/
  unrejected : ∀ i ∈ v.pasted.items, i.rejected = false
  items_eq : v'.pasted.items = v.pasted.items.map a.withRejection
  rejected_iff : ∀ i ∈ v.pasted.items, (a.withRejection i).rejected = true ↔
    i.isResolved = true ∧ ∃ r, a.types.byId? i.typeId = some r ∧
      isEligible a.types a.settings.buyback r = false
  /-- The materials that the items have at first. -/
  buyback_eq : ∀ i ∈ v.pasted.items, i.buyback =
    (a.buyback.basket? i).map (a.buyback.priceBasket a.pricing)
  materials_eq : v'.buyback = a.buyback.priceBasket a.pricing
    (a.buyback.globalBasket (v.pasted.items.filter fun i => !a.buyback.isRejected i))

variable {a : Appraiser} {market raw : String} {l : ListedItem} {r : TypeRecord}

theorem basket?_rejecting (i : AppraisedItem) :
    a.rejecting.buyback.basket? i = a.buyback.basket? i := by
  have decomposed : decompose a.types a.settings.buyback.rejecting =
      decompose a.types a.settings.buyback :=
    funext fun r => funext fun quantity => decompose_rejecting a.types a.settings.buyback r quantity
  rw [Buyback.basket?, Buyback.basket?]
  simp only [buyback, rejecting, decomposed]

theorem rejects_rejecting (r : TypeRecord) :
    a.rejecting.rejects r = !isEligible a.types a.settings.buyback r :=
  congrArg not (isEligible_rejecting a.types a.settings.buyback r)

theorem accept_rejecting (market : String) (l : ListedItem) (r : TypeRecord) :
    a.rejecting.accept market l r = a.accept market l r := by
  have decomposed := decompose_rejecting a.types a.settings.buyback r l.quantity
  show ({ a.accept market l r with
    buyback := some (a.buyback.priceBasket a.pricing
      (decompose a.types a.settings.buyback.rejecting r l.quantity)) } : AppraisedItem) = _
  rw [decomposed]
  rfl

/-! ## Items in both runs -/

theorem isRejected_accept (known : a.types.byName? l.name = some r) (positive : 0 < r.id) :
    a.buyback.isRejected (a.accept market l r) = !isEligible a.types a.settings.buyback r := by
  have byId : a.types.byId? r.id = some r := TypeCatalog.byId?_of_byName? known
  have resolved : (a.accept market l r).isResolved = true := bne_iff_ne.2 (Int.ne_of_gt positive)
  rw [Buyback.isRejected, resolved, Bool.true_and]
  show (a.types.byId? r.id).any _ = _
  rw [byId]
  rfl

theorem basket?_accept (known : a.types.byName? l.name = some r) (positive : 0 < r.id) :
    a.buyback.basket? (a.accept market l r) =
      some (decompose a.types a.settings.buyback r l.quantity) := by
  refine Buyback.basket?_eq_some_iff.2 ⟨rfl, ?_, r, ?_, rfl⟩
  · exact bne_iff_ne.2 (Int.ne_of_gt positive)
  · exact TypeCatalog.byId?_of_byName? known

theorem withRejection_rejected_iff {i : AppraisedItem} (kept : i.rejected = false) :
    (a.withRejection i).rejected = true ↔ i.isResolved = true ∧ ∃ r, a.types.byId? i.typeId = some r ∧
      isEligible a.types a.settings.buyback r = false := by
  have rejected : (a.withRejection i).rejected = a.buyback.isRejected i := by
    rw [withRejection]
    cases a.buyback.isRejected i with
    | true => rfl
    | false => exact kept
  rw [rejected, Buyback.isRejected, Bool.and_eq_true, Option.any_eq_true]
  simp [buyback]

section

variable (accepting : a.settings.buyback.rejectIneligible = false)
include accepting

theorem outcome_of_accepting (known : a.types.byName? l.name = some r) :
    a.outcome market l = a.accept market l r := by
  have kept : a.rejects r = false := by rw [rejects, accepting, Bool.false_and]
  rw [outcome_of_known known, kept, if_neg Bool.false_ne_true]

theorem rejected_outcome (market : String) (l : ListedItem) : (a.outcome market l).rejected = false := by
  cases known : a.types.byName? l.name with
  | none => rw [outcome_of_unknown known]; rfl
  | some r => rw [outcome_of_accepting accepting known]; rfl

variable (ids : ∀ r ∈ a.types.records, 0 < r.id)
include ids

/-- An item becomes the same with rejecting and without, unless it is rejected. -/
theorem outcome_rejecting (market : String) (l : ListedItem) :
    a.rejecting.outcome market l = a.withRejection (a.outcome market l) := by
  cases known : a.types.byName? l.name with
  | none =>
    rw [outcome_of_unknown known, outcome_of_unknown (a := a.rejecting) known]
    rfl
  | some r =>
    -- One run finds the type by the name while pricing, the other before it and by the id from then on.
    have positive := ids r (TypeCatalog.mem_records_of_byName? known)
    rw [outcome_of_accepting accepting known, outcome_of_known (a := a.rejecting) known,
      rejects_rejecting, withRejection, isRejected_accept known positive, accept_rejecting]
    cases isEligible a.types a.settings.buyback r with
    | true => rfl
    | false => rfl

theorem buyback_outcome (market : String) (l : ListedItem) : (a.outcome market l).buyback =
    (a.buyback.basket? (a.outcome market l)).map (a.buyback.priceBasket a.pricing) := by
  cases known : a.types.byName? l.name with
  | none => rw [outcome_of_unknown known]; rfl
  | some r =>
    have positive := ids r (TypeCatalog.mem_records_of_byName? known)
    rw [outcome_of_accepting accepting known, basket?_accept known positive]
    rfl

/-- The items that have materials with rejecting are those that have some without and are not rejected. -/
theorem basket?_outcome_rejecting (market : String) (l : ListedItem) :
    a.buyback.basket? (a.rejecting.outcome market l) =
      if !a.buyback.isRejected (a.outcome market l) then a.buyback.basket? (a.outcome market l) else none := by
  rw [outcome_rejecting accepting ids, withRejection]
  cases a.buyback.isRejected (a.outcome market l) <;> rfl

end

/-- The materials of an appraisal are those of its items. -/
theorem buyback_value (a : Appraiser) (market raw : String) (c : Classification) :
    (a.value market raw c).buyback =
      a.buyback.priceBasket a.pricing (a.buyback.globalBasket (a.value market raw c).pasted.items) := by
  have baskets (items : List AppraisedItem) :
      a.buyback.globalBasket (items.map (a.buyback.withBasket a.pricing)) =
        a.buyback.globalBasket items := by
    rw [Buyback.globalBasket, Buyback.globalBasket, List.filterMap_map]
    simp only [Function.comp_def, Buyback.basket?_withBasket]
  show a.buyback.priceBasket a.pricing (a.buyback.globalBasket _) =
    a.buyback.priceBasket a.pricing (a.buyback.globalBasket (List.map _ _))
  rw [baskets]

/-- One text that was read gives both appraisals. -/
theorem filters_value (accepting : a.settings.buyback.rejectIneligible = false)
    (ids : ∀ r ∈ a.types.records, 0 < r.id) (market raw : String) (c : Classification) :
    a.Filters (a.value market raw c) (a.rejecting.value market raw c) := by
  have items := (a.value_eq ids market raw c).1
  have items' : (a.rejecting.value market raw c).pasted.items =
      (a.value market raw c).pasted.items.map a.withRejection := by
    rw [(a.rejecting.value_eq ids market raw c).1, items, List.map_map]
    exact List.map_congr_left fun l _ => outcome_rejecting accepting ids market l
  have unrejected : ∀ i ∈ (a.value market raw c).pasted.items, i.rejected = false := by
    intro i member
    rw [items] at member
    obtain ⟨l, -, rfl⟩ := List.mem_map.1 member
    exact rejected_outcome accepting market l
  refine ⟨rfl, rfl, unrejected, items', fun i member => ?_, fun i member => ?_, ?_⟩
  · exact withRejection_rejected_iff (unrejected i member)
  · rw [items] at member
    obtain ⟨l, -, rfl⟩ := List.mem_map.1 member
    exact buyback_outcome accepting ids market l
  · have baskets : (a.rejecting.value market raw c).pasted.items.filterMap a.rejecting.buyback.basket? =
        ((a.value market raw c).pasted.items.filter fun i => !a.buyback.isRejected i).filterMap
          a.buyback.basket? := by
      rw [(a.rejecting.value_eq ids market raw c).1, items, List.filterMap_map, List.filterMap_filter,
        List.filterMap_map]
      refine List.filterMap_congr fun l _ => ?_
      rw [Function.comp_apply, basket?_rejecting, basket?_outcome_rejecting accepting ids]
      rfl
    rw [buyback_value, Buyback.globalBasket, baskets]
    rfl

end Appraiser

open Appraiser

/-- Rejecting is a filter. With a catalog of a document, an appraiser that rejects what is not eligible
fails as one that does not, with the same error, or gives the same appraisal up to rejection. -/
theorem appraise_rejecting (a : Appraiser) {document : String} {summary : LoadSummary}
    (loaded : TypeCatalog.ofText? document = some (a.types, summary))
    (accepting : a.settings.buyback.rejectIneligible = false) (market raw : String) :
    (∀ e, a.appraise market raw = .error e ↔ a.rejecting.appraise market raw = .error e) ∧
    ∀ v, a.appraise market raw = .ok v →
      ∃ v', a.rejecting.appraise market raw = .ok v' ∧ a.Filters v v' := by
  have ids : ∀ r ∈ a.types.records, 0 < r.id := fun r member =>
    TypeCatalog.pos_of_isLoadable (TypeCatalog.isLoadable_of_ofText? loaded member)
  cases refused : a.problem? market raw with
  | some cause =>
    have failure : a.appraise market raw = .error (.configuration cause) := by rw [appraise, refused]
    have failure' : a.rejecting.appraise market raw = .error (.configuration cause) := by
      rw [appraise, show a.rejecting.problem? market raw = some cause from refused]
    rw [failure, failure']
    refine ⟨fun e => Iff.rfl, fun v success => ?_⟩
    cases success
  | none =>
    have read : a.appraise market raw = (classify a.types (Paste.ofText raw)).map (a.value market raw) := by
      rw [appraise, refused]
    have read' : a.rejecting.appraise market raw =
        (classify a.types (Paste.ofText raw)).map (a.rejecting.value market raw) := by
      rw [appraise, show a.rejecting.problem? market raw = none from refused]
      rfl
    rw [read, read']
    cases classify a.types (Paste.ofText raw) with
    | error e =>
      rw [Except.map, Except.map]
      refine ⟨fun e => Iff.rfl, fun v success => ?_⟩
      cases success
    | ok c =>
      rw [Except.map, Except.map]
      refine ⟨fun e => ?_, fun v success => ?_⟩
      · constructor <;> intro failure <;> cases failure
      · cases success
        exact ⟨_, rfl, filters_value accepting ids market raw c⟩

/-! ## The report without rejecting -/

namespace ShipReport

/-- An appraiser that knows the mineral and the ship and takes both. -/
def lenient : Appraiser := { settings := {}, types := appraiser.types, prices := {} }

/-- Of the report only the ship is rejected. -/
theorem rejected_outcomes {parse : Parse}
    (readings : parse.readings = [⟨.killReport report, [1, 2, 3, 4]⟩]) :
    (ListedItem.merge parse.listed).map (fun l => (appraiser.outcome "jita" l).rejected) =
      [false, true, false] := by
  have mineral : appraiser.statusOf "Tritanium" = .accepted := by
    rw [statusOf, byName?_names.1]
    rfl
  have ship : appraiser.statusOf "Rifter" = .rejected := by
    rw [statusOf, byName?_names.2.1]
    rfl
  have unknown : appraiser.statusOf "Plumbus" = .unresolved := by
    rw [statusOf, byName?_names.2.2]
  have judged (l : ListedItem) : (appraiser.outcome "jita" l).rejected =
      decide (appraiser.statusOf l.name = .rejected) := by
    have shown := describes_outcome ids_types "jita" l
    cases status : appraiser.statusOf l.name with
    | unresolved =>
      rw [status] at shown
      exact shown.2.2.2.1
    | rejected =>
      rw [status] at shown
      exact shown.2.2.1
    | accepted =>
      rw [status] at shown
      exact shown.2.1
  simp only [judged]
  rw [← Function.comp_def (fun name => decide (appraiser.statusOf name = .rejected)), ← List.map_map,
    merge_listed readings]
  simp [mineral, ship, unknown]

end ShipReport

open ShipReport

theorem appraise_rejecting_of_report :
    TypeCatalog.ofText? document = some (lenient.types, (TypeCatalog.load [mineral, ship]).2) ∧
    lenient.settings.buyback.rejectIneligible = false ∧
    ∃ v v', lenient.appraise "jita" ShipReport.text = .ok v ∧
      lenient.rejecting.appraise "jita" ShipReport.text = .ok v' ∧
      v.pasted.items.map (·.rejected) = [false, false, false] ∧
      v'.pasted.items.map (·.rejected) = [false, true, false] ∧
      v'.pasted.items = v.pasted.items.map lenient.withRejection := by
  refine ⟨loaded, rfl, ?_⟩
  obtain ⟨failures, filtered⟩ := appraise_rejecting lenient loaded rfl "jita" ShipReport.text
  obtain ⟨c, readings, success'⟩ := ShipReport.appraise_text
  cases success : lenient.appraise "jita" ShipReport.text with
  | error e => cases success'.symm.trans ((failures e).1 success)
  | ok v =>
    obtain ⟨v', filtering, filters⟩ := filtered v success
    cases success'.symm.trans filtering
    have items := (value_eq (a := appraiser) ids_types "jita" ShipReport.text c).1
    have rejected : (appraiser.value "jita" ShipReport.text c).pasted.items.map (·.rejected) =
        [false, true, false] := by
      rw [items, List.map_map, ← rejected_outcomes readings]
      rfl
    have kept : v.pasted.items.map (·.rejected) = List.replicate v.pasted.items.length false :=
      List.map_eq_replicate_iff.2 filters.unrejected
    have length : v.pasted.items.length = 3 := by
      have lengths := congrArg List.length rejected
      rw [filters.items_eq, List.length_map, List.length_map] at lengths
      exact lengths
    rw [length] at kept
    exact ⟨v, _, rfl, filtering, kept, rejected, filters.items_eq⟩

end ItemAppraisal
