import ItemAppraisal.Proofs.Eligibility
import ItemAppraisal.Proofs.Merging
import Mathlib.Logic.ExistsUnique

/-!
# The status of items

Looking up types, rejecting, pricing and breaking down each pass over items, some by their names and some
by the ids of their types. In a catalog with positive ids they all pass over the same ones, so what becomes
of a listed item depends on its type alone (`withBasket_priceItem_prepare`), and an item of an appraisal
has exactly one status (`appraise_statuses`).
-/

namespace ItemAppraisal

open Format (Kind)

/-- What became of an item of a text. -/
inductive ItemStatus where
  /-- No type has the name. -/
  | unresolved
  /-- The type is not taken. -/
  | rejected
  /-- Priced and broken down. -/
  | accepted
  deriving DecidableEq

/-- An item of a status. -/
def ItemStatus.Describes : ItemStatus → AppraisedItem → Prop
  | unresolved, i =>
    i.typeId = 0 ∧ i.typeName = "" ∧ i.prices = {} ∧ i.rejected = false ∧ i.buyback = none
  | rejected, i => i.typeId ≠ 0 ∧ i.prices = {} ∧ i.rejected = true ∧ i.buyback = none
  | accepted, i => i.typeId ≠ 0 ∧ i.rejected = false ∧ ∃ materials, i.buyback = some materials

/-- Whether an item is accepted. -/
def AppraisedItem.isAccepted (i : AppraisedItem) : Bool :=
  i.isResolved && !i.rejected && i.buyback.isSome

theorem ItemStatus.eq_of_describes {status other : ItemStatus} {i : AppraisedItem}
    (shown : status.Describes i) (shown' : other.Describes i) : status = other := by
  cases status <;> cases other <;> simp_all [Describes]

theorem AppraisedItem.isAccepted_iff {i : AppraisedItem} :
    i.isAccepted = true ↔ ItemStatus.accepted.Describes i := by
  simp [isAccepted, isResolved, ItemStatus.Describes, Option.isSome_iff_exists, and_assoc]

namespace Buyback

variable {b : Buyback} {p : Pricing} {item : AppraisedItem}

theorem withBasket_none (bare : b.basket? item = none) : b.withBasket p item = item := by
  rw [withBasket, bare]

theorem withBasket_some {basket : Basket} (found : b.basket? item = some basket) :
    b.withBasket p item = { item with buyback := some (b.priceBasket p basket) } := by
  rw [withBasket, found]

theorem add_withBasket (t : Totals) : t.add (b.withBasket p item) = t.add item := by
  rw [withBasket]
  cases b.basket? item <;> rfl

theorem basket?_withBasket : b.basket? (b.withBasket p item) = b.basket? item := by
  cases found : b.basket? item with
  | none => rw [withBasket_none found, found]
  | some basket =>
    rw [withBasket_some found, ← found]
    rfl

/-- Items that are not accepted have no materials, so the materials of all items are those of the accepted
ones. -/
theorem globalBasket_filter_isAccepted (items : List AppraisedItem) :
    b.globalBasket ((items.map (b.withBasket p)).filter (·.isAccepted)) = b.globalBasket items := by
  have baskets : ((items.map (b.withBasket p)).filter (·.isAccepted)).filterMap b.basket? =
      items.filterMap b.basket? := by
    rw [List.filterMap_filter, List.filterMap_map]
    refine List.filterMap_congr fun item _ => ?_
    rw [Function.comp_apply, basket?_withBasket]
    cases found : b.basket? item with
    | none => exact ite_self _
    | some basket =>
      obtain ⟨accepted, resolved, -⟩ := basket?_eq_some_iff.1 found
      have taken : (b.withBasket p item).isAccepted = true := by
        rw [withBasket_some found, AppraisedItem.isAccepted]
        simp only [accepted, AppraisedItem.isResolved] at resolved ⊢
        simp [resolved]
      rw [if_pos taken]
  rw [globalBasket, globalBasket, baskets]

end Buyback

namespace Appraiser

variable {a : Appraiser} {market : String} {l : ListedItem} {r : TypeRecord}

/-- Whether items of a type are rejected. -/
def rejects (a : Appraiser) (r : TypeRecord) : Bool :=
  a.settings.buyback.rejectIneligible && !isEligible a.types a.settings.buyback r

/-- An item of a text before it is priced. -/
def prepare (a : Appraiser) (item : AppraisedItem) : AppraisedItem :=
  if a.settings.buyback.rejectIneligible then a.buyback.judge (a.pricing.resolve item) else item

/-- A listed item of a type once it is priced and broken down. -/
def accept (a : Appraiser) (market : String) (l : ListedItem) (r : TypeRecord) : AppraisedItem :=
  let item := Pricing.withRecord (.ofListed l) r
  { item with
    prices := a.pricing.pricesFor market item
    adjustment := adjustmentFor [] r.id
    buyback := some (a.buyback.priceBasket a.pricing
      (decompose a.types a.settings.buyback r l.quantity)) }

/-- What becomes of a listed item. -/
def outcome (a : Appraiser) (market : String) (l : ListedItem) : AppraisedItem :=
  match a.types.byName? l.name with
  | none => .ofListed l
  | some r =>
    if a.rejects r then { Pricing.withRecord (.ofListed l) r with rejected := true }
    else a.accept market l r

theorem outcome_of_unknown (unknown : a.types.byName? l.name = none) :
    a.outcome market l = .ofListed l := by
  rw [outcome, unknown]

theorem outcome_of_known (known : a.types.byName? l.name = some r) : a.outcome market l =
    if a.rejects r then { Pricing.withRecord (.ofListed l) r with rejected := true }
    else a.accept market l r := by
  rw [outcome, known]

/-- The status of the items of a name. -/
def statusOf (a : Appraiser) (name : String) : ItemStatus :=
  match a.types.byName? name with
  | none => .unresolved
  | some r => if a.rejects r then .rejected else .accepted

theorem statusOf_eq_unresolved_iff {name : String} :
    a.statusOf name = .unresolved ↔ a.types.byName? name = none := by
  rw [statusOf]
  cases a.types.byName? name with
  | none => simp
  | some r => cases rejected : a.rejects r <;> simp [rejected]

theorem statusOf_eq_rejected_iff {name : String} : a.statusOf name = .rejected ↔
    a.settings.buyback.rejectIneligible = true ∧
      ∃ r, a.types.byName? name = some r ∧ isEligible a.types a.settings.buyback r = false := by
  rw [statusOf]
  cases a.types.byName? name with
  | none => simp
  | some r =>
    cases rejecting : a.settings.buyback.rejectIneligible <;>
      cases eligible : isEligible a.types a.settings.buyback r <;> simp [rejects, rejecting, eligible]

/-- An item keeps the name and the quantity that it was listed with. -/
theorem outcome_listed (a : Appraiser) (market : String) (l : ListedItem) :
    (a.outcome market l).name = l.name ∧ (a.outcome market l).quantity = l.quantity := by
  cases known : a.types.byName? l.name with
  | none =>
    rw [outcome_of_unknown known]
    exact ⟨rfl, rfl⟩
  | some r =>
    rw [outcome_of_known known]
    split <;> exact ⟨rfl, rfl⟩

theorem itemsOf_eq (a : Appraiser) (parse : Parse) :
    a.itemsOf parse = (ListedItem.merge parse.listed).map fun l => a.prepare (.ofListed l) := by
  rw [itemsOf]
  simp only [prepare]
  split
  · rw [List.map_map, List.map_map]
    rfl
  · rfl

theorem record?_ofListed (a : Appraiser) (l : ListedItem) :
    a.pricing.record? (.ofListed l) = a.types.byName? l.name :=
  Pricing.record?_of_unresolved rfl

/-- A name without a type is passed over by every step. -/
theorem prepare_of_unknown (unknown : a.types.byName? l.name = none) :
    a.prepare (.ofListed l) = .ofListed l := by
  have resolved : a.pricing.resolve (.ofListed l) = .ofListed l := by
    rw [Pricing.resolve, record?_ofListed, unknown]
  rw [prepare, resolved]
  split <;> rfl

/-- An item of a known type is judged by that type if items can be rejected. -/
theorem prepare_of_known (known : a.types.byName? l.name = some r) (positive : 0 < r.id) :
    a.prepare (.ofListed l) = if a.settings.buyback.rejectIneligible then
      { Pricing.withRecord (.ofListed l) r with rejected := a.rejects r } else .ofListed l := by
  have resolved : a.pricing.resolve (.ofListed l) = Pricing.withRecord (.ofListed l) r := by
    rw [Pricing.resolve, record?_ofListed, known]
  have byId : a.types.byId? r.id = some r := TypeCatalog.byId?_of_byName? known
  rw [prepare, resolved]
  split
  · rename_i rejecting
    rcases a.buyback.judge_cases (Pricing.withRecord (.ofListed l) r) with ⟨-, untyped⟩ | ⟨t, found, same⟩
    · exact absurd byId (untyped r (bne_iff_ne.2 (Int.ne_of_gt positive)))
    · have found : a.types.byId? r.id = some t := found
      cases byId.symm.trans found
      rw [same, rejects, rejecting, Bool.true_and]
      rfl
  · rfl

theorem record?_prepare (known : a.types.byName? l.name = some r) (positive : 0 < r.id) :
    a.pricing.record? (a.prepare (.ofListed l)) = some r := by
  rw [prepare_of_known known positive]
  split
  · have resolved : r.id ≠ 0 := Int.ne_of_gt positive
    rw [Pricing.record?_of_resolved resolved]
    exact TypeCatalog.byId?_of_byName? known
  · rw [record?_ofListed, known]

theorem withRecord_prepare (known : a.types.byName? l.name = some r) (positive : 0 < r.id) :
    Pricing.withRecord (a.prepare (.ofListed l)) r =
      { Pricing.withRecord (.ofListed l) r with rejected := a.rejects r } := by
  rw [prepare_of_known known positive]
  split
  · rfl
  · rename_i accepting
    rw [rejects, Bool.eq_false_iff.2 accepting]
    rfl

theorem priceItem_prepare (known : a.types.byName? l.name = some r) (positive : 0 < r.id) :
    a.pricing.priceItem market [] (a.prepare (.ofListed l)) =
      if a.rejects r then { Pricing.withRecord (.ofListed l) r with rejected := true }
      else { a.accept market l r with buyback := none } := by
  rw [Pricing.priceItem, record?_prepare known positive]
  simp only [withRecord_prepare known positive]
  split
  · rename_i rejected
    rw [rejected]
    rfl
  · rename_i accepted
    rw [Bool.eq_false_iff.2 accepted]
    rfl

variable (ids : ∀ r ∈ a.types.records, 0 < r.id)
include ids

theorem describes_outcome (market : String) (l : ListedItem) :
    (a.statusOf l.name).Describes (a.outcome market l) := by
  rw [statusOf]
  cases known : a.types.byName? l.name with
  | none =>
    rw [outcome_of_unknown known]
    exact ⟨rfl, rfl, rfl, rfl, rfl⟩
  | some r =>
    have typed : r.id ≠ 0 := Int.ne_of_gt (ids r (TypeCatalog.mem_records_of_byName? known))
    rw [outcome_of_known known]
    cases rejected : a.rejects r with
    | true =>
      simp only [rejected]
      exact ⟨typed, rfl, rfl, rfl⟩
    | false =>
      simp only [rejected]
      exact ⟨typed, rfl, _, rfl⟩

/-- All steps pass over the same items. -/
theorem withBasket_priceItem_prepare (market : String) (l : ListedItem) :
    a.buyback.withBasket a.pricing (a.pricing.priceItem market [] (a.prepare (.ofListed l))) =
      a.outcome market l := by
  cases known : a.types.byName? l.name with
  | none =>
    have unpriced : a.pricing.priceItem market [] (.ofListed l) = .ofListed l := by
      rw [Pricing.priceItem, record?_ofListed, known]
    rw [prepare_of_unknown known, outcome_of_unknown known, unpriced]
    exact Buyback.withBasket_none rfl
  | some r =>
    have positive := ids r (TypeCatalog.mem_records_of_byName? known)
    rw [priceItem_prepare known positive, outcome_of_known known]
    cases a.rejects r with
    | true => exact Buyback.withBasket_none rfl
    | false =>
      refine Buyback.withBasket_some (Buyback.basket?_eq_some_iff.2 ⟨rfl, ?_, r, ?_, rfl⟩)
      · exact bne_iff_ne.2 (Int.ne_of_gt positive)
      · exact TypeCatalog.byId?_of_byName? known

theorem counts_prepare (market : String) (l : ListedItem) :
    a.pricing.counts (a.prepare (.ofListed l)) = (a.outcome market l).isAccepted := by
  rw [Pricing.counts]
  cases known : a.types.byName? l.name with
  | none =>
    rw [prepare_of_unknown known, outcome_of_unknown known, record?_ofListed, known]
    rfl
  | some r =>
    have positive := ids r (TypeCatalog.mem_records_of_byName? known)
    have rejected : (a.prepare (.ofListed l)).rejected = a.rejects r :=
      congrArg AppraisedItem.rejected (withRecord_prepare known positive)
    rw [record?_prepare known positive, rejected, outcome_of_known known]
    cases a.rejects r with
    | true => simp [AppraisedItem.isAccepted]
    | false =>
      have resolved : r.id ≠ 0 := Int.ne_of_gt positive
      simp [AppraisedItem.isAccepted, AppraisedItem.isResolved, accept, Pricing.withRecord, resolved,
        AppraisedItem.ofListed]

/-- Exact account of an appraisal: its items are what becomes of the merged items, and the sums and the
materials are those of the accepted ones. -/
theorem value_eq (market raw : String) (c : Classification) :
    let v := a.value market raw c
    v.pasted.items = (ListedItem.merge c.parse.listed).map (a.outcome market) ∧
    v.pasted.totals = (v.pasted.items.filter (·.isAccepted)).foldl Totals.add {} ∧
    v.buyback = a.buyback.priceBasket a.pricing
      (a.buyback.globalBasket (v.pasted.items.filter (·.isAccepted))) := by
  intro v
  have items : v.pasted.items = (ListedItem.merge c.parse.listed).map (a.outcome market) := by
    show ((a.itemsOf c.parse).map (a.pricing.priceItem market [])).map (a.buyback.withBasket a.pricing) = _
    rw [itemsOf_eq, List.map_map, List.map_map]
    exact List.map_congr_left fun l _ => withBasket_priceItem_prepare ids market l
  refine ⟨items, ?_, ?_⟩
  · have counted : a.pricing.counts ∘ (fun l => a.prepare (.ofListed l)) =
        AppraisedItem.isAccepted ∘ a.outcome market :=
      funext fun l => counts_prepare ids market l
    have added (t : Totals) (l : ListedItem) :
        t.add (a.outcome market l) = t.add (a.pricing.priceItem market [] (a.prepare (.ofListed l))) := by
      rw [← withBasket_priceItem_prepare ids market l]
      exact Buyback.add_withBasket t
    show (((a.itemsOf c.parse).filter a.pricing.counts).map (a.pricing.priceItem market [])).foldl
      Totals.add {} = _
    rw [items, itemsOf_eq, List.filter_map, List.filter_map, counted, List.map_map, List.foldl_map,
      List.foldl_map]
    simp only [added]
    rfl
  · show a.buyback.priceBasket a.pricing
      (a.buyback.globalBasket ((a.itemsOf c.parse).map (a.pricing.priceItem market []))) = _
    rw [← Buyback.globalBasket_filter_isAccepted]
    rfl

end Appraiser

/-- With a catalog of a document, every item of an appraisal is unresolved, rejected or accepted: unresolved
if no type has its name, rejected if it has a type that is not eligible and such items are rejected. Only
accepted items count in the sums, in the order of the list, and in the materials of all items. -/
theorem appraise_statuses (a : Appraiser) {document : String} {summary : LoadSummary}
    (loaded : TypeCatalog.ofText? document = some (a.types, summary)) {market raw : String} {v : Appraisal}
    (appraised : a.appraise market raw = .ok v) :
    (∀ i ∈ v.pasted.items, 0 ≤ i.quantity ∧ (∃! status : ItemStatus, status.Describes i) ∧
      (ItemStatus.unresolved.Describes i ↔ a.types.byName? i.name = none) ∧
      (ItemStatus.rejected.Describes i ↔ a.settings.buyback.rejectIneligible = true ∧
        ∃ r, a.types.byName? i.name = some r ∧ isEligible a.types a.settings.buyback r = false) ∧
      (i.isAccepted = true ↔ ItemStatus.accepted.Describes i) ∧
      ∀ r, a.types.byName? i.name = some r → i.typeId = r.id ∧ i.typeName = r.name ∧
        (ItemStatus.accepted.Describes i → i.buyback = some (a.buyback.priceBasket a.pricing
          (decompose a.types a.settings.buyback r i.quantity)))) ∧
    v.pasted.totals = (v.pasted.items.filter (·.isAccepted)).foldl Totals.add {} ∧
    v.buyback = a.buyback.priceBasket a.pricing
      (a.buyback.globalBasket (v.pasted.items.filter (·.isAccepted))) := by
  have ids : ∀ r ∈ a.types.records, 0 < r.id := fun r member =>
    TypeCatalog.pos_of_isLoadable (TypeCatalog.isLoadable_of_ofText? loaded member)
  obtain ⟨c, -, rfl⟩ := Appraiser.eq_value_of_appraise appraised
  obtain ⟨items, totals, materials⟩ := Appraiser.value_eq ids market raw c
  refine ⟨fun i member => ?_, totals, materials⟩
  rw [items] at member
  obtain ⟨l, merged, rfl⟩ := List.mem_map.1 member
  have shown := Appraiser.describes_outcome ids market l
  have status_iff (status : ItemStatus) :
      status.Describes (a.outcome market l) ↔ a.statusOf l.name = status := by
    constructor
    · exact ItemStatus.eq_of_describes shown
    · rintro rfl
      exact shown
  obtain ⟨name, quantity⟩ := a.outcome_listed market l
  rw [name, quantity]
  refine ⟨(ListedItem.exists_of_mem_merge merged).1,
    ⟨_, shown, fun other shown' => ItemStatus.eq_of_describes shown' shown⟩,
    (status_iff _).trans Appraiser.statusOf_eq_unresolved_iff,
    (status_iff _).trans Appraiser.statusOf_eq_rejected_iff, AppraisedItem.isAccepted_iff,
    fun r known => ?_⟩
  rw [Appraiser.outcome_of_known known]
  split
  · refine ⟨rfl, rfl, fun accepted => ?_⟩
    cases accepted.2.1
  · exact ⟨rfl, rfl, fun _ => rfl⟩

/-! ## A report of a mineral, a ship and something else -/

namespace ShipReport

/-- A mineral. -/
def mineral : TypeRecord := { id := 34, groupId := 18, name := "Tritanium" }

/-- A ship that does not break down. -/
def ship : TypeRecord := { id := 587, groupId := 25, name := "Rifter" }

/-- The document of the two. -/
def document : String :=
  "[\x7b\"id\":34,\"group_id\":18,\"name\":\"Tritanium\"\x7d," ++
    "\x7b\"id\":587,\"group_id\":25,\"name\":\"Rifter\"\x7d]"

/-- An appraiser that knows the two and rejects what is not eligible. -/
def appraiser : Appraiser where
  settings := { buyback := { rejectIneligible := true } }
  types := (TypeCatalog.load [mineral, ship]).1
  prices := {}

/-- A report of both and of something that is no type. -/
def text : String := "Dropped items:\nTritanium, Qty: 10\nRifter\nPlumbus"

/-- What the report says. -/
def report : KillReport := { dropped := [⟨"Tritanium", 10, ""⟩, ⟨"Rifter", 1, ""⟩, ⟨"Plumbus", 1, ""⟩] }

theorem loaded : TypeCatalog.ofText? document =
    some (appraiser.types, (TypeCatalog.load [mineral, ship]).2) := by
  have read : (Json.parse document).bind (·.list? TypeRecord.ofJson?) = some [mineral, ship] := by
    decide +kernel
  obtain ⟨j, parsed, records⟩ := Option.bind_eq_some_iff.1 read
  rw [TypeCatalog.ofText?, parsed, Option.bind_some, TypeCatalog.ofJson?, records]
  rfl

theorem records_types : appraiser.types.records = [mineral, ship] := by
  have loadable : [mineral, ship].filter TypeCatalog.isLoadable = [mineral, ship] := by decide +kernel
  show ((TypeCatalog.enter ∅ [] [] ([mineral, ship].filter TypeCatalog.isLoadable)).1).map (·.record) = _
  rw [loadable]
  simp [TypeCatalog.enter, mineral, ship, CatalogEntry.ofRecord]

theorem ids_types : ∀ r ∈ appraiser.types.records, 0 < r.id := by
  rw [records_types]
  decide

theorem byName?_eq (name : String) : appraiser.types.byName? name =
    [mineral, ship].find? (Text.lowercase ·.name == TypeCatalog.nameKey name) := by
  rw [TypeCatalog.byName?_eq_find?, records_types]

theorem byName?_names : appraiser.types.byName? "Tritanium" = some mineral ∧
    appraiser.types.byName? "Rifter" = some ship ∧ appraiser.types.byName? "Plumbus" = none := by
  simp only [byName?_eq]
  decide +kernel

theorem isEligible_mineral : isEligible appraiser.types appraiser.settings.buyback mineral = true := rfl

theorem isEligible_ship : isEligible appraiser.types appraiser.settings.buyback ship = false := rfl

theorem lines_text : (Paste.ofText text).lines =
    [⟨1, "Dropped items:"⟩, ⟨2, "Tritanium, Qty: 10"⟩, ⟨3, "Rifter"⟩, ⟨4, "Plumbus"⟩] := by
  decide +kernel

theorem read_text : Kind.killReport.read appraiser.types (Paste.ofText text) =
    ⟨.killReport report, [1, 2, 3, 4]⟩ := by
  have marked : (Paste.ofText text).lines.any (fun line => KillReport.marksReport line.clean) = true := by
    decide +kernel
  have header : KillReport.section? (Line.clean ⟨1, "Dropped items:"⟩) = some .dropped := by decide +kernel
  have mineral : KillReport.item? (Line.clean ⟨2, "Tritanium, Qty: 10"⟩) = some ⟨"Tritanium", 10, ""⟩ := by
    rw [KillReport.item?, Text.Pattern.match?_eq_head?]
    decide +kernel
  have ship : KillReport.item? (Line.clean ⟨3, "Rifter"⟩) = some ⟨"Rifter", 1, ""⟩ := by
    rw [KillReport.item?, Text.Pattern.match?_eq_head?]
    decide +kernel
  have unknown : KillReport.item? (Line.clean ⟨4, "Plumbus"⟩) = some ⟨"Plumbus", 1, ""⟩ := by
    rw [KillReport.item?, Text.Pattern.match?_eq_head?]
    decide +kernel
  rw [Kind.read, KillReport.readReport, if_pos marked, lines_text, KillReport.entries_cons_header header,
    KillReport.entries_cons_item (by decide +kernel) (by decide +kernel) mineral,
    KillReport.entries_cons_item (by decide +kernel) (by decide +kernel) ship,
    KillReport.entries_cons_item (by decide +kernel) (by decide +kernel) unknown]
  rfl

theorem appraise_text : ∃ c, c.parse.readings = [⟨.killReport report, [1, 2, 3, 4]⟩] ∧
    appraiser.appraise "jita" text = .ok (appraiser.value "jita" text c) := by
  have numbers : (Paste.ofText text).numbers = [1, 2, 3, 4] := by rw [Paste.numbers, lines_text]; rfl
  have present : ⟨1, "Dropped items:"⟩ ∈ (Paste.ofText text).lines := by simp [lines_text]
  refine Appraiser.appraise_of_report ?_ read_text numbers.symm present (by decide +kernel)
  rw [Appraiser.Refuses]
  decide +kernel

theorem merge_listed {parse : Parse} (readings : parse.readings = [⟨.killReport report, [1, 2, 3, 4]⟩]) :
    (ListedItem.merge parse.listed).map (·.name) = ["Tritanium", "Rifter", "Plumbus"] := by
  rw [Parse.listed, readings, ListedItem.merge_eq_map_mergeTable]
  decide +kernel

end ShipReport

open ShipReport

theorem appraise_statuses_of_report :
    TypeCatalog.ofText? document = some (appraiser.types, (TypeCatalog.load [mineral, ship]).2) ∧
    ∃ v, appraiser.appraise "jita" ShipReport.text = .ok v ∧
      v.pasted.items.map (·.name) = ["Tritanium", "Rifter", "Plumbus"] ∧
      ∀ i ∈ v.pasted.items, (i.name = "Plumbus" → ItemStatus.unresolved.Describes i) ∧
        (i.name = "Rifter" → ItemStatus.rejected.Describes i) ∧
        (i.name = "Tritanium" → ItemStatus.accepted.Describes i) := by
  refine ⟨loaded, ?_⟩
  obtain ⟨c, readings, success⟩ := ShipReport.appraise_text
  obtain ⟨statuses, -, -⟩ := appraise_statuses appraiser loaded success
  refine ⟨_, success, ?_, fun i member => ?_⟩
  · have ids : ∀ r ∈ appraiser.types.records, 0 < r.id := by
      rw [records_types]
      decide
    rw [(Appraiser.value_eq ids "jita" ShipReport.text c).1, List.map_map, ← merge_listed readings]
    exact List.map_congr_left fun l _ => (appraiser.outcome_listed "jita" l).1
  · obtain ⟨-, ⟨status, shown, -⟩, unresolved, rejected, -, -⟩ := statuses i member
    refine ⟨fun name => ?_, fun name => ?_, fun name => ?_⟩
    · exact unresolved.2 (name ▸ byName?_names.2.2)
    · exact rejected.2 ⟨rfl, ship, name ▸ byName?_names.2.1, isEligible_ship⟩
    · cases status with
      | unresolved =>
        have unknown := unresolved.1 shown
        rw [name, byName?_names.1] at unknown
        cases unknown
      | rejected =>
        obtain ⟨-, r, known, ineligible⟩ := rejected.1 shown
        rw [name, byName?_names.1] at known
        cases known
        rw [isEligible_mineral] at ineligible
        cases ineligible
      | accepted => exact shown

end ItemAppraisal
