import ItemAppraisal.Proofs.StoredRecords

/-!
# Appraisals in documents

Items hold valuations and valuations hold items, to any depth. They read back from their documents level by
level, with as much fuel as the document is deep. Main statement: appraisals and settings read back
(`documents_read_back`).
-/

namespace ItemAppraisal

open Json

/-! ## What a document can hold -/

mutual

/-- Items that a document can hold, with their materials. -/
inductive AppraisedItem.Storable : AppraisedItem → Prop
  | intro {i : AppraisedItem} (typeId : Quantity.InRange i.typeId) (quantity : Quantity.InRange i.quantity)
      (typeVolume : i.typeVolume.isFinite = true) (prices : i.prices.Storable)
      (adjustment : i.adjustment.isFinite = true) (efficiency : i.efficiency.isFinite = true)
      (buyback : ∀ v ∈ i.buyback, Valuation.Storable v) (details : i.details.Storable) :
      AppraisedItem.Storable i

/-- Valuations that a document can hold, with their items. -/
inductive Valuation.Storable : Valuation → Prop
  | intro {v : Valuation} (totals : v.totals.Storable) (items : ∀ i ∈ v.items, AppraisedItem.Storable i) :
      Valuation.Storable v

end

structure Appraisal.Storable (a : Appraisal) : Prop where
  created : Quantity.InRange a.created
  pasted : a.pasted.Storable
  buyback : a.buyback.Storable
  /-- The lines stand in ascending order, each once. -/
  lines : a.unparsed.keys.Pairwise (· < ·)
  numbers : ∀ n ∈ a.unparsed.keys, n < Decimal.wordCount
  ownerId : ∀ id ∈ a.ownerId, Quantity.InRange id

/-! ## Equal values -/

mutual

/-- Items with equal doubles, equal prices, materials and details, and otherwise the same. -/
inductive AppraisedItem.Equal : AppraisedItem → AppraisedItem → Prop
  | intro {i k : AppraisedItem} (typeVolume : (i.typeVolume == k.typeVolume) = true)
      (prices : i.prices.Equal k.prices) (adjustment : (i.adjustment == k.adjustment) = true)
      (efficiency : (i.efficiency == k.efficiency) = true)
      (buyback : Option.Rel Valuation.Equal i.buyback k.buyback) (details : i.details.Equal k.details)
      (others : { i with
        typeVolume := k.typeVolume
        prices := k.prices
        adjustment := k.adjustment
        efficiency := k.efficiency
        buyback := k.buyback
        details := k.details } = k) : AppraisedItem.Equal i k

/-- Valuations with equal sums and, in the same order, equal items. -/
inductive Valuation.Equal : Valuation → Valuation → Prop
  | intro {v w : Valuation} (totals : v.totals.Equal w.totals)
      (items : List.Forall₂ AppraisedItem.Equal v.items w.items) : Valuation.Equal v w

end

structure Appraisal.Equal (a b : Appraisal) : Prop where
  pasted : a.pasted.Equal b.pasted
  buyback : a.buyback.Equal b.buyback
  others : { a with pasted := b.pasted, buyback := b.buyback } = b

/-! ## Items and valuations -/

theorem Qualifier.ofJson?_toJson (q : Qualifier) : ofJson? q.toJson = some q := by
  cases q <;> rfl

theorem itemsToJson_eq_map (items : List AppraisedItem) : itemsToJson items = items.map (·.toJson) := by
  induction items with
  | nil => rfl
  | cons i items ih => rw [itemsToJson, ih, List.map_cons]

namespace AppraisedItem

theorem toJson_eq (i : AppraisedItem) :
    i.toJson = .ofFields (i.fieldsWith (optionalField "buyback" Valuation.toJson i.buyback)) := by
  have field (buyback : Option Valuation) :
      buybackField buyback = optionalField "buyback" Valuation.toJson buyback := by
    cases buyback <;> rfl
  cases i
  rw [toJson, field]

theorem named_fieldsWith (i : AppraisedItem) :
    Named (i.fieldsWith (optionalField "buyback" Valuation.toJson i.buyback)) fieldNames := by
  have always := named_self [("name", .string i.name), ("typeID", .int i.typeId),
    ("typeName", .string i.typeName), ("typeVolume", .float i.typeVolume), ("quantity", .int i.quantity),
    ("prices", i.prices.toJson)]
  have marks := (always.append (named_floatField "adjustment" i.adjustment)).append
    (named_flagField "rejected" i.rejected)
  have steps := (marks.append (named_optionalField "qualifier" Qualifier.toJson i.qualifier)).append
    (named_floatField "efficiency" i.efficiency)
  exact (steps.append (named_optionalField "buyback" Valuation.toJson i.buyback)).append
    (named_self [("meta", i.details.toJson)])

end AppraisedItem

namespace Valuation

theorem toJson_eq (v : Valuation) :
    v.toJson = .ofFields [("totals", v.totals.toJson), ("items", .array (v.items.map (·.toJson)))] := by
  cases v
  rw [toJson, itemsToJson_eq_map]
  rfl

theorem depth_lt_toJson {v : Valuation} {i : AppraisedItem} (member : i ∈ v.items) :
    i.toJson.depth + 1 < v.toJson.depth := by
  have inner : i.toJson.depth < (Json.array (v.items.map (·.toJson))).depth :=
    depth_lt_array (List.mem_map_of_mem member)
  have outer : (Json.array (v.items.map (·.toJson))).depth < v.toJson.depth := by
    rw [toJson_eq]
    exact depth_lt_ofFields (List.mem_cons_of_mem _ List.mem_cons_self)
  omega

/-- A valuation reads back if its items do. -/
theorem exists_decode_toJson {fuel : Nat} {v : Valuation} (stored : v.Storable)
    (items : ∀ i ∈ v.items, ∃ k, AppraisedItem.decode fuel i.toJson = some k ∧ k.Equal i) :
    ∃ w, decode (fuel + 1) v.toJson = some w ∧ w.Equal v := by
  obtain ⟨totals, -⟩ := stored
  have all (l : List AppraisedItem)
      (items : ∀ i ∈ l, ∃ k, AppraisedItem.decode fuel i.toJson = some k ∧ k.Equal i) :
      ∃ ks, (l.map (·.toJson)).mapM (AppraisedItem.decode fuel) = some ks ∧
        List.Forall₂ AppraisedItem.Equal ks l := by
    induction l with
    | nil => exact ⟨[], rfl, .nil⟩
    | cons i l ih =>
      obtain ⟨head, tail⟩ := List.forall_mem_cons.1 items
      obtain ⟨k, reads, equal⟩ := head
      obtain ⟨ks, others, equals⟩ := ih tail
      refine ⟨k :: ks, ?_, .cons equal equals⟩
      rw [List.map_cons, List.mapM_cons, reads, others]
      rfl
  obtain ⟨ks, reads, equals⟩ := all v.items items
  refine ⟨⟨v.totals, ks⟩, ?_, .intro (.refl totals) equals⟩
  have record : v.toJson.record? ["totals", "items"] = some _ :=
    (congrArg (record? _) v.toJson_eq).trans (record?_ofFields (named_self _) (by decide))
  rw [decode, record]
  simp [-Option.bind_eq_bind, some_bind, Table.get?_cons, Totals.ofJson?_toJson, list?, reads]

end Valuation

/-- An item reads back if its materials do. -/
theorem AppraisedItem.exists_decode_toJson {fuel : Nat} {i : AppraisedItem} (stored : i.Storable)
    (materials : ∀ v ∈ i.buyback, ∃ w, Valuation.decode fuel v.toJson = some w ∧ w.Equal v) :
    ∃ k, decode (fuel + 1) i.toJson = some k ∧ k.Equal i := by
  obtain ⟨typeId, quantity, typeVolume, prices, adjustment, efficiency, -, details⟩ := stored
  obtain ⟨e, readsDetails, equalDetails⟩ := ItemDetails.exists_ofJson?_toJson details
  obtain ⟨b, readsBuyback, equalBuyback⟩ : ∃ b, (i.buyback.map Valuation.toJson).elim (some none)
      (nullable? (Valuation.decode fuel)) = some b ∧ Option.Rel Valuation.Equal b i.buyback := by
    cases present : i.buyback with
    | none => exact ⟨none, rfl, .none⟩
    | some v =>
      obtain ⟨w, reads, equal⟩ := materials v present
      refine ⟨some w, ?_, .some equal⟩
      rw [Valuation.toJson_eq] at reads
      rw [Option.map_some, Option.elim_some, Valuation.toJson_eq, nullable?_ofFields, reads]
      rfl
  have qualifier : (i.qualifier.map Qualifier.toJson).elim (some none) (nullable? Qualifier.ofJson?) =
      some i.qualifier := elim_optional (fun _ => nofun) fun q _ => q.ofJson?_toJson
  refine ⟨{ i with
    adjustment := plainZero i.adjustment
    efficiency := plainZero i.efficiency
    buyback := b
    details := e }, ?_, .intro (Decimal.beq_self_of_isFinite typeVolume) (.refl prices)
      (plainZero_beq adjustment) (plainZero_beq efficiency) equalBuyback equalDetails (by cases i; rfl)⟩
  rw [toJson_eq, decode, record?_ofFields i.named_fieldsWith (by decide)]
  simp [-Option.bind_eq_bind, some_bind, fieldsWith, Table.get?_append, Table.get?_cons,
    int?_of_inRange typeId, int?_of_inRange quantity, Prices.ofJson?_toJson prices, qualifier, readsBuyback,
    readsDetails]

theorem AppraisedItem.depth_lt_toJson {i : AppraisedItem} {v : Valuation} (present : v ∈ i.buyback) :
    v.toJson.depth < i.toJson.depth := by
  have member : ("buyback", v.toJson) ∈
      i.fieldsWith (optionalField "buyback" Valuation.toJson i.buyback) := by
    simp [fieldsWith, optionalField, Option.mem_def.1 present]
  rw [toJson_eq]
  exact depth_lt_ofFields member

/-- Items and valuations read back with more fuel than their documents are deep. By induction on the fuel:
each level of the one takes a level of the other. -/
theorem exists_decode_of_depth (fuel : Nat) :
    (∀ i : AppraisedItem, i.Storable → i.toJson.depth < fuel →
      ∃ k, AppraisedItem.decode fuel i.toJson = some k ∧ k.Equal i) ∧
    ∀ v : Valuation, v.Storable → v.toJson.depth < fuel →
      ∃ w, Valuation.decode fuel v.toJson = some w ∧ w.Equal v := by
  induction fuel with
  | zero => exact ⟨fun _ _ deep => (Nat.not_lt_zero _ deep).elim, fun _ _ deep => (Nat.not_lt_zero _ deep).elim⟩
  | succ fuel ih =>
    obtain ⟨items, valuations⟩ := ih
    refine ⟨fun i stored deep => ?_, fun v stored deep => ?_⟩
    · refine AppraisedItem.exists_decode_toJson stored fun v present => ?_
      have below := AppraisedItem.depth_lt_toJson present
      cases stored with
      | intro _ _ _ _ _ _ buyback _ => exact valuations v (buyback v present) (by omega)
    · refine Valuation.exists_decode_toJson stored fun i member => ?_
      have below := Valuation.depth_lt_toJson member
      cases stored with
      | intro _ all => exact items i (all i member) (by omega)

theorem Valuation.exists_ofJson?_toJson {v : Valuation} (stored : v.Storable) :
    ∃ w, ofJson? v.toJson = some w ∧ w.Equal v :=
  (exists_decode_of_depth _).2 v stored (Nat.lt_succ_self _)

/-! ## Appraisals -/

namespace Appraisal

theorem named_fields (a : Appraisal) : Named a.fields fieldNames := by
  have always := named_self [("id", .string a.id), ("created", .int a.created), ("kind", .string a.kind),
    ("market_name", .string a.marketName), ("original", a.pasted.toJson), ("buyback", a.buyback.toJson),
    ("raw", .string a.raw), ("unparsed", linesToJson a.unparsed)]
  have owner := (always.append (named_optionalField "owner_id" .int a.ownerId)).append
    (named_self [("private", .bool a.isPrivate)])
  exact (owner.append (named_optionalField "private_token" .string a.privateToken)).append
    (named_optionalField "user_name" .string a.userName)

variable {a : Appraisal} (stored : a.Storable)
include stored

theorem map?_linesToJson : map? natKey? string? (linesToJson a.unparsed) = some a.unparsed := by
  have distinct : a.unparsed.keys.Nodup := stored.lines.imp Nat.ne_of_lt
  have keys (p) (member : p ∈ a.unparsed) : natKey? { text := countText p.1 } = some p.1 :=
    natKey?_countText (stored.numbers p.1 (List.mem_map_of_mem member))
  exact map?_ofFields countText .string distinct keys fun _ _ => rfl

theorem mergeSort_unparsed : (a.unparsed.mergeSort fun p q => p.1 ≤ q.1) = a.unparsed := by
  refine List.mergeSort_of_pairwise ((List.pairwise_map.1 stored.lines).imp fun before => ?_)
  exact decide_eq_true (Nat.le_of_lt before)

theorem exists_ofJson?_toJson : ∃ b, ofJson? a.toJson = some b ∧ b.Equal a := by
  obtain ⟨v, readsPasted, equalPasted⟩ := Valuation.exists_ofJson?_toJson stored.pasted
  obtain ⟨w, readsBuyback, equalBuyback⟩ := Valuation.exists_ofJson?_toJson stored.buyback
  have owner : (a.ownerId.map Json.int).elim (some none) (nullable? int?) = some a.ownerId :=
    elim_optional (fun _ => nofun) fun id known => int?_of_inRange (stored.ownerId id known)
  have text (s : Option String) : (s.map Json.string).elim (some none) (nullable? string?) = some s :=
    elim_optional (fun _ => nofun) fun _ _ => rfl
  refine ⟨{ a with pasted := v, buyback := w }, ?_, equalPasted, equalBuyback, rfl⟩
  rw [toJson, ofJson?, record?_ofFields a.named_fields (by decide)]
  simp [-Option.bind_eq_bind, some_bind, fields, Table.get?_append, Table.get?_cons,
    int?_of_inRange stored.created, readsPasted, readsBuyback, map?_linesToJson stored,
    mergeSort_unparsed stored, owner, text]

end Appraisal

/-- Appraisals and settings read back from their documents as equal values. -/
theorem documents_read_back {a : Appraisal} {s : Settings} (stored : a.Storable) (usable : s.Storable) :
    (∃ b, Appraisal.ofJson? a.toJson = some b ∧ b.Equal a) ∧
    ∃ t, Settings.ofJson? s.toJson = some t ∧ t.Equal s :=
  ⟨Appraisal.exists_ofJson?_toJson stored, s, Settings.ofJson?_toJson usable, .refl usable⟩

namespace StoredReport

/-- A mineral that came out of an ore. -/
def mineral : AppraisedItem :=
  { name := "Tritanium", typeId := 34, quantity := 1700, qualifier := some .refine, efficiency := 85 }

/-- The ore, which counts for less than its price. -/
def ore : AppraisedItem :=
  { name := "Veldspar", typeId := 1230, quantity := 500, adjustment := 90
    buyback := some { items := [mineral] } }

def appraisal : Appraisal :=
  { kind := "listing", marketName := "jita", pasted := { items := [ore] }, buyback := { items := [mineral] }
    unparsed := [(2, "?")] }

theorem storable_prices : ({} : Prices).Storable := by
  have side : ({} : PriceStats).Storable := ⟨rfl, rfl, rfl, rfl, rfl, rfl, by decide, by decide⟩
  exact ⟨side, side, side, by decide, by decide⟩

theorem storable_details : ({} : ItemDetails).Storable :=
  ⟨rfl, by decide⟩

theorem storable_minerals : ({ items := [mineral] } : Valuation).Storable := by
  have item : mineral.Storable :=
    .intro (by decide) (by decide) rfl storable_prices rfl rfl nofun storable_details
  exact .intro ⟨rfl, rfl, rfl⟩ (List.forall_mem_singleton.2 item)

theorem storable_appraisal : appraisal.Storable where
  created := by decide
  pasted := by
    have item : ore.Storable := by
      refine .intro (by decide) (by decide) rfl storable_prices rfl rfl ?_ storable_details
      rintro v ⟨⟩
      exact storable_minerals
    exact .intro ⟨rfl, rfl, rfl⟩ (List.forall_mem_singleton.2 item)
  buyback := storable_minerals
  lines := by decide
  numbers := by decide
  ownerId := nofun

theorem storable_settings : ({ buyback := { adjustments := [(34, 95)] } } : Settings).Storable where
  pricing := ⟨rfl⟩
  buyback := ⟨rfl, rfl, rfl, by decide, by decide, List.forall_mem_singleton.2 rfl, by decide⟩

end StoredReport

theorem documents_read_back_of_report :
    let a := StoredReport.appraisal
    let s : Settings := { buyback := { adjustments := [(34, 95)] } }
    a.Storable ∧ s.Storable ∧ (∃ b, Appraisal.ofJson? a.toJson = some b ∧ b.Equal a) ∧
    ∃ t, Settings.ofJson? s.toJson = some t ∧ t.Equal s :=
  ⟨StoredReport.storable_appraisal, StoredReport.storable_settings,
    documents_read_back StoredReport.storable_appraisal StoredReport.storable_settings⟩

end ItemAppraisal
