import ItemAppraisal.Proofs.JsonRecords
import ItemAppraisal.Proofs.TimestampText
import ItemAppraisal.Settings

/-!
# Records in documents

Prices, details, sums and settings read back from their documents. What a document can hold is `Storable`:
integers of 64 bits, finite doubles, points in time within the calendar and tables with distinct keys. A
negative zero that is left out comes back as zero, so what is read is `Equal` to what was written, with
doubles compared as numbers.
-/

namespace ItemAppraisal

open Json

/-! ## Prices -/

theorem Timestamp.ofJson?_toJson {t : Timestamp} (valid : t.IsValid) : ofJson? t.toJson = some t := by
  rw [toJson, ofJson?, string?, Option.bind_some, read?_documentText valid]

namespace PriceStats

structure Storable (s : PriceStats) : Prop where
  average : s.average.isFinite = true
  max : s.max.isFinite = true
  median : s.median.isFinite = true
  min : s.min.isFinite = true
  percentile : s.percentile.isFinite = true
  stddev : s.stddev.isFinite = true
  volume : Quantity.InRange s.volume
  orderCount : Quantity.InRange s.orderCount

structure Equal (s t : PriceStats) : Prop where
  average : (s.average == t.average) = true
  max : (s.max == t.max) = true
  median : (s.median == t.median) = true
  min : (s.min == t.min) = true
  percentile : (s.percentile == t.percentile) = true
  stddev : (s.stddev == t.stddev) = true
  volume : s.volume = t.volume
  orderCount : s.orderCount = t.orderCount

variable {s : PriceStats} (stored : s.Storable)
include stored

theorem ofJson?_toJson : ofJson? s.toJson = some s := by
  have record : s.toJson.record? fieldNames = some _ := record?_ofFields (named_self _) (by decide)
  rw [ofJson?, record]
  simp [-Option.bind_eq_bind, some_bind, Table.get?_cons, int?_of_inRange stored.volume,
    int?_of_inRange stored.orderCount]

theorem Equal.refl : s.Equal s where
  average := Decimal.beq_self_of_isFinite stored.average
  max := Decimal.beq_self_of_isFinite stored.max
  median := Decimal.beq_self_of_isFinite stored.median
  min := Decimal.beq_self_of_isFinite stored.min
  percentile := Decimal.beq_self_of_isFinite stored.percentile
  stddev := Decimal.beq_self_of_isFinite stored.stddev
  volume := rfl
  orderCount := rfl

end PriceStats

namespace Prices

structure Storable (p : Prices) : Prop where
  all : p.all.Storable
  buy : p.buy.Storable
  sell : p.sell.Storable
  updated : p.updated.IsValid

structure Equal (p q : Prices) : Prop where
  all : p.all.Equal q.all
  buy : p.buy.Equal q.buy
  sell : p.sell.Equal q.sell
  updated : p.updated = q.updated
  strategy : p.strategy = q.strategy
  basis : p.basis = q.basis

variable {p : Prices} (stored : p.Storable)
include stored

theorem ofJson?_toJson : ofJson? p.toJson = some p := by
  have named : Named p.fields fieldNames := (Named.append (named_self _) (named_textField _ _) :)
  rw [toJson, ofJson?, record?_ofFields named (by decide)]
  simp [-Option.bind_eq_bind, some_bind, fields, Table.get?_cons, PriceStats.ofJson?_toJson stored.all,
    PriceStats.ofJson?_toJson stored.buy, PriceStats.ofJson?_toJson stored.sell,
    Timestamp.ofJson?_toJson stored.updated]

theorem Equal.refl : p.Equal p where
  all := .refl stored.all
  buy := .refl stored.buy
  sell := .refl stored.sell
  updated := rfl
  strategy := rfl
  basis := rfl

end Prices

/-! ## Details and sums -/

namespace ItemDetails

structure Storable (d : ItemDetails) : Prop where
  volume : d.volume.isFinite = true
  copyRuns : Quantity.InRange d.copyRuns

structure Equal (d e : ItemDetails) : Prop where
  volume : (d.volume == e.volume) = true
  others : { d with volume := e.volume } = e

/-- Every field but the mark of a blueprint copy may be left out. -/
theorem named_fields (d : ItemDetails) : Named d.fields fieldNames := by
  have flags := ((named_flagField "fitted" d.fitted).append (named_flagField "dropped" d.dropped)).append
    (named_flagField "destroyed" d.destroyed)
  have texts := ((flags.append (named_textField "location" d.location)).append
    (named_textField "player_name" d.playerName)).append (named_flagField "routed" d.routed)
  have measures := (texts.append (named_floatField "volume" d.volume)).append
    (named_textField "distance" d.distance)
  exact (measures.append (named_self [("bpc", .bool d.blueprintCopy)])).append
    (named_intField "bpcRuns" d.copyRuns)

variable {d : ItemDetails} (stored : d.Storable)
include stored

theorem exists_ofJson?_toJson : ∃ e, ofJson? d.toJson = some e ∧ e.Equal d := by
  refine ⟨{ d with volume := plainZero d.volume }, ?_, plainZero_beq stored.volume, rfl⟩
  rw [toJson, ofJson?, record?_ofFields d.named_fields (by decide)]
  simp [-Option.bind_eq_bind, some_bind, fields, Table.get?_append, Table.get?_cons, elim_int stored.copyRuns]

end ItemDetails

namespace Totals

structure Storable (t : Totals) : Prop where
  buy : t.buy.isFinite = true
  sell : t.sell.isFinite = true
  volume : t.volume.isFinite = true

structure Equal (t u : Totals) : Prop where
  buy : (t.buy == u.buy) = true
  sell : (t.sell == u.sell) = true
  volume : (t.volume == u.volume) = true

theorem ofJson?_toJson (t : Totals) : ofJson? t.toJson = some t := by
  have record : t.toJson.record? ["buy", "sell", "volume"] = some _ :=
    record?_ofFields (named_self _) (by decide)
  rw [ofJson?, record]
  simp [-Option.bind_eq_bind, some_bind, Table.get?_cons]

theorem Equal.refl {t : Totals} (stored : t.Storable) : t.Equal t where
  buy := Decimal.beq_self_of_isFinite stored.buy
  sell := Decimal.beq_self_of_isFinite stored.sell
  volume := Decimal.beq_self_of_isFinite stored.volume

end Totals

/-! ## Settings -/

namespace PricingSettings

structure Storable (s : PricingSettings) : Prop where
  productionEfficiency : s.productionEfficiency.isFinite = true

structure Equal (s t : PricingSettings) : Prop where
  productionEfficiency : (s.productionEfficiency == t.productionEfficiency) = true
  others : { s with productionEfficiency := t.productionEfficiency } = t

theorem ofJson?_toJson (s : PricingSettings) : ofJson? s.toJson = some s := by
  have record : s.toJson.record? fieldNames = some _ := record?_ofFields (named_self _) (by decide)
  rw [ofJson?, record]
  simp [-Option.bind_eq_bind, some_bind, Table.get?_cons]

end PricingSettings

namespace BuybackSettings

structure Storable (s : BuybackSettings) : Prop where
  refineRate : s.refineRate.isFinite = true
  reprocessRate : s.reprocessRate.isFinite = true
  baseAdjustment : s.baseAdjustment.isFinite = true
  distinct : s.adjustments.keys.Nodup
  keys : ∀ p ∈ s.adjustments, Quantity.InRange p.1
  adjustments : ∀ p ∈ s.adjustments, p.2.isFinite = true
  groups : ∀ id ∈ s.directGroups ++ s.refineGroups ++ s.refineCategories, Quantity.InRange id

/-- Equal tables of percentages hold equal doubles under the same types, in any order. -/
structure Equal (s t : BuybackSettings) : Prop where
  refineRate : (s.refineRate == t.refineRate) = true
  reprocessRate : (s.reprocessRate == t.reprocessRate) = true
  baseAdjustment : (s.baseAdjustment == t.baseAdjustment) = true
  adjustments : ∀ id,
    Option.Rel (fun x y => (x == y) = true) (s.adjustments.get? id) (t.adjustments.get? id)
  others : { s with
    refineRate := t.refineRate
    reprocessRate := t.reprocessRate
    baseAdjustment := t.baseAdjustment
    adjustments := t.adjustments } = t

theorem list?_idsToJson {ids : List Int} (inRange : ∀ id ∈ ids, Quantity.InRange id) :
    list? int? (idsToJson ids) = some ids :=
  list?_array fun id member => int?_of_inRange (inRange id member)

variable {s : BuybackSettings} (stored : s.Storable)
include stored

theorem map?_adjustmentsToJson :
    map? intKey? float? (adjustmentsToJson s.adjustments) = some s.adjustments := by
  have keys (p) (member : p ∈ s.adjustments) : intKey? { text := integerText p.1 } = some p.1 :=
    intKey?_integerText (stored.keys p member)
  exact map?_ofFields integerText .float stored.distinct keys fun _ _ => rfl

theorem ofJson?_toJson : ofJson? s.toJson = some s := by
  have record : s.toJson.record? fieldNames = some _ := record?_ofFields (named_self _) (by decide)
  have groups := stored.groups
  simp only [List.forall_mem_append] at groups
  rw [ofJson?, record]
  simp [-Option.bind_eq_bind, some_bind, Table.get?_cons, map?_adjustmentsToJson stored,
    list?_idsToJson groups.1.1, list?_idsToJson groups.1.2, list?_idsToJson groups.2]

theorem Equal.refl : s.Equal s where
  refineRate := Decimal.beq_self_of_isFinite stored.refineRate
  reprocessRate := Decimal.beq_self_of_isFinite stored.reprocessRate
  baseAdjustment := Decimal.beq_self_of_isFinite stored.baseAdjustment
  adjustments id := by
    cases found : s.adjustments.get? id with
    | none => exact .none
    | some x =>
      exact .some (Decimal.beq_self_of_isFinite (stored.adjustments (id, x) (Table.mem_of_get? found)))
  others := rfl

end BuybackSettings

namespace Settings

structure Storable (s : Settings) : Prop where
  pricing : s.pricing.Storable
  buyback : s.buyback.Storable

structure Equal (s t : Settings) : Prop where
  pricing : s.pricing.Equal t.pricing
  buyback : s.buyback.Equal t.buyback
  maxInputBytes : s.maxInputBytes = t.maxInputBytes

variable {s : Settings} (stored : s.Storable)
include stored

theorem ofJson?_toJson : ofJson? s.toJson = some s := by
  have record : s.toJson.record? ["pricing", "buyback", "max_input_bytes"] = some _ :=
    record?_ofFields (named_self _) (by decide)
  rw [ofJson?, record]
  simp [-Option.bind_eq_bind, some_bind, Table.get?_cons, PricingSettings.ofJson?_toJson,
    BuybackSettings.ofJson?_toJson stored.buyback]

theorem Equal.refl : s.Equal s where
  pricing := ⟨Decimal.beq_self_of_isFinite stored.pricing.productionEfficiency, rfl⟩
  buyback := .refl stored.buyback
  maxInputBytes := rfl

end Settings

end ItemAppraisal
