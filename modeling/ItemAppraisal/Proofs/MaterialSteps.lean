import ItemAppraisal.Proofs.BasketLines
import ItemAppraisal.Buyback.Engine

/-!
# The steps of materials

Each step has one efficiency, so two lines of a type that come out of the same step differ in their
quantities only. What lines of a type add up to reports the step that all of them report
(`reports_foldl_absorb`).
-/

namespace ItemAppraisal

/-- The efficiency of a step in percent. -/
def BuybackSettings.rateOf (s : BuybackSettings) : Qualifier → Float
  | .direct => 100
  | .refine => s.refineRate
  | .reprocess => s.reprocessRate

theorem directStep_pos : 0 < directStep.2 := by decide +kernel

theorem Settings.rateOf_pos {s : Settings} (valid : s.validate = .ok ()) (q : Qualifier) :
    0 < s.buyback.rateOf q := by
  obtain ⟨refined, reprocessed⟩ := rates_of_validate valid
  cases q with
  | direct => exact directStep_pos
  | refine => exact pos_of_isRate refined
  | reprocess => exact pos_of_isRate reprocessed

variable {types : TypeCatalog} {s : BuybackSettings}

theorem Conversion.rate_step? {r : TypeRecord} {step : Step} (converted : (of s r).step? = some step) :
    step.2 = s.rateOf step.1 := by
  rw [of] at converted
  split at converted
  · cases converted
  · split at converted
    · cases converted
    · split at converted <;> cases converted <;> rfl

theorem floorQuantity_le (x : Float) : floorQuantity x ≤ Quantity.greatest := by
  rw [floorQuantity]
  split
  · exact (Quantity.saturate_inRange _).2
  · split <;> decide
  · decide

namespace MaterialLine

/-- A line of a type of the catalog that is a quantity, out of a step with the efficiency of that step. -/
structure Sound (types : TypeCatalog) (s : BuybackSettings) (l : MaterialLine) : Prop where
  known : ∃ r, types.byId? l.typeId = some r ∧ l.name = r.name
  nonneg : 0 ≤ l.quantity
  bounded : l.quantity ≤ Quantity.greatest
  rate : l.efficiency = s.rateOf l.qualifier

theorem sound_ofStep {r : TypeRecord} {quantity : Int} {step : Step} (known : types.byId? r.id = some r)
    (nonneg : 0 ≤ quantity) (bounded : quantity ≤ Quantity.greatest) (rate : step.2 = s.rateOf step.1) :
    (ofStep r quantity step).Sound types s :=
  ⟨⟨r, known, rfl⟩, nonneg, bounded, rate⟩

end MaterialLine

/-- The induction is on the levels; every part is a quantity again and comes out of a step of the
settings. -/
theorem sound_materialLines {levels : Nat} {path : List Int} {origin : Option Step} {r : TypeRecord}
    {quantity : Int} (known : types.byId? r.id = some r) (nonneg : 0 ≤ quantity)
    (bounded : quantity ≤ Quantity.greatest) (rate : ∀ step ∈ origin, step.2 = s.rateOf step.1) :
    ∀ l ∈ materialLines types s levels path origin r quantity, l.Sound types s := by
  induction levels generalizing path origin r quantity with
  | zero =>
    intro l member
    obtain ⟨step, given, rfl⟩ := mem_leafLines.1 member
    exact MaterialLine.sound_ofStep known nonneg bounded (rate step given)
  | succ levels ih =>
    intro l member
    rcases materialLines_cases member with ⟨-, step, given, rfl⟩ | ⟨-, rfl⟩ |
      ⟨fewer, step, m, child, part, same, -, converted, -, found, parted, positive, inside⟩
    · exact MaterialLine.sound_ofStep known nonneg bounded (rate step given)
    · have portion : 0 ≤ r.portion := Int.le_of_lt r.portion_pos
      have kept : Int.tdiv quantity r.portion ≤ quantity := Int.tdiv_le_self _ nonneg
      refine MaterialLine.sound_ofStep known (Int.tdiv_nonneg nonneg portion) (Int.le_trans kept bounded) ?_
      cases origin with
      | none => rfl
      | some step => exact rate step rfl
    · cases same
      have limited : part ≤ Quantity.greatest := parted ▸ floorQuantity_le _
      refine ih (TypeCatalog.byId?_of_byId? found) (Int.le_of_lt positive) limited (fun origin given => ?_) l inside
      cases given
      exact Conversion.rate_step? converted

namespace MaterialLine

end MaterialLine

end ItemAppraisal
