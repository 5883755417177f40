import ItemAppraisal.Proofs.BasketAssembly
import ItemAppraisal.Proofs.Descent

/-!
# Ways to materials

A material is found by steps: a type is broken down, one of its materials is followed, and so on down to
something that is not broken down. All ways of that kind are found, each of them once (`mem_ends`,
`nodup_ends`), so what a basket holds of a material can be told from the ways to it. The efficiency of each step
on a way applies to what the steps before it have left (`quantity_of_leads`), while the last step alone is
reported (`origin_of_leads`). Main statement: `accountedBy_ends`.
-/

namespace ItemAppraisal

/-! ## Ways -/

/-- A step that is taken on the way to a material: a type is broken down, and of what that gives one material,
which stands at some place among the materials of the type, is followed. -/
structure Leg where
  record : TypeRecord
  step : Step
  place : Nat
  material : Component

/-- The steps on the way to a material in their order. -/
abbrev Way := List Leg

/-- What is left of a quantity at the end of a way. The efficiency of each step applies to what the steps
before it have left. -/
def Way.left (way : Way) (quantity : Int) : Int :=
  way.foldl (fun quantity leg =>
    materialQuantity quantity leg.record.portion leg.material.quantity leg.step.2) quantity

namespace Part

section

variable (types : TypeCatalog) (s : BuybackSettings)

/-- A quantity of a type leads to another one by the steps of a way. -/
inductive Leads : Part → Way → Part → Prop
  | refl (p : Part) : Leads p [] p
  | step {p q : Part} {step : Step} {place : Nat} {m : Component} {child : TypeRecord} {way : Way}
      (broken : p.step? s = some step) (listed : p.record.materials[place]? = some m)
      (known : types.byId? m.typeId = some child) (positive : 0 < p.share step m)
      (rest : Leads (p.part step m child) way q) : Leads p (⟨p.record, step, place, m⟩ :: way) q

/-- A step from a quantity of a type to one of its materials, if that is known and it gives any of it. -/
def leg? (p : Part) (step : Step) (m : Component) (place : Nat) : Option (Leg × Part) :=
  match types.byId? m.typeId with
  | none => none
  | some child =>
    if p.share step m ≤ 0 then none else some (⟨p.record, step, place, m⟩, p.part step m child)

/-- The steps from a quantity of a type, with what they lead to. -/
def legs (p : Part) : List (Leg × Part) :=
  match p.step? s with
  | none => []
  | some step => p.record.materials.zipIdx.filterMap fun m => p.leg? types step m.1 m.2

/-- The ways of so many steps at most from a quantity of a type down to what is not broken down. -/
def endsWithin : Nat → Part → List (Way × Part)
  | 0, p => [([], p)]
  | levels + 1, p =>
    match p.step? s with
    | none => [([], p)]
    | some _ => (p.legs types s).flatMap fun l => (endsWithin levels l.2).map (Prod.map (l.1 :: ·) id)

/-- The ways from a quantity of a type down to what is not broken down, with what they lead to. -/
def ends (p : Part) : List (Way × Part) :=
  p.endsWithin types s p.levels

end

variable {types : TypeCatalog} {s : BuybackSettings} {p q : Part} {step : Step} {way : Way}

/-! ## Single steps -/

theorem leg?_eq_some_iff {m : Component} {place : Nat} {l : Leg × Part} :
    p.leg? types step m place = some l ↔ ∃ child, types.byId? m.typeId = some child ∧
      0 < p.share step m ∧ l = (⟨p.record, step, place, m⟩, p.part step m child) := by
  rw [leg?]
  cases types.byId? m.typeId with
  | none => simp
  | some child =>
    by_cases positive : 0 < p.share step m
    · simp [positive, eq_comm]
    · simp [positive, Int.not_lt.1 positive]

theorem mem_legs {l : Leg × Part} : l ∈ p.legs types s ↔
    ∃ step place m child, p.step? s = some step ∧ p.record.materials[place]? = some m ∧
      types.byId? m.typeId = some child ∧ 0 < p.share step m ∧
      l = (⟨p.record, step, place, m⟩, p.part step m child) := by
  rw [legs]
  cases broken : p.step? s with
  | none => simp
  | some step =>
    simp only [List.mem_filterMap, leg?_eq_some_iff]
    constructor
    · rintro ⟨⟨m, place⟩, listed, child, found⟩
      exact ⟨step, place, m, child, rfl, List.mem_zipIdx_iff_getElem?.1 listed, found⟩
    · rintro ⟨_, place, m, child, same, listed, found⟩
      cases same
      exact ⟨(m, place), List.mem_zipIdx_iff_getElem?.2 listed, child, found⟩

theorem step_of_mem_legs {l : Leg × Part} (broken : p.step? s = some step) (member : l ∈ p.legs types s) :
    l.1.step = step := by
  obtain ⟨step', place, m, child, broken', -, -, -, rfl⟩ := mem_legs.1 member
  exact (Option.some.inj (broken.symm.trans broken')).symm

/-- The steps lead to all that is met right below. -/
theorem map_snd_legs (p : Part) : (p.legs types s).map (·.2) = p.parts types s := by
  rw [legs, parts]
  cases p.step? s with
  | none => rfl
  | some step =>
    simp only
    conv_rhs => rw [← List.zipIdx_map_fst 0 p.record.materials, List.flatMap_map]
    rw [List.map_filterMap, List.filterMap_eq_flatMap_toList]
    refine List.flatMap_congr fun m _ => ?_
    rw [leg?]
    cases types.byId? m.1.typeId with
    | none => rfl
    | some child =>
      simp only [Option.toList_some, List.flatMap_singleton]
      split <;> rfl

/-- No two steps follow the same material. -/
theorem pairwise_legs (p : Part) : (p.legs types s).Pairwise fun a b => a.1 ≠ b.1 := by
  rw [legs]
  cases p.step? s with
  | none => exact .nil
  | some step =>
    have places : p.record.materials.zipIdx.Pairwise fun m n => m.2 ≠ n.2 := by
      refine List.pairwise_map.1 (?_ : (p.record.materials.zipIdx.map (·.2)).Nodup)
      rw [List.zipIdx_map_snd]
      exact List.nodup_range'
    refine places.filterMap _ fun m n apart a found b found' same => apart ?_
    obtain ⟨child, -, -, rfl⟩ := leg?_eq_some_iff.1 found
    obtain ⟨child', -, -, rfl⟩ := leg?_eq_some_iff.1 found'
    exact congrArg Leg.place same

theorem levels_of_mem_legs {l : Leg × Part} (member : l ∈ p.legs types s) : p.levels = l.2.levels + 1 := by
  obtain ⟨step, place, m, child, broken, -, -, -, rfl⟩ := mem_legs.1 member
  have some := (Node.step?_eq_some_iff.1 broken).1
  simp only [part, Node.below]
  omega

/-- Induction over the way down: what holds where nothing is broken down, and of a quantity of a type that is
broken down whenever it holds of all that it leads to, holds of every quantity of a type. -/
theorem descend {motive : Part → Prop} (unbroken : ∀ p, p.step? s = none → motive p)
    (broken : ∀ p step, p.step? s = some step → (∀ l ∈ p.legs types s, motive l.2) → motive p) (p : Part) :
    motive p := by
  induction levels : p.levels generalizing p with
  | zero => exact unbroken p (Node.step?_eq_none_iff.2 (.inl levels))
  | succ fewer ih =>
    cases found : p.step? s with
    | none => exact unbroken p found
    | some step =>
      refine broken p step found fun l member => ih l.2 ?_
      have next := levels_of_mem_legs member
      omega

/-! ## Ways down -/

theorem ends_of_unbroken (unbroken : p.step? s = none) : p.ends types s = [([], p)] := by
  rw [ends]
  cases p.levels with
  | zero => rfl
  | succ levels => rw [endsWithin, unbroken]

theorem ends_of_broken (broken : p.step? s = some step) : p.ends types s =
    (p.legs types s).flatMap fun l => (l.2.ends types s).map (Prod.map (l.1 :: ·) id) := by
  obtain ⟨fewer, levels⟩ := Nat.exists_eq_succ_of_ne_zero (Node.step?_eq_some_iff.1 broken).1
  rw [ends, levels, endsWithin, broken]
  refine List.flatMap_congr fun l member => ?_
  have next : l.2.levels = fewer := by
    have one := levels_of_mem_legs member
    omega
  rw [ends, next]

theorem ends_of_one {m : Component} {child : TypeRecord} {q : Part} (broken : p.step? s = some step)
    (one : p.record.materials = [m]) (known : types.byId? m.typeId = some child)
    (given : p.part step m child = q) (positive : 0 < q.quantity) :
    p.ends types s = (q.ends types s).map (Prod.map (⟨p.record, step, 0, m⟩ :: ·) id) := by
  subst given
  have taken : p.leg? types step m 0 = some (⟨p.record, step, 0, m⟩, p.part step m child) :=
    leg?_eq_some_iff.2 ⟨child, known, positive, rfl⟩
  rw [ends_of_broken broken, legs, broken, one]
  simp [taken]

/-- A quantity of a type gives what is found at the ends of the ways down from it. -/
theorem lines_eq_flatMap_ends (p : Part) :
    p.lines types s = (p.ends types s).flatMap (·.2.ownLines s) := by
  induction p using @descend types s with
  | unbroken p unbroken => rw [lines_of_unbroken unbroken, ends_of_unbroken unbroken, List.flatMap_singleton]
  | broken p step broken ih =>
    rw [lines_of_broken broken, ends_of_broken broken, ← map_snd_legs, List.flatMap_map, List.flatMap_assoc]
    refine List.flatMap_congr fun l member => ?_
    rw [ih l member, List.flatMap_map]
    rfl

/-- A way from a quantity of a type that is broken down begins with one of its steps. -/
theorem leads_iff_of_broken (broken : p.step? s = some step) (unbroken : q.step? s = none) :
    p.Leads types s way q ↔
      ∃ l ∈ p.legs types s, ∃ rest, l.2.Leads types s rest q ∧ way = l.1 :: rest := by
  constructor
  · intro leads
    cases leads with
    | refl => rw [broken] at unbroken; cases unbroken
    | step broken' listed known positive rest =>
      exact ⟨_, mem_legs.2 ⟨_, _, _, _, broken', listed, known, positive, rfl⟩, _, rest, rfl⟩
  · rintro ⟨l, member, rest, leads, rfl⟩
    obtain ⟨step, place, m, child, broken', listed, known, positive, rfl⟩ := mem_legs.1 member
    exact .step broken' listed known positive leads

/-- All ways down are found, with what they lead to, and no others. -/
theorem mem_ends {e : Way × Part} :
    e ∈ p.ends types s ↔ p.Leads types s e.1 e.2 ∧ e.2.step? s = none := by
  obtain ⟨way, q⟩ := e
  induction p using @descend types s generalizing way with
  | unbroken p unbroken =>
    rw [ends_of_unbroken unbroken, List.mem_singleton, Prod.mk.injEq]
    constructor
    · rintro ⟨rfl, rfl⟩
      exact ⟨.refl q, unbroken⟩
    · rintro ⟨leads, -⟩
      cases leads with
      | refl => exact ⟨rfl, rfl⟩
      | step broken => rw [unbroken] at broken; cases broken
  | broken p step broken ih =>
    simp only [ends_of_broken broken, List.mem_flatMap, List.mem_map]
    constructor
    · rintro ⟨l, member, ⟨rest, q'⟩, found, same⟩
      cases same
      obtain ⟨leads, unbroken⟩ := (ih l member rest).1 found
      exact ⟨(leads_iff_of_broken broken unbroken).2 ⟨l, member, rest, leads, rfl⟩, unbroken⟩
    · rintro ⟨leads, unbroken⟩
      obtain ⟨l, member, rest, further, rfl⟩ := (leads_iff_of_broken broken unbroken).1 leads
      exact ⟨l, member, (rest, q), (ih l member rest).2 ⟨further, unbroken⟩, rfl⟩

/-- No way down is found twice. -/
theorem nodup_ends (p : Part) : (p.ends types s).Nodup := by
  induction p using @descend types s with
  | unbroken p unbroken => rw [ends_of_unbroken unbroken]; exact List.nodup_singleton _
  | broken p step broken ih =>
    rw [ends_of_broken broken, List.nodup_flatMap]
    constructor
    · intro l member
      refine (ih l member).map fun e e' same => ?_
      simpa [Prod.ext_iff] using same
    · refine (pairwise_legs p).imp fun {a b} apart e found found' => apart ?_
      obtain ⟨_, -, rfl⟩ := List.mem_map.1 found
      obtain ⟨_, -, same⟩ := List.mem_map.1 found'
      simp only [Prod.map, Prod.mk.injEq, List.cons.injEq] at same
      exact same.1.1.symm

theorem quantity_of_leads (leads : p.Leads types s way q) : q.quantity = way.left p.quantity := by
  induction leads with
  | refl => rfl
  | step _ _ _ _ _ ih => exact ih

/-- Only the last step of a way is known at its end. -/
theorem origin_of_leads (leads : p.Leads types s way q) :
    q.origin = (way.getLast?.map (·.step)).or p.origin := by
  induction leads with
  | refl => rfl
  | @step p q step place m child way broken listed known positive rest ih =>
    rw [ih, List.getLast?_cons]
    cases way.getLast? <;> rfl

/-- Every step of a way is how its type is broken down. -/
theorem converted_of_leads (leads : p.Leads types s way q) :
    ∀ leg ∈ way, (Conversion.of s leg.record).step? = some leg.step := by
  induction leads with
  | refl => exact fun _ member => nomatch member
  | step broken _ _ _ _ ih =>
    exact List.forall_mem_cons.2 ⟨(Node.step?_eq_some_iff.1 broken).2.2, ih⟩

/-- What is left of any quantity after a step is a quantity again, so a type that is broken down gives gainful
lines only. -/
theorem gainful_lines_of_broken {s : Settings} (valid : s.validate = .ok ())
    (broken : p.step? s.buyback = some step) : ∀ l ∈ p.lines types s.buyback, l.Gainful := by
  intro l member
  rw [lines_of_broken broken] at member
  obtain ⟨q, met, inside⟩ := List.mem_flatMap.1 member
  obtain ⟨step, m, child, broken', -, known, positive, rfl⟩ := mem_parts.1 met
  have rate : ∀ origin ∈ (p.part step m child).origin, origin.2 = s.buyback.rateOf origin.1 := by
    intro origin given
    obtain rfl := Option.mem_some_iff.1 given
    exact Conversion.rate_step? (Node.step?_eq_some_iff.1 broken').2.2
  have sound := sound_materialLines (TypeCatalog.byId?_of_byId? known) (Int.le_of_lt positive)
    (floorQuantity_le _) rate l inside
  exact sound.gainful valid

end Part

variable {types : TypeCatalog} {s : BuybackSettings}

/-! ## Lines -/

theorem decompose_eq_addAll_ends (types : TypeCatalog) (s : BuybackSettings) (r : TypeRecord) (quantity : Int) :
    decompose types s r quantity = Basket.empty.addAll (((Part.start s r quantity).ends types s).flatMap
      (·.2.ownLines s)) := by
  rw [decompose, decomposeInto_eq_addAll, ← Part.lines_eq_flatMap_ends]
  rfl

namespace Part

variable {p : Part} {id : Int}

theorem of_mem_ownLines {l : MaterialLine} (member : l ∈ p.ownLines s) :
    l.typeId = p.record.id ∧ l.qualifier = (p.origin.getD directStep).1 := by
  rw [ownLines] at member
  split at member
  · rw [List.mem_singleton.1 member]
    exact ⟨rfl, rfl⟩
  · obtain ⟨step, given, rfl⟩ := mem_leafLines.1 member
    rw [Option.mem_def.1 given]
    exact ⟨rfl, rfl⟩

theorem ownLines_ne_nil {step : Step} (origin : p.origin = some step) : p.ownLines s ≠ [] := by
  rw [ownLines, origin]
  split <;> exact List.cons_ne_nil _ _

theorem filter_ownLines : (p.ownLines s).filter (·.typeId == id) =
    if p.record.id = id then p.ownLines s else [] := by
  split
  · rename_i own
    exact List.filter_eq_self.2 fun l member => beq_iff_eq.2 ((of_mem_ownLines member).1.trans own)
  · rename_i foreign
    refine List.filter_eq_nil_iff.2 fun l member typed => foreign ?_
    exact (of_mem_ownLines member).1.symm.trans (beq_iff_eq.1 typed)

theorem filter_flatMap_ownLines (ends : List (Way × Part)) :
    (ends.flatMap (·.2.ownLines s)).filter (·.typeId == id) =
      (ends.filter (·.2.record.id == id)).flatMap (·.2.ownLines s) := by
  induction ends with
  | nil => rfl
  | cons e ends ih =>
    rw [List.flatMap_cons, List.filter_append, ih, filter_ownLines, List.filter_cons]
    by_cases own : e.2.record.id = id <;> simp [own]

end Part

theorem line?_decompose (types : TypeCatalog) (s : BuybackSettings) (r : TypeRecord) (quantity id : Int) :
    (decompose types s r quantity).line? id =
      MaterialLine.addUp none ((((Part.start s r quantity).ends types s).filter (·.2.record.id == id)).flatMap
        (·.2.ownLines s)) := by
  rw [decompose_eq_addAll_ends, Basket.line?_addAll, Part.filter_flatMap_ownLines]
  rfl

/-- What a basket holds of each type is what the ways down to it leave. The ways are those that lead to
something that is not broken down, each of them once. -/
structure AccountedBy (types : TypeCatalog) (s : BuybackSettings) (r : TypeRecord) (quantity : Int)
    (ends : List (Way × Part)) : Prop where
  distinct : ends.Nodup
  found : ∀ e, e ∈ ends ↔ (Part.start s r quantity).Leads types s e.1 e.2 ∧ e.2.step? s = none
  /-- Each step is the one that its type is broken down by, with the efficiency of that step. -/
  converted : ∀ e ∈ ends, ∀ leg ∈ e.1, (Conversion.of s leg.record).step? = some leg.step
  /-- Losses compound. -/
  left : ∀ e ∈ ends, e.2.quantity = e.1.left quantity
  /-- Only the last step is reported. -/
  origin : ∀ e ∈ ends, e.2.origin = e.1.getLast?.map (·.step)
  typeIds : ∀ id, id ∈ (decompose types s r quantity).typeIds ↔
    ∃ l ∈ ends.flatMap (·.2.ownLines s), l.typeId = id
  sums : ∀ l ∈ (decompose types s r quantity).lines,
    l.Sums ((ends.flatMap (·.2.ownLines s)).filter (·.typeId == l.typeId))

/-- A type that is not broken down is one line at most, which may be of any quantity. -/
theorem sums_of_unbroken {r : TypeRecord} {quantity : Int} (inRange : Quantity.InRange quantity)
    (unbroken : (Part.start s r quantity).step? s = none) :
    ∀ l ∈ (decompose types s r quantity).lines,
      l.Sums (((Part.start s r quantity).ownLines s).filter (·.typeId == l.typeId)) := by
  rw [decompose_eq_addAll_ends, Part.ends_of_unbroken unbroken, List.flatMap_singleton, Part.ownLines]
  split
  · intro l member
    obtain rfl := List.mem_singleton.1 member
    have portions := Quantity.tdiv_between (by decide) inRange r.portion_pos
    rw [List.filter_singleton, beq_self_eq_true]
    exact MaterialLine.sums_singleton rfl portions.2 directStep_pos
  · intro l member
    cases member

theorem accountedBy_ends {s : Settings} (valid : s.validate = .ok ()) {r : TypeRecord} {quantity : Int}
    (inRange : Quantity.InRange quantity) : AccountedBy types s.buyback r quantity
      ((Part.start s.buyback r quantity).ends types s.buyback) where
  distinct := Part.nodup_ends _
  found _ := Part.mem_ends
  converted e member := Part.converted_of_leads (Part.mem_ends.1 member).1
  left e member := Part.quantity_of_leads (Part.mem_ends.1 member).1
  origin e member := by
    rw [Part.origin_of_leads (Part.mem_ends.1 member).1]
    exact Option.or_none
  typeIds id := by rw [decompose_eq_addAll_ends, Basket.mem_typeIds_addAll]
  sums := by
    cases found : (Part.start s.buyback r quantity).step? s.buyback with
    | none =>
      rw [Part.ends_of_unbroken found, List.flatMap_singleton]
      exact sums_of_unbroken inRange found
    | some step =>
      intro l member
      have gainful : ∀ l ∈ (Part.start s.buyback r quantity).lines types s.buyback, l.Gainful :=
        Part.gainful_lines_of_broken valid found
      rw [Part.lines_eq_flatMap_ends] at gainful
      rw [decompose_eq_addAll_ends] at member
      exact Basket.sums_line?_addAll gainful (Basket.line?_eq_some_iff.2 ⟨member, rfl⟩)

end ItemAppraisal
