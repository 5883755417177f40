import ItemAppraisal.Proofs.MaterialWays

/-!
# Losses over several steps

A part goes into the next step with what the steps before have left of it, so losses compound. The rate of a
kind of step counts for every material with such a step anywhere on a way to it, whatever step the material
itself came out of (`losses_compound`), and for no others (`line?_withRate`). Main statement:
`quantities_by_ways`.
-/

namespace ItemAppraisal

variable {types : TypeCatalog} {s : BuybackSettings}

/-! ## Another rate -/

/-- The settings with another efficiency of one kind of step. What is taken as it is has no other. -/
def BuybackSettings.withRate (s : BuybackSettings) : Qualifier → Float → BuybackSettings
  | .refine, rate => { s with refineRate := rate }
  | .reprocess, rate => { s with reprocessRate := rate }
  | .direct, _ => s

/-- All settings with that. -/
def Settings.withRate (s : Settings) (q : Qualifier) (rate : Float) : Settings :=
  { s with buyback := s.buyback.withRate q rate }

/-- A conversion with another efficiency, if it is of that kind. -/
def Conversion.withRate (q : Qualifier) (rate : Float) : Conversion → Conversion
  | .refine old => .refine (if q = .refine then rate else old)
  | .reprocess old => .reprocess (if q = .reprocess then rate else old)
  | c => c

namespace Way

/-- Whether no step of a way is of some kind. -/
def avoids (q : Qualifier) (way : Way) : Bool :=
  way.all (·.step.1 != q)

theorem avoids_cons_of_other {q : Qualifier} {leg : Leg} (other : leg.step.1 ≠ q) (way : Way) :
    avoids q (leg :: way) = way.avoids q := by
  rw [avoids, List.all_cons, bne_iff_ne.2 other, Bool.true_and, avoids]

theorem avoids_of_last {q : Qualifier} {way : Way} (before : ∀ leg ∈ way.dropLast, leg.step.1 ≠ q)
    (last : ∀ leg ∈ way.getLast?, leg.step.1 ≠ q) : way.avoids q = true := by
  refine List.all_eq_true.2 fun leg member => bne_iff_ne.2 ?_
  rcases way.eq_nil_or_concat' with rfl | ⟨legs, final, rfl⟩
  · cases member
  · rw [List.dropLast_concat] at before
    rcases List.mem_append.1 member with inside | own
    · exact before leg inside
    · rw [List.mem_singleton.1 own]
      exact last final List.getLast?_concat

end Way

section

variable (q : Qualifier) (rate : Float)

theorem Conversion.of_withRate (r : TypeRecord) :
    Conversion.of (s.withRate q rate) r = (Conversion.of s r).withRate q rate := by
  have groups : (s.withRate q rate).directGroups = s.directGroups := by cases q <;> rfl
  have categories : (s.withRate q rate).refineCategories = s.refineCategories := by cases q <;> rfl
  have ores : (s.withRate q rate).refineGroups = s.refineGroups := by cases q <;> rfl
  rw [Conversion.of, Conversion.of, groups, categories, ores]
  split
  · rfl
  · split
    · rfl
    · split <;> cases q <;> rfl

theorem Conversion.step?_withRate (c : Conversion) :
    (c.withRate q rate).step? = c.step?.map fun step => if step.1 = q then (q, rate) else step := by
  cases c <;> cases q <;> rfl

theorem Node.step?_withRate (n : Node) :
    n.step? (s.withRate q rate) = (n.step? s).map fun step => if step.1 = q then (q, rate) else step := by
  rw [step?, step?, stepBelow?, stepBelow?, Conversion.of_withRate, Conversion.step?_withRate]
  split
  · rfl
  · split <;> rfl

theorem Part.start_withRate (r : TypeRecord) (quantity : Int) :
    Part.start (s.withRate q rate) r quantity = Part.start s r quantity := by
  cases q <;> rfl

theorem Part.ownLines_withRate (p : Part) : p.ownLines (s.withRate q rate) = p.ownLines s := by
  cases q <;> rfl

namespace Part

variable {q} {p : Part} {step : Step}

theorem legs_withRate_of_other (broken : p.step? s = some step) (other : step.1 ≠ q) :
    p.legs types (s.withRate q rate) = p.legs types s := by
  rw [legs, legs, Node.step?_withRate, broken, Option.map_some, if_neg other]

/-- All ways from a step go through that step. -/
theorem avoiding_eq_nil (broken : p.step? s = some step) (own : step.1 = q) :
    (p.ends types s).filter (·.1.avoids q) = [] := by
  refine List.filter_eq_nil_iff.2 fun e member avoids => ?_
  obtain ⟨leads, unbroken⟩ := mem_ends.1 member
  obtain ⟨l, taken, rest, -, through⟩ := (leads_iff_of_broken broken unbroken).1 leads
  rw [through, Way.avoids, List.all_cons, step_of_mem_legs broken taken] at avoids
  simp [own] at avoids

/-- The rate of a kind of step changes nothing in the ways down without such a step. At a step of the kind no
such way goes on in either run, and at any other step the two runs go on with the same parts. -/
theorem avoiding_withRate (p : Part) : (p.ends types (s.withRate q rate)).filter (·.1.avoids q) =
    (p.ends types s).filter (·.1.avoids q) := by
  induction p using @descend types s with
  | unbroken p unbroken =>
    have unbroken' : p.step? (s.withRate q rate) = none := by rw [Node.step?_withRate, unbroken]; rfl
    rw [ends_of_unbroken unbroken, ends_of_unbroken unbroken']
  | broken p step broken ih =>
    have broken' := Node.step?_withRate (s := s) q rate p.toNode
    rw [broken, Option.map_some] at broken'
    by_cases own : step.1 = q
    · rw [avoiding_eq_nil broken own, avoiding_eq_nil broken' (by rw [if_pos own])]
    · rw [ends_of_broken broken, ends_of_broken broken', legs_withRate_of_other rate broken own,
        List.filter_flatMap, List.filter_flatMap]
      refine List.flatMap_congr fun l member => ?_
      have through : l.1.step.1 ≠ q := by rwa [step_of_mem_legs broken member]
      rw [List.filter_map, List.filter_map]
      simp only [Function.comp_def, Prod.map_fst, Way.avoids_cons_of_other through, ih l member]

end Part

end

/-! ## Unmixed lines -/

/-- An unmixed line is made of lines that came out of the same kind of step. -/
theorem MaterialLine.qualifier_of_reported {lines : List MaterialLine} {p : Qualifier}
    (reported : ∀ l ∈ addUp none lines, l.reportedQualifier = some p) : ∀ l ∈ lines, l.qualifier = p := by
  cases lines with
  | nil => simp
  | cons first rest =>
    rw [addUp_none_cons] at reported
    have total := reported _ rfl
    rw [foldl_absorb, reportedQualifier] at total
    split at total
    · cases total
    · rename_i unmixed
      have same := Option.some.inj total
      simp only [Bool.or_eq_true, List.any_eq_true, not_or, not_exists, not_and] at unmixed
      rw [List.forall_mem_cons]
      refine ⟨same, fun m member => ?_⟩
      have equal := unmixed.2 m member
      simp only [bne_iff_ne, not_not] at equal
      exact equal.1.2.symm.trans same

/-- No step of some kind stands on a way to a material before the last one. -/
def NotAbove (types : TypeCatalog) (s : BuybackSettings) (r : TypeRecord) (quantity id : Int) (q : Qualifier) :
    Prop :=
  ∀ e ∈ (Part.start s r quantity).ends types s, e.2.record.id = id → ∀ leg ∈ e.1.dropLast, leg.step.1 ≠ q

section

variable {p q : Qualifier} (other : p ≠ q) {rate : Float} {r : TypeRecord} {quantity id : Int}
include other

/-- A material that is reported under one kind of step and has no step of another kind further up is found
on ways without steps of that other kind. -/
theorem ends_avoiding
    (reported : ∀ l ∈ (decompose types s r quantity).line? id, l.reportedQualifier = some p)
    (notAbove : NotAbove types s r quantity id q) :
    ((Part.start s r quantity).ends types s).filter (·.2.record.id == id) =
      (((Part.start s r quantity).ends types s).filter (·.1.avoids q)).filter (·.2.record.id == id) := by
  rw [line?_decompose] at reported
  have qualifiers := MaterialLine.qualifier_of_reported reported
  rw [List.filter_filter]
  refine List.filter_congr fun e member => ?_
  by_cases own : e.2.record.id = id
  · have avoids : e.1.avoids q = true := by
      refine Way.avoids_of_last (notAbove e member own) fun leg last => ?_
      have origin : e.2.origin = some leg.step := by
        rw [Part.origin_of_leads (Part.mem_ends.1 member).1, Option.mem_def.1 last]
        rfl
      obtain ⟨l, inside⟩ := List.exists_mem_of_ne_nil _ (Part.ownLines_ne_nil (s := s) origin)
      have kind := qualifiers l (List.mem_flatMap.2 ⟨e, List.mem_filter.2 ⟨member, beq_iff_eq.2 own⟩, inside⟩)
      rw [(Part.of_mem_ownLines inside).2, origin] at kind
      exact fun same => other (kind.symm.trans same)
    rw [avoids, Bool.and_true]
  · have foreign : (e.2.record.id == id) = false := beq_eq_false_iff_ne.2 own
    rw [foreign, Bool.false_and]

/-- A material that is reported under one kind of step in two runs is the same in both when they differ in
the rate of another kind of step only, provided that no step of that other kind stands further up on a way to
it. -/
theorem line?_withRate
    (reported : ∀ l ∈ (decompose types s r quantity).line? id, l.reportedQualifier = some p)
    (reported' : ∀ l ∈ (decompose types (s.withRate q rate) r quantity).line? id,
      l.reportedQualifier = some p)
    (notAbove : NotAbove types s r quantity id q)
    (notAbove' : NotAbove types (s.withRate q rate) r quantity id q) :
    (decompose types (s.withRate q rate) r quantity).line? id =
      (decompose types s r quantity).line? id := by
  rw [line?_decompose, line?_decompose, ends_avoiding other reported notAbove,
    ends_avoiding other reported' notAbove', Part.start_withRate, Part.avoiding_withRate]
  simp only [Part.ownLines_withRate]

end

/-- A material is found on every way down to it, and each step on the way applies its own efficiency to what
the steps before it have left. So two runs that differ in the rate of one kind of step find the same on ways
without such a step, and the same of a material that both report under another kind of step if no step of the
kind stands further up on a way to it. -/
theorem quantities_by_ways (types : TypeCatalog) (r : TypeRecord) {quantity : Int}
    (inRange : Quantity.InRange quantity) :
    (∀ s : Settings, s.validate = .ok () → AccountedBy types s.buyback r quantity
      ((Part.start s.buyback r quantity).ends types s.buyback)) ∧
    ∀ (s : BuybackSettings) (q : Qualifier) (rate : Float),
      ((Part.start (s.withRate q rate) r quantity).ends types (s.withRate q rate)).filter (·.1.avoids q) =
        ((Part.start s r quantity).ends types s).filter (·.1.avoids q) ∧
      ∀ (p : Qualifier) (id : Int), p ≠ q →
        (∀ l ∈ (decompose types s r quantity).line? id, l.reportedQualifier = some p) →
        (∀ l ∈ (decompose types (s.withRate q rate) r quantity).line? id, l.reportedQualifier = some p) →
        NotAbove types s r quantity id q → NotAbove types (s.withRate q rate) r quantity id q →
        (decompose types (s.withRate q rate) r quantity).line? id =
          (decompose types s r quantity).line? id := by
  refine ⟨fun s valid => accountedBy_ends valid inRange, fun s q rate => ⟨?_, ?_⟩⟩
  · rw [Part.start_withRate]
    exact Part.avoiding_withRate rate _
  · intro p id other reported reported' notAbove notAbove'
    exact line?_withRate other reported reported' notAbove notAbove'

/-! ## A type over plates over a mineral -/

namespace PlateReport

/-- A mineral. -/
def mineral : TypeRecord := { id := 34, groupId := 18, name := "Tritanium" }

/-- A plate that gives 20 units of the mineral. In category 25 it is refined, in others reprocessed. -/
def plate (categoryId : Int) : TypeRecord :=
  { id := 100, groupId := 1000, categoryId, name := "Plate", materials := [⟨34, 20⟩] }

/-- A type that gives 10 plates. -/
def stack (categoryId : Int) : TypeRecord :=
  { id := 1230, groupId := 1000, categoryId, name := "Stack", materials := [⟨100, 10⟩] }

section

variable (upper lower : Int)

def typesOf : TypeCatalog :=
  .ofEntries [.ofRecord mineral, .ofRecord (plate lower), .ofRecord (stack upper)]
    (by simp [CatalogEntry.ofRecord, mineral, plate, stack])

theorem byId?_mineral : (typesOf upper lower).byId? 34 = some mineral := by
  rw [TypeCatalog.byId?_eq_find?]
  rfl

theorem byId?_plate : (typesOf upper lower).byId? 100 = some (plate lower) := by
  rw [TypeCatalog.byId?_eq_find?]
  rfl

theorem byId?_stack : (typesOf upper lower).byId? 1230 = some (stack upper) := by
  rw [TypeCatalog.byId?_eq_find?]
  rfl

end

/-- The default settings with no losses in one kind of step. -/
def lossless (q : Qualifier) : Settings :=
  Settings.withRate {} q 100

theorem validate_lossless (q : Qualifier) : (lossless q).validate = .ok () := by
  have sound : (lossless q).problem? = none := by cases q <;> decide +kernel
  rw [Settings.validate, sound]

theorem validate_lossy (q : Qualifier) : ((lossless q).withRate q 50).validate = .ok () := by
  have sound : ((lossless q).withRate q 50).problem? = none := by cases q <;> decide +kernel
  rw [Settings.validate, sound]

/-- What one unit of the type leaves of the plate. -/
def platePart (lower : Int) (first : Step) (plates : Int) : Part :=
  ⟨⟨7, [1230], plate lower⟩, some first, plates⟩

/-- What that leaves of the mineral. -/
def mineralPart (second : Step) (units : Int) : Part :=
  ⟨⟨6, [100, 1230], mineral⟩, some second, units⟩

section

variable {s : BuybackSettings} {upper lower plates units : Int} (first second : Step)
  (depth : s.maxDepth = 8) (primitive : 18 ∈ s.directGroups)
  (ofStack : (Conversion.of s (stack upper)).step? = some first)
  (ofPlate : (Conversion.of s (plate lower)).step? = some second)
  (left : materialQuantity 1 1 10 first.2 = plates) (kept : 0 < plates)
  (given : materialQuantity plates 1 20 second.2 = units) (found : 0 < units)
include depth primitive ofStack ofPlate left kept given found

/-- The only way down from one unit of the type. -/
theorem ends_stack : (Part.start s (stack upper) 1).ends (typesOf upper lower) s =
    [([⟨stack upper, first, 0, ⟨100, 10⟩⟩, ⟨plate lower, second, 0, ⟨34, 20⟩⟩], mineralPart second units)] := by
  have top : (Part.start s (stack upper) 1).step? s = some first :=
    Node.step?_eq_some_iff.2 ⟨by simp [Part.start, Node.start, depth], List.not_mem_nil, ofStack⟩
  have toPlate : (Part.start s (stack upper) 1).part first ⟨100, 10⟩ (plate lower) =
      platePart lower first plates := by
    simp only [Part.part, Part.share, Part.start, Node.start, depth, platePart, ← left]
    rfl
  have middle : (platePart lower first plates).step? s = some second :=
    Node.step?_eq_some_iff.2 ⟨by simp [platePart], by simp [platePart, plate], ofPlate⟩
  have toMineral : (platePart lower first plates).part second ⟨34, 20⟩ mineral = mineralPart second units := by
    simp only [mineralPart, ← given]
    rfl
  have bottom : (mineralPart second units).step? s = none :=
    Node.step?_eq_none_iff.2 (.inr (.inr (.inl primitive)))
  rw [Part.ends_of_one top rfl (byId?_plate upper lower) toPlate kept,
    Part.ends_of_one middle rfl (byId?_mineral upper lower) toMineral found, Part.ends_of_unbroken bottom]
  rfl

theorem notAbove_stack {q : Qualifier} (other : first.1 ≠ q) (id : Int) :
    NotAbove (typesOf upper lower) s (stack upper) 1 id q := by
  intro e member _
  rw [ends_stack first second depth primitive ofStack ofPlate left kept given found] at member
  rw [List.mem_singleton.1 member]
  exact List.forall_mem_singleton.2 other

theorem line?_stack : (decompose (typesOf upper lower) s (stack upper) 1).line? 34 =
    some (.ofStep mineral units second) := by
  have own : (mineralPart second units).ownLines s = [.ofStep mineral units second] := by
    simp [Part.ownLines, mineralPart, mineral, primitive, TypeRecord.portion]
  rw [line?_decompose, ends_stack first second depth primitive ofStack ofPlate left kept given found,
    List.filter_singleton]
  simp only [mineralPart, mineral, beq_self_eq_true, cond_true, List.flatMap_singleton] at own ⊢
  rw [own]
  rfl

end

end PlateReport

section

open PlateReport

theorem quantities_by_ways_of_stack :
    let s : Settings := {}
    let t := s.buyback.withRate .refine 50
    let types := typesOf 6 6
    Quantity.InRange 1 ∧ s.validate = .ok () ∧
    AccountedBy types s.buyback (stack 6) 1 ((Part.start s.buyback (stack 6) 1).ends types s.buyback) ∧
    Qualifier.reprocess ≠ .refine ∧
    (∀ l ∈ (decompose types s.buyback (stack 6) 1).line? 34, l.reportedQualifier = some .reprocess) ∧
    (∀ l ∈ (decompose types t (stack 6) 1).line? 34, l.reportedQualifier = some .reprocess) ∧
    NotAbove types s.buyback (stack 6) 1 34 .refine ∧ NotAbove types t (stack 6) 1 34 .refine ∧
    (decompose types t (stack 6) 1).line? 34 = (decompose types s.buyback (stack 6) 1).line? 34 ∧
    ((decompose types s.buyback (stack 6) 1).line? 34).map (·.quantity) = some 55 := by
  intro s t types
  have inRange : Quantity.InRange 1 := by decide
  have sound : s.problem? = none := by decide +kernel
  have valid : s.validate = .ok () := by rw [Settings.validate, sound]
  have left : materialQuantity 1 1 10 55 = 5 := by decide +kernel
  have given : materialQuantity 5 1 20 55 = 55 := by decide +kernel
  let step : Step := (.reprocess, 55)
  have line : (decompose types s.buyback (stack 6) 1).line? 34 = some (.ofStep mineral 55 step) :=
    line?_stack step step rfl (by decide) rfl rfl left (by decide) given (by decide)
  have line' : (decompose types t (stack 6) 1).line? 34 = some (.ofStep mineral 55 step) :=
    line?_stack step step rfl (by decide) rfl rfl left (by decide) given (by decide)
  have reported : ∀ l ∈ (decompose types s.buyback (stack 6) 1).line? 34,
      l.reportedQualifier = some .reprocess := by
    rw [line]
    decide
  have reported' : ∀ l ∈ (decompose types t (stack 6) 1).line? 34, l.reportedQualifier = some .reprocess := by
    rw [line']
    decide
  have notAbove : NotAbove types s.buyback (stack 6) 1 34 .refine :=
    notAbove_stack step step rfl (by decide) rfl rfl left (by decide) given (by decide) (by decide) 34
  have notAbove' : NotAbove types t (stack 6) 1 34 .refine :=
    notAbove_stack step step rfl (by decide) rfl rfl left (by decide) given (by decide) (by decide) 34
  obtain ⟨accounted, twoRuns⟩ := quantities_by_ways types (stack 6) inRange
  have other : Qualifier.reprocess ≠ .refine := by decide
  have same := (twoRuns s.buyback .refine 50).2 .reprocess 34 other reported reported' notAbove notAbove'
  exact ⟨inRange, valid, accounted s valid, other, reported, reported', notAbove, notAbove', same,
    by rw [line]; rfl⟩

/-- Whether the rate of a kind of step counts for no material that is reported under another kind, as it would
if only the step that a material comes out of applied to it. -/
def OnlyOwnRateCounts (p q : Qualifier) : Prop :=
  ∀ (types : TypeCatalog) (s : Settings) (rate : Float) (r : TypeRecord) (quantity id : Int)
    (l l' : MaterialLine), s.validate = .ok () → (s.withRate q rate).validate = .ok () →
    types.byId? r.id = some r → Quantity.InRange quantity →
    (decompose types s.buyback r quantity).line? id = some l →
    (decompose types (s.withRate q rate).buyback r quantity).line? id = some l' →
    l.reportedQualifier = some p → l'.reportedQualifier = some p → l.quantity = l'.quantity

/-- Of two settings with rates of 100 and 50 percent for the first of two steps one gives twice as much as the
other, although the mineral is reported under the second step in both. -/
theorem losses_compound :
    ¬OnlyOwnRateCounts .reprocess .refine ∧ ¬OnlyOwnRateCounts .refine .reprocess := by
  have all : materialQuantity 1 1 10 100 = 10 := by decide +kernel
  have half : materialQuantity 1 1 10 50 = 5 := by decide +kernel
  constructor
  · intro only
    have ofAll : materialQuantity 10 1 20 55 = 110 := by decide +kernel
    have ofHalf : materialQuantity 5 1 20 55 = 55 := by decide +kernel
    have equal := only (typesOf 25 6) (lossless .refine) 50 (stack 25) 1 34 _ _ (validate_lossless .refine)
      (validate_lossy .refine) (byId?_stack 25 6) (by decide)
      (line?_stack (.refine, 100) (.reprocess, 55) rfl (by decide) rfl rfl all (by decide) ofAll (by decide))
      (line?_stack (.refine, 50) (.reprocess, 55) rfl (by decide) rfl rfl half (by decide) ofHalf (by decide))
      rfl rfl
    cases equal
  · intro only
    have ofAll : materialQuantity 10 1 20 85 = 170 := by decide +kernel
    have ofHalf : materialQuantity 5 1 20 85 = 85 := by decide +kernel
    have equal := only (typesOf 6 25) (lossless .reprocess) 50 (stack 6) 1 34 _ _ (validate_lossless .reprocess)
      (validate_lossy .reprocess) (byId?_stack 6 25) (by decide)
      (line?_stack (.reprocess, 100) (.refine, 85) rfl (by decide) rfl rfl all (by decide) ofAll (by decide))
      (line?_stack (.reprocess, 50) (.refine, 85) rfl (by decide) rfl rfl half (by decide) ofHalf (by decide))
      rfl rfl
    cases equal

end

end ItemAppraisal
