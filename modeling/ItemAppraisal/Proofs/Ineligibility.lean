import ItemAppraisal.Proofs.Descent

/-!
# Types that are not eligible

Eligibility is decided without quantities, and it gives up at the first material that does not reduce. The
breakdown goes on to the others and merges what they give. Where it passes nothing over, a material at which
eligibility fails is taken as it is and stays in the basket: so a type is eligible exactly if its basket holds
primitive materials only (`isEligible_iff_of_whole`).
-/

namespace ItemAppraisal

variable {types : TypeCatalog} {s : BuybackSettings}

namespace Part

/-- A quantity of a type of which nothing is passed over: if it is broken down, all its materials are known and
it gives some units of each. -/
def IsWhole (types : TypeCatalog) (s : BuybackSettings) (p : Part) : Prop :=
  ∀ step, p.step? s = some step → ∀ m ∈ p.record.materials,
    (∃ child, types.byId? m.typeId = some child) ∧ 0 < p.share step m

/-- A type that does not reduce leads to one that is neither broken down nor primitive. The induction is on the
levels; a type that is broken down has a material that does not reduce, and gives some of it. -/
theorem exists_unbroken {p : Part} (whole : ∀ q, p.Meets types s q → q.IsWhole types s)
    (fails : ¬p.reduces types s = true) :
    ∃ q, p.Meets types s q ∧ q.step? s = none ∧ q.record.groupId ∉ s.directGroups := by
  induction levels : p.levels generalizing p with
  | zero =>
    have unbroken : p.step? s = none := Node.step?_eq_none_iff.2 (.inl levels)
    exact ⟨p, .refl, unbroken, mt (Node.reduces_of_unbroken unbroken).2 fails⟩
  | succ fewer ih =>
    cases broken : p.step? s with
    | none => exact ⟨p, .refl, broken, mt (Node.reduces_of_unbroken broken).2 fails⟩
    | some step =>
      have own := whole p .refl step broken
      obtain ⟨c, member, stuck⟩ : ∃ c ∈ p.toNode.children types s, ¬c.reduces types s = true := by
        by_contra none
        push Not at none
        exact fails ((Node.reduces_of_broken broken).2 ⟨fun m ingredient => (own m ingredient).1, none⟩)
      obtain ⟨-, m, ingredient, child, known, rfl⟩ := Node.mem_children.1 member
      have given : p.part step m child ∈ p.parts types s :=
        mem_parts.2 ⟨step, m, child, broken, ingredient, known, (own m ingredient).2, rfl⟩
      have next : (p.part step m child).levels = fewer := by simp [part, Node.below, levels]
      obtain ⟨q, meets, unbroken, compound⟩ :=
        ih (fun q meets => whole q (.head given meets)) stuck next
      exact ⟨q, .head given meets, unbroken, compound⟩

/-- A type that is met below another one came out of a step and is a type of the catalog. -/
theorem origin_of_meets {p q : Part} (meets : p.Meets types s q) (other : q ≠ p) :
    q.origin.isSome ∧ types.byId? q.record.id = some q.record := by
  rcases Relation.ReflTransGen.cases_tail meets with same | ⟨b, -, last⟩
  · exact absurd same other
  · obtain ⟨step, m, child, -, -, known, -, rfl⟩ := mem_parts.1 last
    exact ⟨rfl, TypeCatalog.byId?_of_byId? known⟩

theorem ownLines_of_compound {p : Part} (compound : p.record.groupId ∉ s.directGroups) :
    p.ownLines s = leafLines p.record p.quantity p.origin := by
  rw [ownLines, if_neg (fun primitive => compound primitive.2.2)]

end Part

theorem Basket.exists_mem_addAll {b : Basket} {lines : List MaterialLine} {l : MaterialLine}
    (member : l ∈ lines) : ∃ k ∈ (b.addAll lines).lines, k.typeId = l.typeId := by
  have own : l ∈ lines.filter (·.typeId == l.typeId) := List.mem_filter.2 ⟨member, beq_self_eq_true _⟩
  obtain ⟨first, rest, split⟩ := List.exists_cons_of_ne_nil (List.ne_nil_of_mem own)
  have found : ((b.addAll lines).line? l.typeId).isSome := by
    rw [Basket.line?_addAll, split]
    cases b.line? l.typeId with
    | none => rw [MaterialLine.addUp_none_cons]; rfl
    | some row => rw [MaterialLine.addUp_some]; rfl
  obtain ⟨k, found⟩ := Option.isSome_iff_exists.1 found
  exact ⟨k, Basket.line?_eq_some_iff.1 found⟩

theorem lines_decompose (types : TypeCatalog) (s : BuybackSettings) (r : TypeRecord) (quantity : Int) :
    decompose types s r quantity = Basket.empty.addAll ((Part.start s r quantity).lines types s) := by
  rw [decompose, decomposeInto_eq_addAll]
  rfl

/-- A type that is not eligible leaves a material in its basket that is not primitive, if nothing is passed
over while it is broken down. So, the other way round being true of every type, the basket decides whether it
is eligible. -/
theorem isEligible_iff_of_whole {r : TypeRecord} {quantity : Int} (positive : 1 ≤ s.maxDepth)
    (entered : r ∈ types.records) (compound : r.groupId ∉ s.directGroups)
    (decomposable : r.isDecomposable = true)
    (whole : ∀ p, (Part.start s r quantity).Meets types s p → p.IsWhole types s) :
    (isEligible types s r = false → ∃ l ∈ (decompose types s r quantity).lines,
      ∃ t, types.byId? l.typeId = some t ∧ t.groupId ∉ s.directGroups) ∧
    (isEligible types s r = true ↔ ∀ l ∈ (decompose types s r quantity).lines,
      ∃ t, types.byId? l.typeId = some t ∧ t.groupId ∈ s.directGroups) := by
  have visible (ineligible : isEligible types s r = false) :
      ∃ l ∈ (decompose types s r quantity).lines,
        ∃ t, types.byId? l.typeId = some t ∧ t.groupId ∉ s.directGroups := by
    have fails : ¬(Part.start s r quantity).reduces types s = true := Bool.eq_false_iff.1 ineligible
    obtain ⟨q, meets, unbroken, foreign⟩ := Part.exists_unbroken whole fails
    -- The item itself is broken down, so what is stuck is one of its materials and came out of a step.
    have other : q ≠ Part.start s r quantity := by
      rintro rfl
      rcases Node.step?_eq_none_iff.1 unbroken with none | again | primitive | leaf
      · exact absurd none (Nat.one_le_iff_ne_zero.1 positive)
      · cases again
      · exact compound primitive
      · exact Bool.eq_false_iff.1 leaf decomposable
    obtain ⟨origin, known⟩ := Part.origin_of_meets meets other
    obtain ⟨step, origin⟩ := Option.isSome_iff_exists.1 origin
    have line : .ofStep q.record q.quantity step ∈ q.lines types s := by
      rw [Part.lines_of_unbroken unbroken, Part.ownLines_of_compound foreign]
      exact mem_leafLines.2 ⟨step, origin, rfl⟩
    obtain ⟨k, member, typeId⟩ := Basket.exists_mem_addAll (b := .empty) (Part.lines_subset meets line)
    refine ⟨k, lines_decompose types s r quantity ▸ member, q.record, ?_, foreign⟩
    rw [typeId]
    exact known
  refine ⟨visible, fun eligible l member => ?_, fun primitive => ?_⟩
  · obtain ⟨t, ⟨known, group⟩, id, -⟩ := decompose_primitive entered eligible quantity l member
    exact ⟨t, TypeCatalog.byId?_eq_some_iff.2 ⟨known, id.symm⟩, group⟩
  · by_contra ineligible
    obtain ⟨l, member, t, known, foreign⟩ := visible (Bool.eq_false_iff.2 ineligible)
    obtain ⟨t', known', group⟩ := primitive l member
    cases known.symm.trans known'
    exact foreign group

/-! ## A type that comes out of its own material -/

namespace WidgetReport

def mineral : TypeRecord := { id := 34, groupId := 18, name := "Tritanium" }

/-- A type that gives gadgets and some of the mineral. -/
def widget : TypeRecord := { id := 100, groupId := 1000, name := "Widget", materials := [⟨101, 2⟩, ⟨34, 5⟩] }

/-- A type that gives widgets and some of the mineral. -/
def gadget : TypeRecord := { id := 101, groupId := 1000, name := "Gadget", materials := [⟨100, 2⟩, ⟨34, 3⟩] }

def catalog : TypeCatalog :=
  .ofEntries [.ofRecord mineral, .ofRecord widget, .ofRecord gadget]
    (by decide)

def settings : BuybackSettings := {}

/-- A material that comes out of reprocessing. -/
def part (levels : Nat) (path : List Int) (r : TypeRecord) (quantity : Int) : Part :=
  ⟨⟨levels, path, r⟩, some (.reprocess, 55), quantity⟩

theorem byId?_mineral : catalog.byId? 34 = some mineral := by
  rw [TypeCatalog.byId?_eq_find?]
  rfl

theorem byId?_widget : catalog.byId? 100 = some widget := by
  rw [TypeCatalog.byId?_eq_find?]
  rfl

theorem byId?_gadget : catalog.byId? 101 = some gadget := by
  rw [TypeCatalog.byId?_eq_find?]
  rfl

/-- Ten widgets give gadgets and minerals. -/
theorem parts_widget : (Part.start settings widget 10).parts catalog settings =
    [part 7 [100] gadget 11, part 7 [100] mineral 27] := by
  have broken : (Part.start settings widget 10).step? settings = some (.reprocess, 55) := rfl
  have gadgets : materialQuantity 10 1 2 55 = 11 := by decide +kernel
  have minerals : materialQuantity 10 1 5 55 = 27 := by decide +kernel
  rw [Part.parts, broken]
  simp [Part.start, Node.start, widget, byId?_gadget, byId?_mineral, Part.share, Part.part, Node.below,
    TypeRecord.portion, gadgets, minerals, part, settings]

/-- The gadgets among them give widgets again, and more minerals. -/
theorem parts_gadget : (part 7 [100] gadget 11).parts catalog settings =
    [part 6 [101, 100] widget 12, part 6 [101, 100] mineral 18] := by
  have broken : (part 7 [100] gadget 11).step? settings = some (.reprocess, 55) := rfl
  have widgets : materialQuantity 11 1 2 55 = 12 := by decide +kernel
  have minerals : materialQuantity 11 1 3 55 = 18 := by decide +kernel
  rw [Part.parts, broken]
  simp [part, gadget, byId?_widget, byId?_mineral, Part.share, Part.part, Node.below, TypeRecord.portion,
    widgets, minerals]

theorem parts_of_unbroken {p : Part} (unbroken : p.step? settings = none) : p.parts catalog settings = [] := by
  rw [Part.parts, unbroken]

/-- All that is met while ten widgets are broken down. -/
theorem mem_of_meets {p : Part} (meets : (Part.start settings widget 10).Meets catalog settings p) :
    p ∈ [.start settings widget 10, part 7 [100] gadget 11, part 7 [100] mineral 27,
      part 6 [101, 100] widget 12, part 6 [101, 100] mineral 18] := by
  induction meets with
  | refl => exact List.mem_cons_self
  | tail _ next ih =>
    simp only [List.mem_cons, List.not_mem_nil, or_false] at ih
    rcases ih with rfl | rfl | rfl | rfl | rfl
    · rw [parts_widget] at next
      simp at next ⊢
      tauto
    · rw [parts_gadget] at next
      simp at next ⊢
      tauto
    · rw [parts_of_unbroken rfl] at next
      cases next
    · rw [parts_of_unbroken rfl] at next
      cases next
    · rw [parts_of_unbroken rfl] at next
      cases next

/-- All steps that are taken while ten widgets are broken down. -/
theorem steps_of_meets {p : Part} (meets : (Part.start settings widget 10).Meets catalog settings p) {step : Step}
    (broken : p.step? settings = some step) {m : Component} (ingredient : m ∈ p.record.materials) :
    step = (.reprocess, 55) ∧
    ((p = .start settings widget 10 ∧ (m = ⟨101, 2⟩ ∨ m = ⟨34, 5⟩)) ∨
      (p = part 7 [100] gadget 11 ∧ (m = ⟨100, 2⟩ ∨ m = ⟨34, 3⟩))) := by
  have among := mem_of_meets meets
  simp only [List.mem_cons, List.not_mem_nil, or_false] at among
  rcases among with rfl | rfl | rfl | rfl | rfl
  · cases broken
    simp only [Part.start, Node.start, widget, List.mem_cons, List.not_mem_nil, or_false] at ingredient
    exact ⟨rfl, .inl ⟨rfl, ingredient⟩⟩
  · cases broken
    simp only [part, gadget, List.mem_cons, List.not_mem_nil, or_false] at ingredient
    exact ⟨rfl, .inr ⟨rfl, ingredient⟩⟩
  · cases broken
  · cases broken
  · cases broken

theorem isWhole_of_meets {p : Part} (meets : (Part.start settings widget 10).Meets catalog settings p) :
    p.IsWhole catalog settings := by
  intro step broken m ingredient
  obtain ⟨rfl, ⟨rfl, rfl | rfl⟩ | ⟨rfl, rfl | rfl⟩⟩ := steps_of_meets meets broken ingredient
  · exact ⟨⟨gadget, byId?_gadget⟩, by decide +kernel⟩
  · exact ⟨⟨mineral, byId?_mineral⟩, by decide +kernel⟩
  · exact ⟨⟨widget, byId?_widget⟩, by decide +kernel⟩
  · exact ⟨⟨mineral, byId?_mineral⟩, by decide +kernel⟩

theorem isEligible_widget : isEligible catalog settings widget = false := by
  have again : reducesWithin catalog settings 6 [gadget.id, widget.id] widget = false := rfl
  have ofGadget : gadget.materials = [⟨100, 2⟩, ⟨34, 3⟩] := rfl
  have ofWidget : widget.materials = [⟨101, 2⟩, ⟨34, 5⟩] := rfl
  have inside : reducesWithin catalog settings 7 [widget.id] gadget = false := by
    rw [reducesWithin, ofGadget, List.all_cons, byId?_widget]
    simp only [again, Bool.false_and, Bool.and_false]
    rfl
  have levels : settings.maxDepth = 7 + 1 := rfl
  rw [isEligible, levels, reducesWithin, ofWidget, List.all_cons, byId?_gadget]
  simp only [inside, Bool.false_and, Bool.and_false]
  rfl

end WidgetReport

open WidgetReport in
/-- Widgets that come out of their own gadgets are left over, although minerals come out on both levels. -/
theorem isEligible_iff_of_whole_widget :
    1 ≤ settings.maxDepth ∧ widget ∈ catalog.records ∧ widget.groupId ∉ settings.directGroups ∧
    widget.isDecomposable = true ∧
    (∀ p, (Part.start settings widget 10).Meets catalog settings p → p.IsWhole catalog settings) ∧
    isEligible catalog settings widget = false ∧
    ∃ l ∈ (decompose catalog settings widget 10).lines,
      ∃ t, catalog.byId? l.typeId = some t ∧ t.groupId ∉ settings.directGroups := by
  have positive : 1 ≤ settings.maxDepth := by decide
  have entered : widget ∈ catalog.records := TypeCatalog.mem_records_of_byId? byId?_widget
  have compound : widget.groupId ∉ settings.directGroups := by decide
  have decomposable : widget.isDecomposable = true := rfl
  have whole p (meets : (Part.start settings widget 10).Meets catalog settings p) := isWhole_of_meets meets
  exact ⟨positive, entered, compound, decomposable, whole, isEligible_widget,
    (isEligible_iff_of_whole positive entered compound decomposable whole).1 isEligible_widget⟩

end ItemAppraisal
