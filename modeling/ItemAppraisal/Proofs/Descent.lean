import ItemAppraisal.Proofs.Eligibility
import Mathlib.Logic.Relation

/-!
# The way down

An item is broken down by one recursion over the types that are met, and whether it is eligible is decided by
another one. Both go on exactly where a type is broken down: below the last level, below a type that is met
again, below a primitive type and below one without materials there is nothing. So they are described by what
is met right below a type (`Node.children`) and right below a quantity of a type (`Part.parts`), with one
equation for a type that is broken down (`Node.reduces_of_broken`, `Part.lines_of_broken`) and one for any
other.
-/

namespace ItemAppraisal

section

variable (types : TypeCatalog) (s : BuybackSettings)

/-! ## Types -/

/-- The step by which a type is broken down that is met below the types of a path. -/
def stepBelow? (path : List Int) (r : TypeRecord) : Option Step :=
  if r.id ∈ path then none else (Conversion.of s r).step?

/-- A type that is met on the way down, with the levels that are left there and the types above it that are
being broken down, the nearest first. -/
structure Node where
  levels : Nat
  path : List Int
  record : TypeRecord

namespace Node

/-- The type that an item is broken down from. -/
def start (r : TypeRecord) : Node :=
  ⟨s.maxDepth, [], r⟩

/-- The step by which a type is broken down where it is met. -/
def step? (n : Node) : Option Step :=
  if n.levels = 0 then none else stepBelow? s n.path n.record

/-- A type that is met right below. -/
def below (n : Node) (child : TypeRecord) : Node :=
  ⟨n.levels - 1, n.record.id :: n.path, child⟩

/-- The types that are met right below a type: its known materials, if it is broken down. -/
def children (n : Node) : List Node :=
  match n.step? s with
  | none => []
  | some _ => n.record.materials.filterMap fun m => (types.byId? m.typeId).map n.below

/-- Whether a type reduces to primitive materials where it is met. -/
def reduces (n : Node) : Bool :=
  reducesWithin types s n.levels n.path n.record

end Node

/-! ## Quantities of types -/

/-- A quantity of a type that is met on the way down, with the step that it came out of. -/
structure Part extends Node where
  origin : Option Step
  quantity : Int

namespace Part

/-- The quantity of a type that is broken down. -/
def start (r : TypeRecord) (quantity : Int) : Part :=
  { toNode := .start s r, origin := none, quantity }

/-- What a step gives of one material. -/
def share (p : Part) (step : Step) (m : Component) : Int :=
  materialQuantity p.quantity p.record.portion m.quantity step.2

/-- A material that comes out of a step. -/
def part (p : Part) (step : Step) (m : Component) (child : TypeRecord) : Part :=
  ⟨p.below child, some step, p.share step m⟩

/-- What is met right below a quantity of a type: the known materials that it gives any of. -/
def parts (p : Part) : List Part :=
  match p.step? s with
  | none => []
  | some step => p.record.materials.flatMap fun m => (types.byId? m.typeId).toList.flatMap fun child =>
      if p.share step m ≤ 0 then [] else [p.part step m child]

/-- A quantity of a type leads to another one on the way down. -/
def Meets (p q : Part) : Prop :=
  Relation.ReflTransGen (fun p q => q ∈ p.parts types s) p q

/-- The materials of a quantity of a type where it is met. -/
def lines (p : Part) : List MaterialLine :=
  materialLines types s p.levels p.path p.origin p.record p.quantity

/-- The material that a quantity of a type makes which is not broken down: a primitive type is counted in
portions, any other one, and every one below the last level or met again, is taken as it is. -/
def ownLines (p : Part) : List MaterialLine :=
  if p.levels ≠ 0 ∧ p.record.id ∉ p.path ∧ p.record.groupId ∈ s.directGroups then
    [.ofStep p.record (Int.tdiv p.quantity p.record.portion) (p.origin.getD directStep)]
  else leafLines p.record p.quantity p.origin

end Part

end

variable {types : TypeCatalog} {s : BuybackSettings}

/-! ## Steps -/

theorem Conversion.step?_eq_none_iff {r : TypeRecord} :
    (Conversion.of s r).step? = none ↔ r.groupId ∈ s.directGroups ∨ r.isDecomposable = false := by
  by_cases primitive : r.groupId ∈ s.directGroups
  · simp [Conversion.of_primitive primitive, Conversion.step?, primitive]
  · cases decomposable : r.isDecomposable with
    | true =>
      obtain ⟨step, converted⟩ := Conversion.of_compound primitive decomposable
      simp [converted, primitive]
    | false => simp [Conversion.of, Conversion.step?, primitive, decomposable]

namespace Node

variable {n c : Node} {step : Step}

theorem step?_eq_some_iff : n.step? s = some step ↔
    n.levels ≠ 0 ∧ n.record.id ∉ n.path ∧ (Conversion.of s n.record).step? = some step := by
  rw [step?, stepBelow?]
  by_cases last : n.levels = 0
  · simp [last]
  · by_cases again : n.record.id ∈ n.path <;> simp [last, again]

theorem step?_eq_none_iff : n.step? s = none ↔
    n.levels = 0 ∨ n.record.id ∈ n.path ∨ n.record.groupId ∈ s.directGroups ∨
      n.record.isDecomposable = false := by
  rw [step?, stepBelow?]
  by_cases last : n.levels = 0
  · simp [last]
  · by_cases again : n.record.id ∈ n.path
    · simp [again]
    · simp [last, again, Conversion.step?_eq_none_iff]

/-- A type that is broken down is not primitive. -/
theorem compound_of_broken (broken : n.step? s = some step) : n.record.groupId ∉ s.directGroups := by
  intro primitive
  rw [step?_eq_none_iff.2 (.inr (.inr (.inl primitive)))] at broken
  cases broken

theorem mem_children : c ∈ n.children types s ↔
    (n.step? s).isSome ∧ ∃ m ∈ n.record.materials, ∃ child, types.byId? m.typeId = some child ∧
      c = n.below child := by
  rw [children]
  cases n.step? s with
  | none => simp
  | some step => simp [List.mem_filterMap, eq_comm]

/-- A type that is broken down reduces to primitive materials if all its materials are known and do. -/
theorem reduces_of_broken (broken : n.step? s = some step) :
    n.reduces types s = true ↔
      (∀ m ∈ n.record.materials, ∃ child, types.byId? m.typeId = some child) ∧
      ∀ c ∈ n.children types s, c.reduces types s = true := by
  have compound := compound_of_broken broken
  obtain ⟨levels, fresh, converted⟩ := step?_eq_some_iff.1 broken
  obtain ⟨fewer, levels⟩ := Nat.exists_eq_succ_of_ne_zero levels
  have decomposable : n.record.isDecomposable = true := by
    by_contra leaf
    rw [Conversion.step?_eq_none_iff.2 (.inr (by simpa using leaf))] at converted
    cases converted
  have inside : (n.reduces types s = true) ↔ ∀ m ∈ n.record.materials,
      ∃ child, types.byId? m.typeId = some child ∧ (n.below child).reduces types s = true := by
    simp only [reduces, below, levels, reducesWithin, Nat.succ_eq_add_one, Nat.add_sub_cancel]
    simp only [Bool.or_eq_true, Bool.and_eq_true, List.contains_iff_mem, compound, false_or, decomposable,
      true_and, Bool.not_eq_true', List.all_eq_true]
    simp only [fresh, List.contains_eq_mem, decide_false, true_and]
    refine forall₂_congr fun m _ => ?_
    cases types.byId? m.typeId <;> simp
  rw [inside]
  constructor
  · intro all
    refine ⟨fun m member => ?_, fun c child => ?_⟩
    · obtain ⟨child, known, -⟩ := all m member
      exact ⟨child, known⟩
    · obtain ⟨-, m, member, record, known, rfl⟩ := mem_children.1 child
      obtain ⟨found, known', reduced⟩ := all m member
      cases known.symm.trans known'
      exact reduced
  · rintro ⟨known, reduced⟩ m member
    obtain ⟨child, found⟩ := known m member
    refine ⟨child, found, reduced _ (mem_children.2 ⟨by rw [broken]; rfl, m, member, child, found, rfl⟩)⟩

theorem reduces_of_unbroken (unbroken : n.step? s = none) :
    n.reduces types s = true ↔ n.record.groupId ∈ s.directGroups := by
  rw [reduces]
  cases levels : n.levels with
  | zero => rw [reducesWithin, List.contains_iff_mem]
  | succ fewer =>
    rw [reducesWithin, Bool.or_eq_true, List.contains_iff_mem]
    refine or_iff_left_of_imp fun reduced => ?_
    rcases step?_eq_none_iff.1 unbroken with none | again | primitive | leaf
    · omega
    · simp [again] at reduced
    · exact primitive
    · simp [leaf] at reduced

end Node

namespace Part

variable {p q : Part} {step : Step} {l : MaterialLine}

theorem mem_parts : q ∈ p.parts types s ↔
    ∃ step m child, p.step? s = some step ∧ m ∈ p.record.materials ∧ types.byId? m.typeId = some child ∧
      0 < p.share step m ∧ q = p.part step m child := by
  rw [parts]
  cases broken : p.step? s with
  | none => simp
  | some step =>
    constructor
    · intro member
      obtain ⟨m, ingredient, inside⟩ := List.mem_flatMap.1 member
      obtain ⟨child, known, given⟩ := List.mem_flatMap.1 inside
      split at given
      · cases given
      · rename_i positive
        exact ⟨step, m, child, rfl, ingredient, Option.mem_toList.1 known, Int.not_le.1 positive,
          List.mem_singleton.1 given⟩
    · rintro ⟨_, m, child, same, ingredient, known, positive, rfl⟩
      cases same
      refine List.mem_flatMap.2 ⟨m, ingredient, List.mem_flatMap.2 ⟨child, Option.mem_toList.2 known, ?_⟩⟩
      rw [if_neg (Int.not_le.2 positive)]
      exact List.mem_singleton_self _

/-- What is met right below a quantity of a type is met right below the type. -/
theorem toNode_mem_children (member : q ∈ p.parts types s) : q.toNode ∈ p.toNode.children types s := by
  obtain ⟨step, m, child, broken, ingredient, known, -, rfl⟩ := mem_parts.1 member
  exact Node.mem_children.2 ⟨by rw [broken]; rfl, m, ingredient, child, known, rfl⟩

/-- A quantity of a type that is broken down gives what its parts give. -/
theorem lines_of_broken (broken : p.step? s = some step) :
    p.lines types s = (p.parts types s).flatMap (·.lines types s) := by
  obtain ⟨levels, fresh, converted⟩ := Node.step?_eq_some_iff.1 broken
  obtain ⟨fewer, levels⟩ := Nat.exists_eq_succ_of_ne_zero levels
  rw [lines, levels, materialLines_of_step fresh converted, parts, broken]
  simp only [List.flatMap_assoc]
  refine List.flatMap_congr fun m _ => ?_
  rw [partLines]
  cases types.byId? m.typeId with
  | none => rfl
  | some child =>
    have fewerLevels : (p.part step m child).levels = fewer := by simp [part, Node.below, levels]
    rw [Option.toList_some, List.flatMap_singleton]
    by_cases gone : p.share step m ≤ 0
    · rw [if_pos gone]
      exact if_pos gone
    · rw [if_neg gone, List.flatMap_singleton, lines, fewerLevels]
      exact if_neg gone

theorem lines_of_unbroken (unbroken : p.step? s = none) : p.lines types s = p.ownLines s := by
  rw [lines, ownLines]
  cases levels : p.levels with
  | zero => simp [materialLines]
  | succ fewer =>
    rw [materialLines]
    by_cases again : p.record.id ∈ p.path
    · simp [again]
    · rcases Node.step?_eq_none_iff.1 unbroken with none | again' | primitive | leaf
      · omega
      · exact absurd again' again
      · simp [again, primitive, Conversion.of_primitive primitive]
      · by_cases primitive : p.record.groupId ∈ s.directGroups
        · simp [again, primitive, Conversion.of_primitive primitive]
        · simp [again, primitive, Conversion.of, leaf, Conversion.step?]

/-- What a quantity of a type gives is given by all that leads to it. -/
theorem lines_subset (meets : p.Meets types s q) : q.lines types s ⊆ p.lines types s := by
  induction meets using Relation.ReflTransGen.head_induction_on with
  | refl => exact fun _ member => member
  | head first _ ih =>
    obtain ⟨step, m, child, broken, -⟩ := mem_parts.1 first
    intro l member
    rw [lines_of_broken broken]
    exact List.mem_flatMap.2 ⟨_, first, ih member⟩

end Part

end ItemAppraisal
