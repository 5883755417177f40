import ItemAppraisal.Proofs.DepthLimit
import ItemAppraisal.Proofs.Ineligibility
import ItemAppraisal.Proofs.MaterialSteps
import Mathlib.Data.List.Chain
import Mathlib.Data.List.Nodup

/-!
# How deep types are nested

A type that is met again below itself is not broken down, so the types that are being broken down at a time are
different types of the catalog. That alone bounds both recursions (`nesting_bounded`): they are nested at most
one deeper than the catalog has types, whatever the limit on levels is, and any limit beyond that gives the same
materials and the same eligibility. On the way every product of two quantities fits an integer of 128 bits and
nothing is divided by zero.
-/

namespace ItemAppraisal

variable {types : TypeCatalog} {s : BuybackSettings}

/-! ## Paths -/

namespace TypeCatalog

/-- Types of the catalog, each once. -/
structure IsPath (types : TypeCatalog) (path : List Int) : Prop where
  distinct : path.Nodup
  known : path ⊆ types.records.map (·.id)

namespace IsPath

variable {path : List Int} {r : TypeRecord}

theorem nil : types.IsPath [] :=
  ⟨List.nodup_nil, List.nil_subset _⟩

theorem cons (sound : types.IsPath path) (fresh : r.id ∉ path) (entered : r ∈ types.records) :
    types.IsPath (r.id :: path) :=
  ⟨List.nodup_cons.2 ⟨fresh, sound.distinct⟩,
    List.cons_subset.2 ⟨List.mem_map_of_mem entered, sound.known⟩⟩

theorem length_le (sound : types.IsPath path) : path.length ≤ types.size := by
  have bound := (List.subperm_of_subset sound.distinct sound.known).length_le
  rwa [List.length_map, records, List.length_map] at bound

/-- Once all types of the catalog are on a path, every type is. -/
theorem mem_of_full (sound : types.IsPath path) (full : types.size ≤ path.length)
    (entered : r ∈ types.records) : r.id ∈ path := by
  by_contra fresh
  have longer := (sound.cons fresh entered).length_le
  rw [List.length_cons] at longer
  omega

end IsPath

end TypeCatalog

/-! ## Nested calls -/

/-- Types that are met below one another while it is decided whether a type is eligible, each right below the
one before. -/
def Node.Nested (types : TypeCatalog) (s : BuybackSettings) (calls : List Node) : Prop :=
  calls.IsChain fun n c => c ∈ n.children types s

/-- Quantities of types that are met below one another while an item is broken down. -/
def Part.Nested (types : TypeCatalog) (s : BuybackSettings) (calls : List Part) : Prop :=
  calls.IsChain fun p q => q ∈ p.parts types s

/-- A type of the catalog on a path of others. -/
structure Node.InCatalog (types : TypeCatalog) (n : Node) : Prop where
  path : types.IsPath n.path
  entered : n.record ∈ types.records

namespace Node

variable {n c : Node}

theorem inCatalog_child (sound : n.InCatalog types) (member : c ∈ n.children types s) :
    c.InCatalog types ∧ c.path.length = n.path.length + 1 := by
  obtain ⟨broken, m, -, child, known, rfl⟩ := mem_children.1 member
  obtain ⟨step, broken⟩ := Option.isSome_iff_exists.1 broken
  obtain ⟨-, fresh, -⟩ := step?_eq_some_iff.1 broken
  exact ⟨⟨sound.path.cons fresh sound.entered, TypeCatalog.mem_records_of_byId? known⟩, rfl⟩

/-- Each call lengthens the path by a type that is not on it yet. -/
theorem length_of_nested (sound : n.InCatalog types) {calls : List Node}
    (nested : Nested types s (n :: calls)) : n.path.length + calls.length ≤ types.size := by
  induction calls generalizing n with
  | nil => exact sound.path.length_le
  | cons c calls ih =>
    obtain ⟨member, rest⟩ := List.isChain_cons_cons.1 nested
    obtain ⟨sound', longer⟩ := inCatalog_child sound member
    have bound := ih sound' rest
    rw [List.length_cons]
    omega

end Node

theorem Part.nested_toNode {calls : List Part} (nested : Part.Nested types s calls) :
    Node.Nested types s (calls.map (·.toNode)) :=
  (List.isChain_map _).2 (nested.imp fun _ _ member => toNode_mem_children member)

/-! ## Arithmetic -/

namespace Quantity

/-- An integer that is one of 128 bits with a sign. -/
def FitsWide (n : Int) : Prop :=
  -170141183460469231731687303715884105728 ≤ n ∧ n ≤ 170141183460469231731687303715884105727

theorem fitsWide_mul {a b : Int} (ha : InRange a) (hb : InRange b) : FitsWide (a * b) := by
  have half (n : Int) (hn : InRange n) : n.natAbs ≤ 9223372036854775808 := by
    simp only [InRange, least, greatest] at hn
    omega
  have product : (a * b).natAbs ≤ 9223372036854775808 * 9223372036854775808 := by
    rw [Int.natAbs_mul]
    exact Nat.mul_le_mul (half a ha) (half b hb)
  rw [FitsWide]
  omega

end Quantity

namespace Part

variable {p q : Part}

/-- A quantity of a type whose conversion is exact in integers: the quantity and its portions are quantities
again, nothing is divided by zero, and what is converted has at most 128 bits. -/
structure Fits (p : Part) : Prop where
  quantity : Quantity.InRange p.quantity
  divisor : 0 < p.record.portion
  portions : Quantity.InRange (Int.tdiv p.quantity p.record.portion)
  product : ∀ m ∈ p.record.materials, Quantity.FitsWide (p.quantity * m.quantity)
  gross : ∀ m ∈ p.record.materials, Quantity.FitsWide (Int.tdiv (p.quantity * m.quantity) p.record.portion)

theorem fits (quantity : Quantity.InRange p.quantity)
    (materials : ∀ m ∈ p.record.materials, Quantity.InRange m.quantity) : p.Fits := by
  have divisor := p.record.portion_pos
  have product m (member : m ∈ p.record.materials) := Quantity.fitsWide_mul quantity (materials m member)
  exact {
    quantity, divisor, product
    portions := Quantity.tdiv_between (by decide) quantity divisor
    gross := fun m member => Quantity.tdiv_between (by decide) (product m member) divisor }

theorem inRange_of_meets (quantity : Quantity.InRange p.quantity) (meets : p.Meets types s q) :
    Quantity.InRange q.quantity := by
  cases meets with
  | refl => exact quantity
  | tail _ last =>
    obtain ⟨step, m, child, -, -, -, positive, rfl⟩ := mem_parts.1 last
    exact ⟨Int.le_trans (by decide) (Int.le_of_lt positive), floorQuantity_le _⟩

theorem inCatalog_of_meets (sound : p.InCatalog types) (meets : p.Meets types s q) : q.InCatalog types := by
  induction meets with
  | refl => exact sound
  | tail _ next ih => exact (Node.inCatalog_child ih (toNode_mem_children next)).1

end Part

/-! ## Enough levels -/

/-- A type of the catalog that is not on a path of others finds a level left, if there are as many as types that
are not on the path; and so do the types below it. -/
theorem TypeCatalog.IsPath.exists_more {path : List Int} {r : TypeRecord} {levels : Nat}
    (sound : types.IsPath path) (fresh : r.id ∉ path) (entered : r ∈ types.records)
    (enough : types.size ≤ path.length + levels) :
    ∃ more, levels = more + 1 ∧ types.size ≤ (r.id :: path).length + more := by
  cases levels with
  | zero => exact absurd (sound.mem_of_full enough entered) fresh
  | succ more =>
    refine ⟨more, rfl, ?_⟩
    rw [List.length_cons]
    omega

section

variable {levels levels' : Nat} {path : List Int} {r : TypeRecord}

theorem materialLines_of_again (again : r.id ∈ path) (levels : Nat) (origin : Option Step) (quantity : Int) :
    materialLines types s levels path origin r quantity = leafLines r quantity origin := by
  cases levels with
  | zero => rfl
  | succ levels => rw [materialLines, if_pos (List.contains_iff_mem.2 again)]

theorem reducesWithin_of_again (again : r.id ∈ path) (levels : Nat) :
    reducesWithin types s levels path r = s.directGroups.contains r.groupId := by
  cases levels with
  | zero => rfl
  | succ levels => simp [reducesWithin, again]

/-- A type without a step does not ask how many more levels there are. -/
theorem materialLines_of_stuck (stuck : (Conversion.of s r).step? = none) (origin : Option Step) (quantity : Int) :
    materialLines types s (levels + 1) path origin r quantity =
      materialLines types s (levels' + 1) path origin r quantity := by
  cases conversion : Conversion.of s r with
  | direct => simp only [materialLines, conversion]
  | leaf => simp only [materialLines, conversion, Conversion.step?]
  | refine rate => rw [conversion] at stuck; cases stuck
  | reprocess rate => rw [conversion] at stuck; cases stuck

/-- The levels beyond the types that are not on the path yet are never reached. By induction on the levels: with
none left all types are on the path, and a step takes one level and puts one type on it. -/
theorem materialLines_of_enough (sound : types.IsPath path) (entered : r ∈ types.records)
    (enough : types.size ≤ path.length + levels) (enough' : types.size ≤ path.length + levels')
    (origin : Option Step) (quantity : Int) :
    materialLines types s levels path origin r quantity =
      materialLines types s levels' path origin r quantity := by
  induction levels generalizing levels' path origin r quantity with
  | zero =>
    have again := sound.mem_of_full enough entered
    rw [materialLines_of_again again, materialLines_of_again again]
  | succ levels ih =>
    by_cases again : r.id ∈ path
    · rw [materialLines_of_again again, materialLines_of_again again]
    · obtain ⟨_, ⟨⟩, below⟩ := sound.exists_more again entered enough
      obtain ⟨more, rfl, below'⟩ := sound.exists_more again entered enough'
      cases converted : (Conversion.of s r).step? with
      | none => exact materialLines_of_stuck converted origin quantity
      | some step =>
        rw [materialLines_of_step again converted, materialLines_of_step again converted]
        refine List.flatMap_congr fun m _ => ?_
        rw [partLines, partLines]
        cases known : types.byId? m.typeId with
        | none => rfl
        | some child =>
          have child' := TypeCatalog.mem_records_of_byId? known
          simp only [ih (sound.cons again entered) child' below below']

theorem reducesWithin_of_enough (sound : types.IsPath path) (entered : r ∈ types.records)
    (enough : types.size ≤ path.length + levels) (enough' : types.size ≤ path.length + levels') :
    reducesWithin types s levels path r = reducesWithin types s levels' path r := by
  induction levels generalizing levels' path r with
  | zero =>
    have again := sound.mem_of_full enough entered
    rw [reducesWithin_of_again again, reducesWithin_of_again again]
  | succ levels ih =>
    by_cases again : r.id ∈ path
    · rw [reducesWithin_of_again again, reducesWithin_of_again again]
    · obtain ⟨_, ⟨⟩, below⟩ := sound.exists_more again entered enough
      obtain ⟨more, rfl, below'⟩ := sound.exists_more again entered enough'
      rw [reducesWithin, reducesWithin]
      congr 3
      funext m
      cases known : types.byId? m.typeId with
      | none => rfl
      | some child =>
        have child' := TypeCatalog.mem_records_of_byId? known
        exact ih (sound.cons again entered) child' below below'

end

/-- The path alone bounds both recursions: types are nested at most one deeper than the catalog has types, over
quantities that all fit, and limits beyond that do not make a difference. -/
theorem nesting_bounded {r : TypeRecord} (entered : r ∈ types.records) :
    (∀ calls, Node.Nested types s (.start s r :: calls) →
      (Node.start s r :: calls).length ≤ types.size + 1) ∧
    (∀ quantity calls, Part.Nested types s (.start s r quantity :: calls) →
      (Part.start s r quantity :: calls).length ≤ types.size + 1) ∧
    (∀ quantity, Quantity.InRange quantity →
      (∀ t ∈ types.records, ∀ m ∈ t.materials, Quantity.InRange m.quantity) →
      ∀ p, (Part.start s r quantity).Meets types s p → p.Fits) ∧
    ∀ levels levels', types.size + 1 ≤ levels → types.size + 1 ≤ levels' →
      isEligible types (s.withDepth levels) r = isEligible types (s.withDepth levels') r ∧
      ∀ quantity, decompose types (s.withDepth levels) r quantity =
        decompose types (s.withDepth levels') r quantity := by
  have sound : (Node.start s r).InCatalog types := ⟨.nil, entered⟩
  have bound {calls : List Node} (nested : Node.Nested types s (.start s r :: calls)) :
      calls.length ≤ types.size := by
    have longest := Node.length_of_nested sound nested
    rwa [Node.start, List.length_nil, Nat.zero_add] at longest
  refine ⟨fun calls nested => ?_, fun quantity calls nested => ?_, fun quantity inRange materials p meets => ?_,
    fun levels levels' enough enough' => ⟨?_, fun quantity => ?_⟩⟩
  · exact Nat.succ_le_succ (bound nested)
  · have types := bound (Part.nested_toNode nested)
    rw [List.length_map] at types
    exact Nat.succ_le_succ types
  · have known := (Part.inCatalog_of_meets (p := .start s r quantity) sound meets).entered
    exact Part.fits (Part.inRange_of_meets inRange meets) (materials p.record known)
  · rw [isEligible_withDepth, isEligible_withDepth]
    exact reducesWithin_of_enough .nil entered (by rw [List.length_nil]; omega) (by rw [List.length_nil]; omega)
  · rw [decompose_withDepth, decompose_withDepth]
    exact congrArg _ (materialLines_of_enough .nil entered (by simp; omega) (by simp; omega) none quantity)

open WidgetReport in
/-- Widgets that come out of their own gadgets, with as few levels as there can be and with many. -/
theorem nesting_bounded_widget :
    widget ∈ catalog.records ∧ catalog.size = 3 ∧
    Part.Nested catalog settings
      [.start settings widget 10, part 7 [100] gadget 11, part 6 [101, 100] widget 12] ∧
    [Part.start settings widget 10, part 7 [100] gadget 11, part 6 [101, 100] widget 12].length ≤
      catalog.size + 1 ∧
    Quantity.InRange 10 ∧ (∀ t ∈ catalog.records, ∀ m ∈ t.materials, Quantity.InRange m.quantity) ∧
    (∀ p, (Part.start settings widget 10).Meets catalog settings p → p.Fits) ∧
    isEligible catalog (settings.withDepth 4) widget = isEligible catalog (settings.withDepth 1000) widget ∧
    decompose catalog (settings.withDepth 4) widget 10 =
      decompose catalog (settings.withDepth 1000) widget 10 := by
  have entered : widget ∈ catalog.records := TypeCatalog.mem_records_of_byId? byId?_widget
  have size : catalog.size = 3 := by decide +kernel
  have nested : Part.Nested catalog settings
      [.start settings widget 10, part 7 [100] gadget 11, part 6 [101, 100] widget 12] := by
    refine List.isChain_cons_cons.2 ⟨?_, List.isChain_cons_cons.2 ⟨?_, List.isChain_singleton _⟩⟩
    · rw [parts_widget]
      exact List.mem_cons_self
    · rw [parts_gadget]
      exact List.mem_cons_self
  have quantity : Quantity.InRange 10 := by decide
  have materials : ∀ t ∈ catalog.records, ∀ m ∈ t.materials, Quantity.InRange m.quantity := by decide +kernel
  obtain ⟨-, length, fits, limits⟩ := nesting_bounded (s := settings) entered
  have four : catalog.size + 1 ≤ 4 := by rw [size]
  obtain ⟨eligible, baskets⟩ := limits 4 1000 four (Nat.le_trans four (by decide))
  exact ⟨entered, size, nested, length 10 _ nested, quantity, materials, fits 10 quantity materials, eligible,
    baskets 10⟩

end ItemAppraisal
