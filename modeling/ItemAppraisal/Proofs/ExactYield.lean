import ItemAppraisal.Proofs.Ineligibility
import Mathlib.Algebra.Order.BigOperators.Group.List
import Mathlib.Data.Rat.Floor

/-!
# Stacks broken down together

Whole units are lost in every step, so a stack that is broken down in two parts may give less than the whole
stack. It never gives more (`merged_gives_no_less`), provided that the quantities are computed exactly: a
product of doubles may round up to the next whole unit.

An item is broken down here by steps that give what any `Yield` says. With one that agrees with doubles on all
that is met these are the materials of the item (`Yield.basket_eq_decompose`). For exact yields one relation
(`Covers`) holds of all that is computed on the way down, whether a quantity is divided by portions, loses
units in a step, or is added up over several ways to a type.
-/

namespace ItemAppraisal

variable {types : TypeCatalog} {s : BuybackSettings}

theorem Part.nonneg_ownLines {p : Part} (nonneg : 0 ≤ p.quantity) : ∀ l ∈ p.ownLines s, 0 ≤ l.quantity := by
  intro l member
  rw [Part.ownLines] at member
  split at member
  · rw [List.mem_singleton.1 member]
    exact Int.tdiv_nonneg nonneg (Int.le_of_lt p.record.portion_pos)
  · obtain ⟨step, -, rfl⟩ := mem_leafLines.1 member
    exact nonneg

/-! ## Yields -/

/-- What a step gives of a material, by the quantity that is converted, the portion of its type and what a
portion holds of the material. -/
abbrev Yield := Step → Int → Int → Int → Int

namespace Yield

/-- The yield of doubles. -/
def computed : Yield := fun step quantity portion material =>
  materialQuantity quantity portion material step.2

/-- The yield of exact numbers: the whole units before losses, and of those the whole units after, by the rates
of the steps in percent. -/
def exact (rates : Qualifier → ℚ) : Yield := fun step quantity portion material =>
  ⌊(⌊(quantity * material : ℚ) / (max portion 1 : Int)⌋ : ℚ) * rates step.1 / 100⌋

section

variable (yield : Yield) (types : TypeCatalog) (s : BuybackSettings)

/-- The materials of a quantity of a type, in the order in which they are found. -/
def lines : Nat → List Int → Option Step → TypeRecord → Int → List MaterialLine
  | 0, _, origin, r, quantity => leafLines r quantity origin
  | levels + 1, path, origin, r, quantity =>
    match stepBelow? s path r with
    | none => Part.ownLines s ⟨⟨levels + 1, path, r⟩, origin, quantity⟩
    | some step =>
      r.materials.flatMap fun m =>
        match types.byId? m.typeId with
        | none => []
        | some child =>
          let part := yield step quantity r.portion m.quantity
          if part ≤ 0 then [] else lines levels (r.id :: path) (some step) child part

/-- The basket of materials of a quantity of a type. -/
def basket (r : TypeRecord) (quantity : Int) : Basket :=
  Basket.empty.addAll (yield.lines types s s.maxDepth [] none r quantity)

end

end Yield

/-- A yield gives of a quantity of a type what doubles give. -/
def Part.AgreesWith (s : BuybackSettings) (yield : Yield) (p : Part) : Prop :=
  ∀ step, p.step? s = some step → ∀ m ∈ p.record.materials,
    yield step p.quantity p.record.portion m.quantity = p.share step m

namespace Yield

variable {yield : Yield}

/-- By induction on the levels; what is met below a part that is followed is met below the whole. -/
theorem lines_eq {p : Part} (agrees : ∀ q, p.Meets types s q → q.AgreesWith s yield) :
    yield.lines types s p.levels p.path p.origin p.record p.quantity = p.lines types s := by
  induction levels : p.levels generalizing p with
  | zero =>
    rw [Part.lines, levels]
    rfl
  | succ fewer ih =>
    have same : stepBelow? s p.path p.record = p.step? s := by rw [Node.step?, if_neg (by omega)]
    rw [lines, same]
    cases broken : p.step? s with
    | none =>
      rw [Part.lines_of_unbroken broken, ← levels]
    | some step =>
      rw [Part.lines_of_broken broken, Part.parts, broken]
      simp only [List.flatMap_assoc]
      refine List.flatMap_congr fun m ingredient => ?_
      cases known : types.byId? m.typeId with
      | none => rfl
      | some child =>
        rw [Option.toList_some, List.flatMap_singleton, agrees p .refl step broken m ingredient]
        by_cases gone : p.share step m ≤ 0
        · simp only [if_pos gone, List.flatMap_nil]
        · have given : p.part step m child ∈ p.parts types s :=
            Part.mem_parts.2 ⟨step, m, child, broken, ingredient, known, Int.not_le.1 gone, rfl⟩
          have next : (p.part step m child).levels = fewer := by simp [Part.part, Node.below, levels]
          simp only [if_neg gone, List.flatMap_singleton]
          exact ih (fun q meets => agrees q (.head given meets)) next

theorem basket_eq_decompose {r : TypeRecord} {quantity : Int}
    (agrees : ∀ p, (Part.start s r quantity).Meets types s p → p.AgreesWith s yield) :
    yield.basket types s r quantity = decompose types s r quantity := by
  have lines : yield.lines types s s.maxDepth [] none r quantity =
      materialLines types s s.maxDepth [] none r quantity := lines_eq agrees
  rw [basket, lines, decompose, decomposeInto_eq_addAll]

/-- No material is a negative quantity, since no part is followed that gives nothing. -/
theorem nonneg_lines (yield : Yield) {levels : Nat} {path : List Int} {origin : Option Step} {r : TypeRecord}
    {quantity : Int} (nonneg : 0 ≤ quantity) :
    ∀ l ∈ yield.lines types s levels path origin r quantity, 0 ≤ l.quantity := by
  induction levels generalizing path origin r quantity with
  | zero =>
    intro l member
    obtain ⟨step, -, rfl⟩ := mem_leafLines.1 member
    exact nonneg
  | succ levels ih =>
    intro l member
    rw [lines] at member
    cases broken : stepBelow? s path r with
    | none =>
      rw [broken] at member
      exact Part.nonneg_ownLines nonneg l member
    | some step =>
      rw [broken] at member
      obtain ⟨m, -, inside⟩ := List.mem_flatMap.1 member
      cases known : types.byId? m.typeId with
      | none => rw [known] at inside; cases inside
      | some child =>
        rw [known] at inside
        by_cases gone : yield step quantity r.portion m.quantity ≤ 0
        · simp only [if_pos gone] at inside
          cases inside
        · simp only [if_neg gone] at inside
          exact ih (Int.le_of_lt (Int.not_le.1 gone)) l inside

end Yield

/-! ## Units of a type -/

/-- The units of a type in lines. -/
def unitsOf (id : Int) (lines : List MaterialLine) : Int :=
  ((lines.filter (·.typeId == id)).map (·.quantity)).sum

theorem unitsOf_nil (id : Int) : unitsOf id [] = 0 := rfl

theorem unitsOf_ofStep (id : Int) (r : TypeRecord) (quantity : Int) (step : Step) :
    unitsOf id [.ofStep r quantity step] = if r.id = id then quantity else 0 := by
  by_cases own : r.id = id <;> simp [unitsOf, MaterialLine.ofStep, own]

theorem unitsOf_flatMap {α : Type} (id : Int) (xs : List α) (f : α → List MaterialLine) :
    unitsOf id (xs.flatMap f) = (xs.map fun x => unitsOf id (f x)).sum := by
  induction xs with
  | nil => rfl
  | cons x xs ih =>
    rw [List.map_cons, List.sum_cons, ← ih, List.flatMap_cons, unitsOf, List.filter_append, List.map_append,
      List.sum_append]
    rfl

/-- The units of a type in a basket. -/
def Basket.units (b : Basket) (id : Int) : Int :=
  ((b.line? id).map (·.quantity)).getD 0

theorem Quantity.greatest_le_foldl_add {amounts : List Int} {start : Int} (full : greatest ≤ start)
    (nonneg : ∀ a ∈ amounts, 0 ≤ a) : greatest ≤ amounts.foldl add start := by
  induction amounts generalizing start with
  | nil => exact full
  | cons a amounts ih =>
    obtain ⟨head, tail⟩ := List.forall_mem_cons.1 nonneg
    refine ih ?_ tail
    simp only [add, saturate, least, greatest] at full ⊢
    omega

/-- A basket holds the sum of its lines unless the sum is beyond the range. -/
theorem Basket.units_addAll {lines : List MaterialLine} (nonneg : ∀ l ∈ lines, 0 ≤ l.quantity) (id : Int) :
    (unitsOf id lines ≤ Quantity.greatest → (empty.addAll lines).units id = unitsOf id lines) ∧
    (Quantity.greatest < unitsOf id lines → Quantity.greatest ≤ (empty.addAll lines).units id) := by
  have own : ∀ l ∈ lines.filter (·.typeId == id), 0 ≤ l.quantity := fun l member =>
    nonneg l (List.mem_of_mem_filter member)
  have start : empty.line? id = none := rfl
  rw [units, line?_addAll, start, unitsOf]
  cases row : lines.filter (·.typeId == id) with
  | nil => exact ⟨fun _ => rfl, fun none => absurd none (by decide)⟩
  | cons l rest =>
    rw [row] at own
    obtain ⟨first, others⟩ := List.forall_mem_cons.1 own
    have amounts : ∀ a ∈ rest.map (·.quantity), 0 ≤ a := List.forall_mem_map.2 others
    have more := List.sum_nonneg amounts
    rw [MaterialLine.addUp_none_cons, MaterialLine.foldl_absorb, Option.map_some, Option.getD_some,
      List.map_cons, List.sum_cons]
    dsimp only
    by_cases bounded : l.quantity ≤ Quantity.greatest
    · have total := Quantity.foldl_add first bounded amounts
      rw [← List.sum] at total
      omega
    · have full := Quantity.greatest_le_foldl_add (Int.le_of_not_le bounded) amounts
      omega

/-! ## Amounts that are covered -/

/-- A function of amounts gives of two amounts no more than another function gives of both together. -/
structure Covers (g f : Int → Int) : Prop where
  nonneg : ∀ a, 0 ≤ a → 0 ≤ f a
  add : ∀ a b c, 0 ≤ a → 0 ≤ b → a + b ≤ c → f a + f b ≤ g c

namespace Covers

variable {f f' g g' : Int → Int}

theorem mono (covers : Covers g f) {a c : Int} (ha : 0 ≤ a) (le : a ≤ c) : f a ≤ g c := by
  have none := covers.nonneg 0 (Int.le_refl 0)
  have both := covers.add a 0 c ha (Int.le_refl 0) (by omega)
  omega

theorem whole_nonneg (covers : Covers g f) {c : Int} (hc : 0 ≤ c) : 0 ≤ g c :=
  Int.le_trans (covers.nonneg c hc) (covers.mono hc (Int.le_refl c))

theorem zero : Covers (fun _ => 0) (fun _ => 0) :=
  ⟨fun _ _ => Int.le_refl 0, fun _ _ _ _ _ _ => Int.le_refl 0⟩

theorem refl : Covers (fun a => a) (fun a => a) :=
  ⟨fun _ ha => ha, fun _ _ _ _ _ le => le⟩

theorem comp (outer : Covers g' f') (inner : Covers g f) : Covers (fun a => g' (g a)) (fun a => f' (f a)) where
  nonneg a ha := outer.nonneg _ (inner.nonneg a ha)
  add a b c ha hb le := outer.add _ _ _ (inner.nonneg a ha) (inner.nonneg b hb) (inner.add a b c ha hb le)

theorem tdiv {divisor : Int} (positive : 0 < divisor) :
    Covers (fun a => Int.tdiv a divisor) (fun a => Int.tdiv a divisor) where
  nonneg a ha := Int.tdiv_nonneg ha (Int.le_of_lt positive)
  add a b c ha hb le := by
    rw [Int.tdiv_eq_ediv_of_nonneg ha, Int.tdiv_eq_ediv_of_nonneg hb, Int.tdiv_eq_ediv_of_nonneg (by omega),
      Int.le_ediv_iff_mul_le positive]
    have used := Int.ediv_mul_le a (Int.ne_of_gt positive)
    have used' := Int.ediv_mul_le b (Int.ne_of_gt positive)
    rw [Int.add_mul]
    omega

/-- Whole units of amounts times a factor. -/
theorem floor_mul {x y : ℚ} (nonneg : 0 ≤ x) (le : x ≤ y) :
    Covers (fun a => ⌊(a : ℚ) * y⌋) (fun a => ⌊(a : ℚ) * x⌋) where
  nonneg a ha := Int.floor_nonneg.2 (mul_nonneg (Int.cast_nonneg ha) nonneg)
  add a b c ha hb sum := by
    have whole : (0 : ℚ) ≤ c := Int.cast_nonneg (by omega)
    refine Int.le_floor.2 ?_
    push_cast
    calc (⌊(a : ℚ) * x⌋ : ℚ) + ⌊(b : ℚ) * x⌋
      _ ≤ a * x + b * x := add_le_add (Int.floor_le _) (Int.floor_le _)
      _ = (a + b : Int) * x := by push_cast; ring
      _ ≤ c * x := mul_le_mul_of_nonneg_right (Int.cast_le.2 sum) nonneg
      _ ≤ c * y := mul_le_mul_of_nonneg_left le whole

/-- What is not negative anyway may be cut off at zero. -/
theorem cut (covers : Covers g f) : Covers (fun a => max 0 (g a)) (fun a => max 0 (f a)) where
  nonneg a _ := Int.le_max_left _ _
  add a b c ha hb le := by
    have both := covers.add a b c ha hb le
    have first := covers.nonneg a ha
    have second := covers.nonneg b hb
    omega

theorem cut_of_nonpos (none : ∀ a, 0 ≤ a → f a ≤ 0) : Covers (fun a => max 0 (g a)) (fun a => max 0 (f a)) where
  nonneg a _ := Int.le_max_left _ _
  add a b c ha hb _ := by
    have first := none a ha
    have second := none b hb
    omega

/-- Parts that are followed only if there are any units of them. -/
theorem parts (outer : Covers g' f') (inner : Covers (fun a => max 0 (g a)) (fun a => max 0 (f a))) :
    Covers (fun a => if g a ≤ 0 then 0 else g' (g a)) (fun a => if f a ≤ 0 then 0 else f' (f a)) where
  nonneg a _ := by
    split
    · exact Int.le_refl 0
    · exact outer.nonneg _ (by omega)
  add a b c ha hb le := by
    have both := inner.add a b c ha hb le
    by_cases none : g c ≤ 0
    · rw [if_pos (by omega), if_pos (by omega), if_pos none]
      exact Int.le_refl 0
    · rw [if_neg none]
      by_cases noneOfA : f a ≤ 0
      · rw [if_pos noneOfA, Int.zero_add]
        split
        · exact outer.whole_nonneg (by omega)
        · exact outer.mono (by omega) (by omega)
      · rw [if_neg noneOfA]
        split
        · rw [Int.add_zero]
          exact outer.mono (by omega) (by omega)
        · exact outer.add _ _ _ (by omega) (by omega) (by omega)

theorem sum {α : Type} {xs : List α} {f g : α → Int → Int} (each : ∀ x ∈ xs, Covers (g x) (f x)) :
    Covers (fun a => (xs.map (g · a)).sum) (fun a => (xs.map (f · a)).sum) where
  nonneg a ha := List.sum_nonneg (List.forall_mem_map.2 fun x member => (each x member).nonneg a ha)
  add a b c ha hb le := by
    rw [← List.sum_map_add]
    exact List.sum_le_sum fun x member => (each x member).add a b c ha hb le

end Covers

/-! ## What covers what -/

theorem covers_ofStep (id : Int) (r : TypeRecord) (step : Step) {f : Int → Int} (covers : Covers f f) :
    Covers (fun a => unitsOf id [.ofStep r (f a) step]) (fun a => unitsOf id [.ofStep r (f a) step]) := by
  simp only [unitsOf_ofStep]
  by_cases own : r.id = id
  · simpa only [if_pos own] using covers
  · simpa only [if_neg own] using Covers.zero

theorem covers_leafLines (id : Int) (r : TypeRecord) (origin : Option Step) :
    Covers (fun a => unitsOf id (leafLines r a origin)) (fun a => unitsOf id (leafLines r a origin)) := by
  cases origin with
  | none => exact Covers.zero
  | some step => exact covers_ofStep id r step .refl

theorem covers_ownLines (id : Int) (n : Node) (origin : Option Step) :
    Covers (fun a => unitsOf id (Part.ownLines s ⟨n, origin, a⟩))
      (fun a => unitsOf id (Part.ownLines s ⟨n, origin, a⟩)) := by
  simp only [Part.ownLines]
  split
  · exact covers_ofStep id n.record _ (.tdiv n.record.portion_pos)
  · exact covers_leafLines id n.record origin

section

variable {rates rates' : Qualifier → ℚ} (nonneg : ∀ q, 0 ≤ rates q) (raised : ∀ q, rates q ≤ rates' q)
include nonneg raised

/-- A step loses less of a larger quantity and at a higher rate. Of a material that a type holds a negative
quantity of it gives nothing. -/
theorem Yield.covers_exact (step : Step) (portion material : Int) :
    Covers (fun a => max 0 (exact rates' step a portion material))
      (fun a => max 0 (exact rates step a portion material)) := by
  have divisor : (0 : ℚ) ≤ (max portion 1 : Int) := Int.cast_nonneg (by omega)
  have low : 0 ≤ rates step.1 / 100 := div_nonneg (nonneg step.1) (by norm_num)
  have high : rates step.1 / 100 ≤ rates' step.1 / 100 :=
    div_le_div_of_nonneg_right (raised step.1) (by norm_num)
  simp only [exact, mul_div_assoc]
  rcases Int.le_total 0 material with held | negative
  · have content : (0 : ℚ) ≤ material / (max portion 1 : Int) := div_nonneg (Int.cast_nonneg held) divisor
    exact ((Covers.floor_mul low high).comp (Covers.floor_mul content le_rfl)).cut
  · refine Covers.cut_of_nonpos fun a ha => ?_
    have content : (material : ℚ) / (max portion 1 : Int) ≤ 0 :=
      div_nonpos_of_nonpos_of_nonneg (Int.cast_nonpos.2 negative) divisor
    have gross : ⌊(a : ℚ) * (material / (max portion 1 : Int))⌋ ≤ 0 :=
      Int.floor_nonpos (mul_nonpos_of_nonneg_of_nonpos (Int.cast_nonneg ha) content)
    exact Int.floor_nonpos (mul_nonpos_of_nonpos_of_nonneg (Int.cast_nonpos.2 gross) low)

/-- By induction on the levels; the two runs take the same steps, and a part of one may be cut off where the
other one still gives some units. -/
theorem covers_lines (id : Int) (levels : Nat) (path : List Int) (origin : Option Step) (r : TypeRecord) :
    Covers (fun a => unitsOf id ((Yield.exact rates').lines types s levels path origin r a))
      (fun a => unitsOf id ((Yield.exact rates).lines types s levels path origin r a)) := by
  induction levels generalizing path origin r with
  | zero => exact covers_leafLines id r origin
  | succ levels ih =>
    simp only [Yield.lines]
    cases stepBelow? s path r with
    | none => exact covers_ownLines id ⟨levels + 1, path, r⟩ origin
    | some step =>
      simp only [unitsOf_flatMap]
      refine Covers.sum fun m _ => ?_
      cases types.byId? m.typeId with
      | none => exact Covers.zero
      | some child =>
        simp only [apply_ite (unitsOf id), unitsOf_nil]
        exact (ih (r.id :: path) (some step) child).parts
          (Yield.covers_exact nonneg raised step r.portion m.quantity)

/-- The units of a type that stay below the end of the range are all the units that were found. -/
theorem units_basket {r : TypeRecord} {a b c : Int} (ha : 0 ≤ a) (hb : 0 ≤ b) (le : a + b ≤ c) {id : Int}
    (below : ((Yield.exact rates').basket types s r c).units id < Quantity.greatest) :
    0 ≤ ((Yield.exact rates).basket types s r b).units id ∧
    ((Yield.exact rates).basket types s r a).units id + ((Yield.exact rates).basket types s r b).units id ≤
      ((Yield.exact rates').basket types s r c).units id := by
  have hc : 0 ≤ c := by omega
  have covers : Covers (fun a => unitsOf id ((Yield.exact rates').lines types s s.maxDepth [] none r a))
      (fun a => unitsOf id ((Yield.exact rates).lines types s s.maxDepth [] none r a)) :=
    covers_lines nonneg raised id s.maxDepth [] none r
  have first := covers.nonneg a ha
  have second := covers.nonneg b hb
  have both := covers.add a b c ha hb le
  have found (rates : Qualifier → ℚ) (quantity : Int) (hq : 0 ≤ quantity) :
      ∀ l ∈ (Yield.exact rates).lines types s s.maxDepth [] none r quantity, 0 ≤ l.quantity :=
    Yield.nonneg_lines _ hq
  have whole := Basket.units_addAll (found rates' c hc) id
  have bounded : unitsOf id ((Yield.exact rates').lines types s s.maxDepth [] none r c) ≤ Quantity.greatest := by
    by_contra beyond
    exact absurd (whole.2 (Int.not_le.1 beyond)) (Int.not_le.2 below)
  have part := Basket.units_addAll (found rates a ha) id
  have rest := Basket.units_addAll (found rates b hb) id
  rw [Yield.basket, Yield.basket, Yield.basket, whole.1 bounded, part.1 (by omega), rest.1 (by omega)]
  exact ⟨second, both⟩

end

/-- A stack gives of every type at least as much as parts of it, and at least as much at higher rates, where
quantities are exact. They are those of the item wherever doubles do not round to other units. -/
theorem merged_gives_no_less {rates : Qualifier → ℚ} (nonneg : ∀ q, 0 ≤ rates q) (r : TypeRecord) {a b : Int}
    (ha : 0 ≤ a) (hb : 0 ≤ b) (id : Int) :
    (∀ quantity, Yield.computed.basket types s r quantity = decompose types s r quantity ∧
      ((∀ p, (Part.start s r quantity).Meets types s p → p.AgreesWith s (Yield.exact rates)) →
        (Yield.exact rates).basket types s r quantity = decompose types s r quantity)) ∧
    (((Yield.exact rates).basket types s r (a + b)).units id < Quantity.greatest →
      ((Yield.exact rates).basket types s r a).units id ≤
        ((Yield.exact rates).basket types s r (a + b)).units id ∧
      ((Yield.exact rates).basket types s r a).units id + ((Yield.exact rates).basket types s r b).units id ≤
        ((Yield.exact rates).basket types s r (a + b)).units id) ∧
    ∀ rates' : Qualifier → ℚ, (∀ q, rates q ≤ rates' q) →
      ((Yield.exact rates').basket types s r a).units id < Quantity.greatest →
      ((Yield.exact rates).basket types s r a).units id ≤
        ((Yield.exact rates').basket types s r a).units id := by
  refine ⟨fun quantity => ⟨?_, Yield.basket_eq_decompose⟩, fun below => ?_, fun rates' raised below => ?_⟩
  · exact Yield.basket_eq_decompose fun _ _ _ _ _ _ => rfl
  · obtain ⟨rest, both⟩ := units_basket nonneg (fun _ => le_rfl) ha hb le_rfl below
    exact ⟨by omega, both⟩
  · obtain ⟨rest, both⟩ := units_basket nonneg raised ha (Int.le_refl 0) (by omega) below
    omega

namespace WidgetReport

/-- Doubles do not round while ten widgets are broken down. -/
theorem agrees_of_meets {p : Part} (meets : (Part.start settings widget 10).Meets catalog settings p) :
    p.AgreesWith settings (Yield.exact fun _ => 55) := by
  intro step broken m ingredient
  obtain ⟨rfl, ⟨rfl, rfl | rfl⟩ | ⟨rfl, rfl | rfl⟩⟩ := steps_of_meets meets broken ingredient
  · decide +kernel
  · decide +kernel
  · decide +kernel
  · decide +kernel

/-- The minerals that widgets give, by what each step gives: gadgets and minerals, and the gadgets give widgets
again and more minerals. -/
theorem units_exact {rates : Qualifier → ℚ} {quantity gadgets minerals widgets more : Int}
    (first : Yield.exact rates (.reprocess, 55) quantity 1 2 = gadgets) (anyGadgets : 0 < gadgets)
    (second : Yield.exact rates (.reprocess, 55) quantity 1 5 = minerals) (anyMinerals : 0 < minerals)
    (third : Yield.exact rates (.reprocess, 55) gadgets 1 2 = widgets) (anyWidgets : 0 < widgets)
    (fourth : Yield.exact rates (.reprocess, 55) gadgets 1 3 = more) (anyMore : 0 < more) :
    ((Yield.exact rates).basket catalog settings widget quantity).units 34 = Quantity.add more minerals := by
  have ofWidget : stepBelow? settings [] widget = some (.reprocess, 55) := rfl
  have ofGadget : stepBelow? settings [widget.id] gadget = some (.reprocess, 55) := rfl
  have again : stepBelow? settings [gadget.id, widget.id] widget = none := rfl
  have primitive (path : List Int) : stepBelow? settings path mineral = none := by
    rw [stepBelow?]
    split <;> rfl
  have portions : widget.portion = 1 ∧ gadget.portion = 1 := ⟨rfl, rfl⟩
  have materials : widget.materials = [⟨101, 2⟩, ⟨34, 5⟩] ∧ gadget.materials = [⟨100, 2⟩, ⟨34, 3⟩] := ⟨rfl, rfl⟩
  have lines : (Yield.exact rates).lines catalog settings (7 + 1) [] none widget quantity =
      [.ofStep widget widgets (.reprocess, 55), .ofStep mineral (Int.tdiv more 1) (.reprocess, 55),
        .ofStep mineral (Int.tdiv minerals 1) (.reprocess, 55)] := by
    simp only [Yield.lines, ofWidget, ofGadget, again, primitive, portions, materials, List.flatMap_cons,
      List.flatMap_nil, byId?_gadget, byId?_mineral, byId?_widget, first, second, third, fourth,
      if_neg (Int.not_le.2 anyGadgets), if_neg (Int.not_le.2 anyMinerals), if_neg (Int.not_le.2 anyWidgets),
      if_neg (Int.not_le.2 anyMore)]
    rfl
  have levels : settings.maxDepth = 7 + 1 := rfl
  rw [Yield.basket, levels, lines, Int.tdiv_one, Int.tdiv_one]
  rfl

end WidgetReport

open WidgetReport in
/-- Ten widgets in doubles and in exact numbers, nine and eight widgets against seventeen at once, and nine
of them at a higher rate. -/
theorem merged_gives_no_less_widget :
    let low := Yield.exact fun _ => 55
    let high := Yield.exact fun _ => 70
    (∀ _ : Qualifier, (0 : ℚ) ≤ 55) ∧ (0 : Int) ≤ 9 ∧ (0 : Int) ≤ 8 ∧
    (∀ p, (Part.start settings widget 10).Meets catalog settings p → p.AgreesWith settings low) ∧
    low.basket catalog settings widget 10 = decompose catalog settings widget 10 ∧
    (low.basket catalog settings widget (9 + 8)).units 34 < Quantity.greatest ∧
    (low.basket catalog settings widget 9).units 34 + (low.basket catalog settings widget 8).units 34 ≤
      (low.basket catalog settings widget (9 + 8)).units 34 ∧
    (∀ _ : Qualifier, (55 : ℚ) ≤ 70) ∧
    (high.basket catalog settings widget 9).units 34 < Quantity.greatest ∧
    (low.basket catalog settings widget 9).units 34 ≤ (high.basket catalog settings widget 9).units 34 := by
  intro low high
  have nonneg : ∀ _ : Qualifier, (0 : ℚ) ≤ 55 := fun _ => by norm_num
  have raised : ∀ _ : Qualifier, (55 : ℚ) ≤ 70 := fun _ => by norm_num
  have all : (low.basket catalog settings widget (9 + 8)).units 34 = Quantity.add 29 46 := by
    have gadgets : low (.reprocess, 55) (9 + 8) 1 2 = 18 := by decide +kernel
    have minerals : low (.reprocess, 55) (9 + 8) 1 5 = 46 := by decide +kernel
    have widgets : low (.reprocess, 55) 18 1 2 = 19 := by decide +kernel
    have more : low (.reprocess, 55) 18 1 3 = 29 := by decide +kernel
    exact units_exact gadgets (by decide) minerals (by decide) widgets (by decide) more (by decide)
  have raisedAll : (high.basket catalog settings widget 9).units 34 = Quantity.add 25 31 := by
    have gadgets : high (.reprocess, 55) 9 1 2 = 12 := by decide +kernel
    have minerals : high (.reprocess, 55) 9 1 5 = 31 := by decide +kernel
    have widgets : high (.reprocess, 55) 12 1 2 = 16 := by decide +kernel
    have more : high (.reprocess, 55) 12 1 3 = 25 := by decide +kernel
    exact units_exact gadgets (by decide) minerals (by decide) widgets (by decide) more (by decide)
  have below : (low.basket catalog settings widget (9 + 8)).units 34 < Quantity.greatest := by
    rw [all]
    decide
  have below' : (high.basket catalog settings widget 9).units 34 < Quantity.greatest := by
    rw [raisedAll]
    decide
  have agrees p (meets : (Part.start settings widget 10).Meets catalog settings p) := agrees_of_meets meets
  obtain ⟨baskets, together, rates⟩ :=
    @merged_gives_no_less catalog settings _ nonneg widget 9 8 (by decide) (by decide) 34
  exact ⟨nonneg, by decide, by decide, agrees, (baskets 10).2 agrees, below, (together below).2, raised, below',
    rates _ raised below'⟩

end ItemAppraisal
