import ItemAppraisal.Buyback.Basket
import ItemAppraisal.Settings
import ItemAppraisal.Types.Catalog

/-!
# Breaking items down

An item is broken down into materials, and those into theirs, down to primitive materials and to types
that do not break down. A material carries the step that it came out of, and what is lost in a step is
missing in all steps below it. A type that is broken down further up, and a type below the last level that
is followed, is taken as it is. Main statement: breaking down into a basket adds the materials in the order
in which they are found (`decomposeInto_eq_addAll`).
-/

namespace ItemAppraisal

/-- How a type is broken down. -/
inductive Conversion where
  /-- A primitive material. -/
  | direct
  /-- Refined, with the efficiency in percent. -/
  | refine (rate : Float)
  /-- Reprocessed, with the efficiency in percent. -/
  | reprocess (rate : Float)
  /-- Not at all. -/
  | leaf
  deriving DecidableEq

/-- A step with its efficiency in percent. -/
abbrev Step := Qualifier × Float

namespace Conversion

/-- The conversion of a type. -/
def of (s : BuybackSettings) (r : TypeRecord) : Conversion :=
  if s.directGroups.contains r.groupId then .direct
  else if !r.isDecomposable then .leaf
  else if s.refineCategories.contains r.categoryId || s.refineGroups.contains r.groupId then
    .refine s.refineRate
  else .reprocess s.reprocessRate

/-- The step that gives the materials of a type that breaks down. -/
def step? : Conversion → Option Step
  | refine rate => some (.refine, rate)
  | reprocess rate => some (.reprocess, rate)
  | direct | leaf => none

end Conversion

/-- The step of a primitive material that was given as it is. -/
def directStep : Step := (.direct, 100)

/-- The quantity at or below a double, or the end of the range; NaN is zero. -/
def floorQuantity (x : Float) : Int :=
  match Decimal.magnitude x with
  | .finite _ _ => Quantity.saturate ((Decimal.floor? x).getD 0)
  | .infinite => if Decimal.isNegative x then Quantity.least else Quantity.greatest
  | .notANumber => 0

/-- What converting a quantity gives of one material: the whole units before losses, and of those the
whole units after. -/
def materialQuantity (quantity portion material : Int) (efficiency : Float) : Int :=
  let gross := Int.tdiv (quantity * material) (max portion 1)
  floorQuantity (Float.ofInt gross * efficiency / 100)

/-- A quantity of a type that came out of a step. -/
def MaterialLine.ofStep (r : TypeRecord) (quantity : Int) (step : Step) : MaterialLine :=
  { typeId := r.id, name := r.name, quantity, qualifier := step.1, efficiency := step.2 }

/-- A type that is taken as it is: nothing if it did not come out of a step. -/
def leafLines (r : TypeRecord) (quantity : Int) (origin : Option Step) : List MaterialLine :=
  match origin with
  | some step => [.ofStep r quantity step]
  | none => []

/-- The materials of a quantity of a type, in the order in which they are found. `levels` more levels
are followed; `path` holds the types that are being broken down, the nearest first; `origin` is the step
that the type came out of. -/
def materialLines (types : TypeCatalog) (s : BuybackSettings) :
    Nat → List Int → Option Step → TypeRecord → Int → List MaterialLine
  | 0, _, origin, r, quantity => leafLines r quantity origin
  | levels + 1, path, origin, r, quantity =>
    if path.contains r.id then leafLines r quantity origin
    else match Conversion.of s r with
      | .direct => [.ofStep r (Int.tdiv quantity r.portion) (origin.getD directStep)]
      | conversion =>
        match conversion.step? with
        | none => leafLines r quantity origin
        | some step =>
          r.materials.flatMap fun m =>
            match types.byId? m.typeId with
            | none => []
            | some child =>
              let part := materialQuantity quantity r.portion m.quantity step.2
              if part ≤ 0 then []
              else materialLines types s levels (r.id :: path) (some step) child part

/-- Adds the materials of a quantity of a type to a basket, each as it is found. -/
def decomposeInto (types : TypeCatalog) (s : BuybackSettings) :
    Nat → List Int → Option Step → TypeRecord → Int → Basket → Basket
  | 0, _, origin, r, quantity, basket => basket.addAll (leafLines r quantity origin)
  | levels + 1, path, origin, r, quantity, basket =>
    if path.contains r.id then basket.addAll (leafLines r quantity origin)
    else match Conversion.of s r with
      | .direct => basket.add (.ofStep r (Int.tdiv quantity r.portion) (origin.getD directStep))
      | conversion =>
        match conversion.step? with
        | none => basket.addAll (leafLines r quantity origin)
        | some step =>
          r.materials.foldl (fun basket m =>
            match types.byId? m.typeId with
            | none => basket
            | some child =>
              let part := materialQuantity quantity r.portion m.quantity step.2
              if part ≤ 0 then basket
              else decomposeInto types s levels (r.id :: path) (some step) child part basket) basket

/-- The basket of materials of a quantity of a type. -/
def decompose (types : TypeCatalog) (s : BuybackSettings) (r : TypeRecord) (quantity : Int) : Basket :=
  decomposeInto types s s.maxDepth [] none r quantity .empty

theorem decomposeInto_eq_addAll (types : TypeCatalog) (s : BuybackSettings) (levels : Nat)
    (path : List Int) (origin : Option Step) (r : TypeRecord) (quantity : Int) (basket : Basket) :
    decomposeInto types s levels path origin r quantity basket =
      basket.addAll (materialLines types s levels path origin r quantity) := by
  induction levels generalizing path origin r quantity basket with
  | zero => rfl
  | succ levels ih =>
    have hfold (step : Step) (materials : List Component) (basket : Basket) :
        materials.foldl (fun basket m =>
          match types.byId? m.typeId with
          | none => basket
          | some child =>
            let part := materialQuantity quantity r.portion m.quantity step.2
            if part ≤ 0 then basket
            else decomposeInto types s levels (r.id :: path) (some step) child part basket) basket =
        basket.addAll (materials.flatMap fun m =>
          match types.byId? m.typeId with
          | none => []
          | some child =>
            let part := materialQuantity quantity r.portion m.quantity step.2
            if part ≤ 0 then []
            else materialLines types s levels (r.id :: path) (some step) child part) := by
      induction materials generalizing basket with
      | nil => rfl
      | cons m materials ihm =>
        rw [List.foldl_cons, ihm, List.flatMap_cons, Basket.addAll_append]
        congr 1
        cases types.byId? m.typeId with
        | none => rfl
        | some child =>
          simp only [ih]
          split <;> rfl
    simp only [decomposeInto, materialLines]
    split
    · rfl
    · split
      · rfl
      · split
        · rfl
        · exact hfold _ _ _

theorem mem_leafLines {r : TypeRecord} {quantity : Int} {origin : Option Step} {l : MaterialLine} :
    l ∈ leafLines r quantity origin ↔ ∃ step ∈ origin, l = .ofStep r quantity step := by
  cases origin <;> simp [leafLines]

/-- Exact account of a material: the type as it is, the type as a primitive material, or a material of a
part that the type gives. -/
theorem materialLines_cases {types : TypeCatalog} {s : BuybackSettings} {levels : Nat} {path : List Int}
    {origin : Option Step} {r : TypeRecord} {quantity : Int} {l : MaterialLine}
    (member : l ∈ materialLines types s levels path origin r quantity) :
    ((levels = 0 ∨ r.id ∈ path ∨ Conversion.of s r = .leaf) ∧
      ∃ step ∈ origin, l = .ofStep r quantity step) ∨
    (Conversion.of s r = .direct ∧
      l = .ofStep r (Int.tdiv quantity r.portion) (origin.getD directStep)) ∨
    ∃ fewer step m child part, levels = fewer + 1 ∧ r.id ∉ path ∧ (Conversion.of s r).step? = some step ∧
      m ∈ r.materials ∧ types.byId? m.typeId = some child ∧
      part = materialQuantity quantity r.portion m.quantity step.2 ∧ 0 < part ∧
      l ∈ materialLines types s fewer (r.id :: path) (some step) child part := by
  cases levels with
  | zero => exact .inl ⟨.inl rfl, mem_leafLines.1 member⟩
  | succ fewer =>
    rw [materialLines] at member
    by_cases again : r.id ∈ path
    · rw [if_pos (List.contains_iff_mem.2 again)] at member
      exact .inl ⟨.inr (.inl again), mem_leafLines.1 member⟩
    · rw [if_neg (mt List.contains_iff_mem.1 again)] at member
      have parts {step : Step} (hl : l ∈ r.materials.flatMap fun m =>
          match types.byId? m.typeId with
          | none => []
          | some child =>
            let part := materialQuantity quantity r.portion m.quantity step.2
            if part ≤ 0 then []
            else materialLines types s fewer (r.id :: path) (some step) child part) :
          ∃ m child part, m ∈ r.materials ∧ types.byId? m.typeId = some child ∧
            part = materialQuantity quantity r.portion m.quantity step.2 ∧ 0 < part ∧
            l ∈ materialLines types s fewer (r.id :: path) (some step) child part := by
        obtain ⟨m, inside, hl⟩ := List.mem_flatMap.1 hl
        cases known : types.byId? m.typeId with
        | none => rw [known] at hl; cases hl
        | some child =>
          rw [known] at hl
          simp only at hl
          split at hl
          · cases hl
          · rename_i positive
            exact ⟨m, child, _, inside, known, rfl, Int.not_le.1 positive, hl⟩
      cases conversion : Conversion.of s r with
      | direct =>
        rw [conversion] at member
        exact .inr (.inl ⟨rfl, List.mem_singleton.1 member⟩)
      | leaf =>
        rw [conversion] at member
        exact .inl ⟨.inr (.inr rfl), mem_leafLines.1 member⟩
      | refine rate =>
        rw [conversion] at member
        obtain ⟨m, child, part, found⟩ := parts member
        exact .inr (.inr ⟨fewer, _, m, child, part, rfl, again, rfl, found⟩)
      | reprocess rate =>
        rw [conversion] at member
        obtain ⟨m, child, part, found⟩ := parts member
        exact .inr (.inr ⟨fewer, _, m, child, part, rfl, again, rfl, found⟩)

/-- The materials of one part of a quantity of a type that is broken down by a step. -/
def partLines (types : TypeCatalog) (s : BuybackSettings) (levels : Nat) (path : List Int) (step : Step)
    (r : TypeRecord) (quantity : Int) (m : Component) : List MaterialLine :=
  match types.byId? m.typeId with
  | none => []
  | some child =>
    let part := materialQuantity quantity r.portion m.quantity step.2
    if part ≤ 0 then [] else materialLines types s levels (r.id :: path) (some step) child part

theorem materialLines_of_step {types : TypeCatalog} {s : BuybackSettings} {path : List Int} {r : TypeRecord}
    {step : Step} (fresh : r.id ∉ path) (converted : (Conversion.of s r).step? = some step) (levels : Nat)
    (origin : Option Step) (quantity : Int) :
    materialLines types s (levels + 1) path origin r quantity =
      r.materials.flatMap (partLines types s levels path step r quantity) := by
  rw [materialLines, if_neg (mt List.contains_iff_mem.1 fresh)]
  cases conversion : Conversion.of s r with
  | direct => rw [conversion] at converted; cases converted
  | leaf => rw [conversion] at converted; cases converted
  | refine rate => rw [conversion] at converted; cases converted; rfl
  | reprocess rate => rw [conversion] at converted; cases converted; rfl

theorem materialLines_congr {types : TypeCatalog} {s s' : BuybackSettings}
    (same : ∀ r, Conversion.of s r = Conversion.of s' r) (levels : Nat) (path : List Int)
    (origin : Option Step) (r : TypeRecord) (quantity : Int) :
    materialLines types s levels path origin r quantity =
      materialLines types s' levels path origin r quantity := by
  induction levels generalizing path origin r quantity with
  | zero => rfl
  | succ levels ih => simp only [materialLines, same, ih]

/-! ## Eligibility -/

/-- Whether a type breaks down into primitive materials within a number of levels and without meeting a
type of the path again. -/
def reducesWithin (types : TypeCatalog) (s : BuybackSettings) : Nat → List Int → TypeRecord → Bool
  | 0, _, r => s.directGroups.contains r.groupId
  | levels + 1, path, r =>
    s.directGroups.contains r.groupId ||
      (r.isDecomposable && !path.contains r.id && r.materials.all fun m =>
        match types.byId? m.typeId with
        | some child => reducesWithin types s levels (r.id :: path) child
        | none => false)

/-- Whether a type is primitive or breaks down into primitive materials. -/
def isEligible (types : TypeCatalog) (s : BuybackSettings) (r : TypeRecord) : Bool :=
  reducesWithin types s s.maxDepth [] r

theorem reducesWithin_congr {types : TypeCatalog} {s s' : BuybackSettings}
    (same : s.directGroups = s'.directGroups) (levels : Nat) (path : List Int) (r : TypeRecord) :
    reducesWithin types s levels path r = reducesWithin types s' levels path r := by
  induction levels generalizing path r with
  | zero => rw [reducesWithin, reducesWithin, same]
  | succ levels ih => simp only [reducesWithin, same, ih]

end ItemAppraisal
