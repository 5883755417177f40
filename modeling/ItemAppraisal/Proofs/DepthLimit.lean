import ItemAppraisal.Proofs.Eligibility

/-!
# The limit on levels

An eligible type is broken down within the levels that are followed, so more levels leave it eligible and
find the same materials out of the same steps. They find as much of each, unless it is a primitive type
exactly at the limit: there it is taken as it is, and one level further it is counted in portions
(`decompose_of_deeper`). So the limit decides how much an eligible type gives (`depth_decides_quantity`).
-/

namespace ItemAppraisal

/-! ## More levels -/

/-- The settings that follow another number of levels. -/
def BuybackSettings.withDepth (s : BuybackSettings) (levels : Nat) : BuybackSettings :=
  { s with maxDepth := levels }

/-- A type that breaks down leads to another one over a number of levels. -/
inductive LeadsTo (types : TypeCatalog) (s : BuybackSettings) : Nat → TypeRecord → TypeRecord → Prop
  | here (r : TypeRecord) : LeadsTo types s 0 r r
  | down {levels : Nat} {r child t : TypeRecord} {m : Component} {step : Step}
      (converted : (Conversion.of s r).step? = some step) (ingredient : m ∈ r.materials)
      (known : types.byId? m.typeId = some child) (rest : LeadsTo types s levels child t) :
      LeadsTo types s (levels + 1) r t

variable {types : TypeCatalog} {s : BuybackSettings}

theorem reducesWithin_mono {levels more : Nat} (le : levels ≤ more) {path : List Int} {r : TypeRecord}
    (reduces : reducesWithin types s levels path r = true) : reducesWithin types s more path r = true := by
  induction levels generalizing more path r with
  | zero =>
    cases more with
    | zero => exact reduces
    | succ more =>
      rw [reducesWithin, Bool.or_eq_true]
      exact .inl reduces
  | succ levels ih =>
    obtain ⟨more, rfl⟩ : ∃ n, more = n + 1 := ⟨more - 1, by omega⟩
    simp only [reducesWithin, Bool.or_eq_true, Bool.and_eq_true, List.all_eq_true] at reduces ⊢
    rcases reduces with primitive | ⟨fresh, all⟩
    · exact .inl primitive
    refine .inr ⟨fresh, fun m member => ?_⟩
    have reduced := all m member
    cases known : types.byId? m.typeId with
    | none => rw [known] at reduced; exact reduced
    | some child => rw [known] at reduced; exact ih (by omega) reduced

/-- Whatever does not see how much of a primitive type is taken at the limit sees the same materials with
more levels. The induction is on the levels; the two runs part where the first one has none left. -/
theorem filterMap_deeper {α : Type} {f : MaterialLine → Option α} {levels : Nat} (more : Nat)
    {path : List Int} {origin : Option Step} {r : TypeRecord} {quantity : Int}
    (reduces : reducesWithin types s levels path r = true) (given : levels = 0 → origin.isSome = true)
    (blind : ∀ t, LeadsTo types s levels r t → ∀ quantity step,
      f (.ofStep t (Int.tdiv quantity t.portion) step) = f (.ofStep t quantity step)) :
    (materialLines types s (levels + more) path origin r quantity).filterMap f =
      (materialLines types s levels path origin r quantity).filterMap f := by
  induction levels generalizing path origin r quantity with
  | zero =>
    have primitive : r.groupId ∈ s.directGroups := List.contains_iff_mem.1 reduces
    obtain ⟨step, rfl⟩ := Option.isSome_iff_exists.1 (given rfl)
    cases more with
    | zero => rfl
    | succ more =>
      rw [Nat.zero_add, materialLines, materialLines, Conversion.of_primitive primitive]
      split
      · rfl
      · rw [leafLines, List.filterMap_cons, List.filterMap_cons, blind r (.here r)]
        rfl
  | succ levels ih =>
    rw [Nat.add_right_comm]
    by_cases primitive : r.groupId ∈ s.directGroups
    · rw [materialLines, materialLines, Conversion.of_primitive primitive]
    · obtain ⟨decomposable, fresh, children⟩ := reducesWithin_succ primitive reduces
      obtain ⟨step, converted⟩ := Conversion.of_compound primitive decomposable
      rw [materialLines_of_step fresh converted, materialLines_of_step fresh converted,
        List.filterMap_flatMap, List.filterMap_flatMap]
      refine List.flatMap_congr fun m member => ?_
      rw [partLines, partLines]
      cases known : types.byId? m.typeId with
      | none => rfl
      | some child =>
        simp only
        split
        · rfl
        · exact ih (children m member child known) (fun _ => rfl)
            fun t below => blind t (.down converted member known below)

theorem isEligible_withDepth (r : TypeRecord) (levels : Nat) :
    isEligible types (s.withDepth levels) r = reducesWithin types s levels [] r := by
  have groups : (s.withDepth levels).directGroups = s.directGroups := rfl
  exact reducesWithin_congr groups levels [] r

theorem decompose_withDepth (r : TypeRecord) (levels : Nat) (quantity : Int) :
    decompose types (s.withDepth levels) r quantity =
      Basket.empty.addAll (materialLines types s levels [] none r quantity) := by
  have conversion (r : TypeRecord) : Conversion.of (s.withDepth levels) r = Conversion.of s r := rfl
  rw [decompose, decomposeInto_eq_addAll, materialLines_congr conversion]
  rfl

/-! ## Baskets without quantities -/

namespace MaterialLine

/-- A line without its quantity. -/
def withoutQuantity (l : MaterialLine) : MaterialLine :=
  { l with quantity := 0 }

theorem withoutQuantity_onto (line : MaterialLine) (row : Option MaterialLine) :
    (line.onto row).withoutQuantity =
      (line.withoutQuantity.onto (row.map withoutQuantity)).withoutQuantity := by
  cases row <;> rfl

/-- Lines that differ in their quantities only add up to lines that do. -/
theorem withoutQuantity_addUp {row row' : Option MaterialLine} {lines lines' : List MaterialLine}
    (rows : row.map withoutQuantity = row'.map withoutQuantity)
    (same : lines.map withoutQuantity = lines'.map withoutQuantity) :
    (addUp row lines).map withoutQuantity = (addUp row' lines').map withoutQuantity := by
  induction lines generalizing row row' lines' with
  | nil =>
    obtain rfl := List.map_eq_nil_iff.1 same.symm
    exact rows
  | cons line lines ih =>
    obtain ⟨line', rest', rfl, head, tail⟩ := List.map_eq_cons_iff.1 same.symm
    have next : (some (line.onto row)).map withoutQuantity = (some (line'.onto row')).map withoutQuantity := by
      rw [Option.map_some, Option.map_some, withoutQuantity_onto line row, withoutQuantity_onto line' row',
        rows, head]
    have sums := ih next tail.symm
    exact sums

end MaterialLine

/-! ## Eligible types -/

section

variable {r : TypeRecord} {levels : Nat} (positive : 1 ≤ s.maxDepth)
  (eligible : isEligible types s r = true) (deeper : s.maxDepth ≤ levels)
include positive eligible deeper

theorem filterMap_withDepth {α : Type} {f : MaterialLine → Option α}
    (blind : ∀ t, LeadsTo types s s.maxDepth r t → ∀ quantity step,
      f (.ofStep t (Int.tdiv quantity t.portion) step) = f (.ofStep t quantity step)) (quantity : Int) :
    (materialLines types s levels [] none r quantity).filterMap f =
      (materialLines types s s.maxDepth [] none r quantity).filterMap f := by
  obtain ⟨more, rfl⟩ := Nat.exists_eq_add_of_le deeper
  exact filterMap_deeper more eligible (fun none => by omega) blind

theorem map_withoutQuantity_withDepth (quantity : Int) :
    (decompose types (s.withDepth levels) r quantity).lines.map (·.withoutQuantity) =
      (decompose types s r quantity).lines.map (·.withoutQuantity) := by
  refine Basket.map_lines_congr fun id => ?_
  have lines (n : Nat) : ((materialLines types s n [] none r quantity).filter (·.typeId == id)).map
      MaterialLine.withoutQuantity = (materialLines types s n [] none r quantity).filterMap fun l =>
        if l.typeId == id then some l.withoutQuantity else none := by
    rw [← List.filterMap_eq_filter, ← List.filterMap_eq_map, List.filterMap_filterMap]
    congr 1
    funext l
    by_cases own : l.typeId = id <;> simp [own]
  have blind := filterMap_withDepth positive eligible deeper
    (f := fun l => if l.typeId == id then some l.withoutQuantity else none) (fun _ _ _ _ => rfl) quantity
  rw [decompose_withDepth, decompose, decomposeInto_eq_addAll, Basket.line?_addAll, Basket.line?_addAll]
  refine MaterialLine.withoutQuantity_addUp rfl ?_
  rw [lines, lines, blind]

theorem line?_withDepth {id : Int}
    (whole : ∀ t, LeadsTo types s s.maxDepth r t → t.id = id → t.portion = 1) (quantity : Int) :
    (decompose types (s.withDepth levels) r quantity).line? id =
      (decompose types s r quantity).line? id := by
  have portions t (leads : LeadsTo types s s.maxDepth r t) (quantity : Int) (step : Step) :
      Option.guard (·.typeId == id) (MaterialLine.ofStep t (Int.tdiv quantity t.portion) step) =
        Option.guard (·.typeId == id) (MaterialLine.ofStep t quantity step) := by
    by_cases own : t.id = id
    · rw [whole t leads own, Int.tdiv_one]
    · simp [Option.guard, MaterialLine.ofStep, own]
  have blind := filterMap_withDepth positive eligible deeper portions quantity
  rw [List.filterMap_eq_filter] at blind
  rw [decompose_withDepth, decompose, decomposeInto_eq_addAll, Basket.line?_addAll, Basket.line?_addAll,
    blind]

/-- With more levels an eligible type stays eligible and gives the same materials out of the same steps. Each
has the quantity that it had before, unless a primitive type that is counted in portions stands at the old
limit under its id. -/
theorem decompose_of_deeper :
    isEligible types (s.withDepth levels) r = true ∧ ∀ quantity,
      (decompose types (s.withDepth levels) r quantity).lines.map (·.withoutQuantity) =
        (decompose types s r quantity).lines.map (·.withoutQuantity) ∧
      (∀ id, (∀ t, LeadsTo types s s.maxDepth r t → t.id = id → t.portion = 1) →
        (decompose types (s.withDepth levels) r quantity).line? id =
          (decompose types s r quantity).line? id) ∧
      ((∀ t, LeadsTo types s s.maxDepth r t → t.portion = 1) →
        decompose types (s.withDepth levels) r quantity = decompose types s r quantity) := by
  refine ⟨?_, fun quantity => ⟨?_, fun id whole => ?_, fun whole => ?_⟩⟩
  · rw [isEligible_withDepth]
    exact reducesWithin_mono deeper eligible
  · exact map_withoutQuantity_withDepth positive eligible deeper quantity
  · exact line?_withDepth positive eligible deeper whole quantity
  · exact Basket.eq_of_line? fun id =>
      line?_withDepth positive eligible deeper (fun t leads _ => whole t leads) quantity

end

/-! ## An ore over a mineral -/

namespace OreReport

/-- Settings that follow one level only. -/
def shallow : BuybackSettings := { maxDepth := 1 }

/-- The ore with a mineral that is counted in portions. -/
def typesOf (portionSize : Int) : TypeCatalog :=
  .ofEntries [.ofRecord { mineral with portionSize }, .ofRecord ore] (by simp [CatalogEntry.ofRecord, mineral, ore])

theorem byId?_portioned (portionSize : Int) :
    (typesOf portionSize).byId? 34 = some { mineral with portionSize } := by
  rw [TypeCatalog.byId?_eq_find?]
  rfl

theorem isEligible_shallow (portionSize : Int) : isEligible (typesOf portionSize) shallow ore = true := by
  have primitive : reducesWithin (typesOf portionSize) shallow 0 [ore.id] { mineral with portionSize } = true := rfl
  have levels : shallow.maxDepth = 0 + 1 := rfl
  rw [isEligible, levels, reducesWithin]
  simp only [materials_ore, List.all_cons, byId?_portioned, primitive]
  rfl

theorem lines_withDepth (portionSize : Int) (levels : Nat) :
    materialLines (typesOf portionSize) shallow (levels + 1) [] none ore 500 =
      materialLines (typesOf portionSize) shallow levels [ore.id] (some (.refine, 85))
        { mineral with portionSize } 1700 := by
  have fresh : ore.id ∉ ([] : List Int) := by simp
  have converted : (Conversion.of shallow ore).step? = some (.refine, 85) := rfl
  have part : materialQuantity 500 ore.portion 400 85 = 1700 := by decide +kernel
  rw [materialLines_of_step fresh converted, materials_ore, List.flatMap_singleton, partLines,
    byId?_portioned]
  simp only [part]
  rfl

end OreReport

section

open OreReport

theorem decompose_of_deeper_ore :
    let s := shallow
    1 ≤ s.maxDepth ∧ isEligible (typesOf 1) s ore = true ∧ s.maxDepth ≤ 2 ∧
    isEligible (typesOf 1) (s.withDepth 2) ore = true ∧
    decompose (typesOf 1) (s.withDepth 2) ore 500 = decompose (typesOf 1) s ore 500 := by
  intro s
  have positive : 1 ≤ s.maxDepth := by decide
  have deeper : s.maxDepth ≤ 2 := by decide
  obtain ⟨eligible, found⟩ := decompose_of_deeper positive (isEligible_shallow 1) deeper
  refine ⟨positive, isEligible_shallow 1, deeper, eligible, (found 500).2.2 ?_⟩
  intro t leads
  cases leads with
  | down converted ingredient known rest =>
    rw [materials_ore, List.mem_singleton] at ingredient
    rw [ingredient, byId?_portioned] at known
    cases known
    cases rest
    rfl

/-- A mineral at the limit is taken as it is, and one level further it is counted in portions. -/
theorem depth_decides_quantity :
    let s := shallow
    isEligible (typesOf 10) s ore = true ∧
    (decompose (typesOf 10) s ore 500).lines = [⟨34, "Tritanium", 1700, .refine, 85, false⟩] ∧
    (decompose (typesOf 10) (s.withDepth 2) ore 500).lines = [⟨34, "Tritanium", 170, .refine, 85, false⟩] := by
  intro s
  have same : s = s.withDepth 1 := rfl
  refine ⟨isEligible_shallow 10, ?_, ?_⟩
  · rw [same, decompose_withDepth, lines_withDepth]
    rfl
  · rw [decompose_withDepth, lines_withDepth]
    rfl

end

end ItemAppraisal
