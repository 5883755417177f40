import ItemAppraisal.Proofs.DoubleValues
import ItemAppraisal.Proofs.Eligibility
import ItemAppraisal.Proofs.MaterialSteps

/-!
# Baskets put together from baskets

Adding up lines of a type is associative (`MaterialLine.absorb_assoc`), although a line is compared with the
first units only and a line that got mixed stays so. So it does not matter whether lines are added one by
one or in baskets that are merged (`Basket.merge_addAll`, `Assembly.basket_eq`), and what a basket reports
of a type depends on the lines of that type alone and not on their order (`Basket.sums_line?_addAll`). Main
statement: `assemblies_agree`.
-/

namespace ItemAppraisal

theorem Quantity.add_assoc {a b c : Int} (ha : 0 ≤ a) (hb : 0 ≤ b) (hc : 0 ≤ c) :
    add a (add b c) = add (add a b) c := by
  simp only [add, saturate, least, greatest]
  omega

namespace MaterialLine

/-! ## Adding up is associative -/

/-- Lines that came out of different steps, or out of steps of different efficiency. -/
def Differs (l m : MaterialLine) : Prop :=
  l.qualifier ≠ m.qualifier ∨ (l.efficiency != m.efficiency) = true

theorem not_differs_iff {l m : MaterialLine} :
    ¬l.Differs m ↔ l.qualifier = m.qualifier ∧ (l.efficiency == m.efficiency) = true := by
  simp [Differs, bne]

theorem differs_congr {l m : MaterialLine} (alike : ¬l.Differs m) (n : MaterialLine) :
    l.Differs n ↔ m.Differs n := by
  obtain ⟨step, rate⟩ := not_differs_iff.1 alike
  rw [Differs, Differs, step, Decimal.bne_congr rate]

theorem mixed_absorb {l m : MaterialLine} :
    (l.absorb m).mixed = true ↔ l.mixed = true ∨ m.mixed = true ∨ l.Differs m := by
  simp only [absorb, Bool.or_eq_true, bne_iff_ne, Differs, or_assoc]

/-- Once two lines are alike, a third one differs from both or from neither. -/
theorem absorb_assoc {l m n : MaterialLine} (hl : 0 ≤ l.quantity) (hm : 0 ≤ m.quantity) (hn : 0 ≤ n.quantity) :
    l.absorb (m.absorb n) = (l.absorb m).absorb n := by
  have quantity := Quantity.add_assoc hl hm hn
  have mixed : (l.absorb (m.absorb n)).mixed = ((l.absorb m).absorb n).mixed := by
    have first : l.Differs (m.absorb n) ↔ l.Differs m := Iff.rfl
    have last : (l.absorb m).Differs n ↔ l.Differs n := Iff.rfl
    rw [Bool.eq_iff_iff, mixed_absorb, mixed_absorb, mixed_absorb, mixed_absorb, first, last]
    by_cases alike : l.Differs m
    · simp [alike]
    · rw [← differs_congr alike n]
      tauto
  calc l.absorb (m.absorb n)
      = { l with
          quantity := Quantity.add l.quantity (Quantity.add m.quantity n.quantity)
          mixed := (l.absorb (m.absorb n)).mixed } := rfl
    _ = { l with
          quantity := Quantity.add (Quantity.add l.quantity m.quantity) n.quantity
          mixed := ((l.absorb m).absorb n).mixed } := by rw [quantity, mixed]
    _ = (l.absorb m).absorb n := rfl

theorem absorb_foldl_absorb {l m : MaterialLine} {lines : List MaterialLine} (hl : 0 ≤ l.quantity)
    (hm : 0 ≤ m.quantity) (nonneg : ∀ n ∈ lines, 0 ≤ n.quantity) :
    l.absorb (lines.foldl absorb m) = lines.foldl absorb (l.absorb m) := by
  induction lines generalizing m with
  | nil => rfl
  | cons n lines ih =>
    obtain ⟨hn, rest⟩ := List.forall_mem_cons.1 nonneg
    rw [List.foldl_cons, List.foldl_cons, ih (Quantity.add_nonneg hm hn) rest, absorb_assoc hl hm hn]

/-! ## What lines of a type add up to -/

/-- A quantity of an efficiency that leaves something. -/
structure Gainful (l : MaterialLine) : Prop where
  nonneg : 0 ≤ l.quantity
  bounded : l.quantity ≤ Quantity.greatest
  positive : 0 < l.efficiency

theorem Sound.gainful {types : TypeCatalog} {s : Settings} (valid : s.validate = .ok ()) {l : MaterialLine}
    (sound : l.Sound types s.buyback) : l.Gainful :=
  ⟨sound.nonneg, sound.bounded, sound.rate ▸ Settings.rateOf_pos valid _⟩

/-- A line that adds up lines of its type, whatever their order. -/
structure Sums (lines : List MaterialLine) (l : MaterialLine) : Prop where
  quantity : l.quantity = min ((lines.map (·.quantity)).foldr (· + ·) 0) Quantity.greatest
  mixed : l.mixed = true ↔
    (∃ m ∈ lines, m.mixed = true) ∨ ∃ m ∈ lines, ∃ n ∈ lines, m.Differs n
  reported : l.mixed = false → ∀ m ∈ lines,
    l.reportedQualifier = some m.qualifier ∧ l.reportedEfficiency = m.efficiency

/-- What a basket says about a type. -/
def report (l : MaterialLine) : Int × Int × Option Qualifier × Float :=
  (l.typeId, l.quantity, l.reportedQualifier, l.reportedEfficiency)

theorem Sums.perm {lines lines' : List MaterialLine} {l : MaterialLine} (sums : Sums lines l)
    (perm : lines.Perm lines') : Sums lines' l where
  quantity := by rw [sums.quantity, Quantity.sum_perm (perm.map _)]
  mixed := by simp only [sums.mixed, perm.mem_iff]
  reported pure m member := sums.reported pure m (perm.mem_iff.2 member)

theorem Sums.report_eq {lines : List MaterialLine} {l m : MaterialLine} (sums : Sums lines l)
    (sums' : Sums lines m) (filled : lines ≠ []) (typed : l.typeId = m.typeId) : l.report = m.report := by
  have flags : l.mixed = m.mixed := by rw [Bool.eq_iff_iff, sums.mixed, sums'.mixed]
  have steps : l.reportedQualifier = m.reportedQualifier ∧ l.reportedEfficiency = m.reportedEfficiency := by
    cases mixed : m.mixed with
    | true =>
      rw [reportedQualifier, reportedQualifier, reportedEfficiency, reportedEfficiency, flags, mixed]
      exact ⟨rfl, rfl⟩
    | false =>
      obtain ⟨n, member⟩ := List.exists_mem_of_ne_nil lines filled
      obtain ⟨step, rate⟩ := sums.reported (flags.trans mixed) n member
      obtain ⟨step', rate'⟩ := sums'.reported mixed n member
      exact ⟨step.trans step'.symm, rate.trans rate'.symm⟩
  rw [report, report, typed, sums.quantity, sums'.quantity, steps.1, steps.2]

/-- A single line adds up to itself, also when it is less than nothing. -/
theorem sums_singleton {l : MaterialLine} (pure : l.mixed = false)
    (bounded : l.quantity ≤ Quantity.greatest) (positive : 0 < l.efficiency) : Sums [l] l where
  quantity := by simp [Int.min_eq_left bounded]
  mixed := by
    have alike : ¬l.Differs l := not_differs_iff.2 ⟨rfl, Decimal.beq_self_of_pos positive⟩
    simp [pure, alike]
  reported := by
    intro _ m member
    rw [List.mem_singleton.1 member, reportedQualifier, reportedEfficiency, pure]
    exact ⟨rfl, rfl⟩

theorem mixed_foldl_absorb {l : MaterialLine} {lines : List MaterialLine} :
    (lines.foldl absorb l).mixed = true ↔ l.mixed = true ∨ ∃ m ∈ lines, m.mixed = true ∨ l.Differs m := by
  simp only [foldl_absorb, Bool.or_eq_true, List.any_eq_true, bne_iff_ne, Differs, or_assoc]

/-- Two lines that differ cannot both be like the first one. -/
theorem sums_foldl_absorb {l : MaterialLine} {lines : List MaterialLine} (gainful : ∀ m ∈ l :: lines, m.Gainful) :
    Sums (l :: lines) (lines.foldl absorb l) := by
  have own := gainful l List.mem_cons_self
  have alike : ¬l.Differs l := not_differs_iff.2 ⟨rfl, Decimal.beq_self_of_pos own.positive⟩
  refine ⟨?_, ?_, ?_⟩
  · exact quantity_foldl_absorb_eq (fun m member => (gainful m member).nonneg) own.bounded
  · rw [mixed_foldl_absorb]
    constructor
    · rintro (mixed | ⟨m, member, mixed | different⟩)
      · exact .inl ⟨l, List.mem_cons_self, mixed⟩
      · exact .inl ⟨m, List.mem_cons_of_mem l member, mixed⟩
      · exact .inr ⟨l, List.mem_cons_self, m, List.mem_cons_of_mem l member, different⟩
    · rintro (⟨m, member, mixed⟩ | ⟨m, member, n, member', different⟩)
      · rcases List.mem_cons.1 member with rfl | inside
        · exact .inl mixed
        · exact .inr ⟨m, inside, .inl mixed⟩
      · have either : l.Differs m ∨ l.Differs n := by
          by_contra neither
          obtain ⟨first, second⟩ := not_or.1 neither
          exact second ((differs_congr first n).2 different)
        have among {k : MaterialLine} (inside : k ∈ l :: lines) (apart : l.Differs k) : k ∈ lines :=
          (List.mem_cons.1 inside).resolve_left fun same => alike (same ▸ apart)
        rcases either with apart | apart
        · exact .inr ⟨m, among member apart, .inr apart⟩
        · exact .inr ⟨n, among member' apart, .inr apart⟩
  · intro pure m member
    have unmixed := mt mixed_foldl_absorb.2 (Bool.not_eq_true _ ▸ pure)
    have same : ¬l.Differs m := by
      rcases List.mem_cons.1 member with rfl | inside
      · exact alike
      · exact fun apart => unmixed (.inr ⟨m, inside, .inr apart⟩)
    obtain ⟨step, rate⟩ := not_differs_iff.1 same
    rw [reportedQualifier, reportedEfficiency, pure, foldl_absorb]
    exact ⟨congrArg some step, (Decimal.beq_iff_eq_of_pos own.positive).1 rate⟩

end MaterialLine

/-! ## Baskets -/

namespace Basket

open MaterialLine

variable {b : Basket} {lines lines' : List MaterialLine} {id : Int}

theorem nonneg_addAll (hb : ∀ l ∈ b.lines, 0 ≤ l.quantity) (hl : ∀ l ∈ lines, 0 ≤ l.quantity) :
    ∀ l ∈ (b.addAll lines).lines, 0 ≤ l.quantity :=
  forall_addAll (fun _ _ => Quantity.add_nonneg) hb hl

/-- Lines may be put into a basket of their own first. -/
theorem merge_addAll (hb : ∀ l ∈ b.lines, 0 ≤ l.quantity) (hl : ∀ l ∈ lines, 0 ≤ l.quantity) :
    b.merge (empty.addAll lines) = b.addAll lines := by
  refine eq_of_line? fun id => ?_
  have own : ∀ l ∈ lines.filter (·.typeId == id), 0 ≤ l.quantity := fun l member =>
    hl l (List.mem_of_mem_filter member)
  rw [merge, line?_addAll, filter_typeId_eq, line?_addAll, line?_addAll]
  show addUp (b.line? id) (addUp none _).toList = _
  cases rows : lines.filter (·.typeId == id) with
  | nil => rfl
  | cons m rest =>
    rw [rows] at own
    obtain ⟨first, others⟩ := List.forall_mem_cons.1 own
    rw [addUp_none_cons]
    cases found : b.line? id with
    | none => exact (addUp_none_cons m rest).symm
    | some l =>
      rw [addUp_some, addUp_some]
      exact congrArg some (absorb_foldl_absorb (hb l (line?_eq_some_iff.1 found).1) first others)

theorem mem_typeIds_addAll : id ∈ (empty.addAll lines).typeIds ↔ ∃ l ∈ lines, l.typeId = id := by
  rw [mem_typeIds_iff, line?_addAll]
  show (∃ l, addUp none _ = some l) ↔ _
  cases rows : lines.filter (·.typeId == id) with
  | nil =>
    have foreign := List.filter_eq_nil_iff.1 rows
    simp only [beq_iff_eq] at foreign
    constructor
    · rintro ⟨l, found⟩
      cases found
    · rintro ⟨l, member, typed⟩
      exact absurd typed (foreign l member)
  | cons m rest =>
    have member : m ∈ lines.filter (·.typeId == id) := rows ▸ List.mem_cons_self
    obtain ⟨inside, typed⟩ := List.mem_filter.1 member
    exact ⟨fun _ => ⟨m, inside, beq_iff_eq.1 typed⟩, fun _ => ⟨_, addUp_none_cons m rest⟩⟩

theorem sums_line?_addAll (gainful : ∀ l ∈ lines, l.Gainful) {l : MaterialLine}
    (found : (empty.addAll lines).line? id = some l) : Sums (lines.filter (·.typeId == id)) l := by
  have own : ∀ m ∈ lines.filter (·.typeId == id), m.Gainful := fun m member =>
    gainful m (List.mem_of_mem_filter member)
  rw [line?_addAll] at found
  change addUp none _ = some l at found
  cases rows : lines.filter (·.typeId == id) with
  | nil => rw [rows] at found; cases found
  | cons m rest =>
    rw [rows] at own found
    obtain rfl := Option.some.inj ((addUp_none_cons m rest).symm.trans found)
    exact sums_foldl_absorb own

/-- The order of the lines does not matter to what a basket reports. -/
theorem map_report_addAll_perm (gainful : ∀ l ∈ lines, l.Gainful) (perm : lines'.Perm lines) :
    (empty.addAll lines').lines.map report = (empty.addAll lines).lines.map report := by
  refine map_lines_congr fun id => ?_
  have present : id ∈ (empty.addAll lines').typeIds ↔ id ∈ (empty.addAll lines).typeIds := by
    simp only [mem_typeIds_addAll, perm.mem_iff]
  rw [mem_typeIds_iff, mem_typeIds_iff] at present
  cases found : (empty.addAll lines).line? id with
  | none =>
    rw [found] at present
    have missing : (empty.addAll lines').line? id = none :=
      Option.eq_none_iff_forall_not_mem.2 fun l member => nomatch present.1 ⟨l, member⟩
    rw [missing]
  | some l =>
    obtain ⟨l', found'⟩ := present.2 ⟨l, found⟩
    have sums := sums_line?_addAll gainful found
    have gainful' : ∀ m ∈ lines', m.Gainful := fun m member => gainful m (perm.mem_iff.1 member)
    have sums' := (sums_line?_addAll gainful' found').perm (perm.filter _)
    have typed := (line?_eq_some_iff.1 found).2
    have typed' := (line?_eq_some_iff.1 found').2
    have filled : lines.filter (·.typeId == id) ≠ [] := by
      obtain ⟨m, inside, own⟩ := mem_typeIds_addAll.1 (mem_typeIds_iff.2 ⟨l, found⟩)
      exact List.ne_nil_of_mem (List.mem_filter.2 ⟨inside, beq_iff_eq.2 own⟩)
    rw [found', Option.map_some, Option.map_some, sums'.report_eq sums filled (typed'.trans typed.symm)]

end Basket

/-- A way of putting a basket together. -/
inductive Assembly where
  | empty
  /-- A line more. -/
  | add (a : Assembly) (line : MaterialLine)
  /-- A basket that is put together apart and then merged. -/
  | merge (a part : Assembly)

namespace Assembly

/-- The basket. -/
def basket : Assembly → Basket
  | empty => .empty
  | add a line => a.basket.add line
  | merge a part => a.basket.merge part.basket

/-- The lines that go into the basket. -/
def lines : Assembly → List MaterialLine
  | empty => []
  | add a line => a.lines ++ [line]
  | merge a part => a.lines ++ part.lines

theorem basket_eq {a : Assembly} (nonneg : ∀ l ∈ a.lines, 0 ≤ l.quantity) :
    a.basket = Basket.empty.addAll a.lines := by
  induction a with
  | empty => rfl
  | add a line ih =>
    rw [lines, Basket.addAll_append, ← ih fun l member => nonneg l (List.mem_append_left _ member)]
    rfl
  | merge a part ih ih' =>
    obtain ⟨first, second⟩ := List.forall_mem_append.1 nonneg
    have kept := Basket.nonneg_addAll (b := Basket.empty) (fun l member => nomatch member) first
    rw [basket, ih first, ih' second, Basket.merge_addAll kept second, lines, Basket.addAll_append]

end Assembly

/-! ## Materials -/

/-- The induction is on the levels; the parts of a type that are not empty are positive. -/
theorem nonneg_materialLines {types : TypeCatalog} {s : BuybackSettings} {levels : Nat} {path : List Int}
    {origin : Option Step} {r : TypeRecord} {quantity : Int} (nonneg : 0 ≤ quantity) :
    ∀ l ∈ materialLines types s levels path origin r quantity, 0 ≤ l.quantity := by
  induction levels generalizing path origin r quantity with
  | zero =>
    intro l member
    obtain ⟨step, -, rfl⟩ := mem_leafLines.1 member
    exact nonneg
  | succ levels ih =>
    intro l member
    rcases materialLines_cases member with ⟨-, step, -, rfl⟩ | ⟨-, rfl⟩ |
      ⟨fewer, step, m, child, part, same, -, -, -, -, -, positive, inside⟩
    · exact nonneg
    · exact Int.tdiv_nonneg nonneg (Int.le_of_lt r.portion_pos)
    · cases same
      exact ih (Int.le_of_lt positive) l inside

/-- Breaking an item down into a basket that holds something gives the same as merging its own basket into
that one. More generally, a basket that is put together from lines and other baskets in any way has the
types of its lines, and reports of each type what the lines of the type add up to, in any order. -/
theorem assemblies_agree :
    (∀ (types : TypeCatalog) (s : BuybackSettings) (levels : Nat) (path : List Int) (origin : Option Step)
      (r : TypeRecord) (quantity : Int) (b : Basket), 0 ≤ quantity → (∀ l ∈ b.lines, 0 ≤ l.quantity) →
      decomposeInto types s levels path origin r quantity b =
        b.merge (decomposeInto types s levels path origin r quantity .empty)) ∧
    ∀ (a : Assembly) (lines : List MaterialLine), a.lines.Perm lines → (∀ l ∈ lines, l.Gainful) →
      a.basket.lines.map (·.report) = (Basket.empty.addAll lines).lines.map (·.report) ∧
      (∀ id, id ∈ a.basket.typeIds ↔ ∃ l ∈ lines, l.typeId = id) ∧
      ∀ l ∈ a.basket.lines, l.Sums (lines.filter (·.typeId == l.typeId)) := by
  constructor
  · intro types s levels path origin r quantity b nonneg hb
    rw [decomposeInto_eq_addAll, decomposeInto_eq_addAll]
    exact (Basket.merge_addAll hb (nonneg_materialLines nonneg)).symm
  · intro a lines perm gainful
    have gainful' : ∀ l ∈ a.lines, l.Gainful := fun l member => gainful l (perm.mem_iff.1 member)
    rw [Assembly.basket_eq fun l member => (gainful' l member).nonneg]
    refine ⟨Basket.map_report_addAll_perm gainful perm, fun id => ?_, fun l member => ?_⟩
    · simp only [Basket.mem_typeIds_addAll, perm.mem_iff]
    · have found := Basket.line?_eq_some_iff.2 ⟨member, rfl⟩
      exact (Basket.sums_line?_addAll gainful' found).perm (perm.filter _)

/-! ## A mineral from two steps -/

namespace OreReport

/-- What 500 units of the ore give of the mineral. -/
def refinedLine : MaterialLine := ⟨34, "Tritanium", 1700, .refine, 85, false⟩

/-- Units of the mineral that were given as they are. -/
def takenLine : MaterialLine := ⟨34, "Tritanium", 10, .direct, 100, false⟩

end OreReport

open OreReport in
theorem assemblies_agree_for_tritanium :
    let lines := [takenLine, refinedLine, takenLine]
    let a : Assembly := .merge (.add .empty refinedLine) (.add (.add .empty takenLine) takenLine)
    let b := Basket.empty.add takenLine
    (∀ l ∈ b.lines, 0 ≤ l.quantity) ∧ a.lines.Perm lines ∧ (∀ l ∈ lines, l.Gainful) ∧
    decomposeInto appraiser.types appraiser.settings.buyback 8 [] none ore 500 b =
      b.merge (decomposeInto appraiser.types appraiser.settings.buyback 8 [] none ore 500 .empty) ∧
    ∃ l, a.basket.line? 34 = some l ∧ l.quantity = 1720 ∧ l.mixed = true := by
  intro lines a b
  obtain ⟨accumulated, assembled⟩ := assemblies_agree
  have nonneg : ∀ l ∈ b.lines, 0 ≤ l.quantity := by decide
  have perm : a.lines.Perm lines := .swap ..
  have refined : refinedLine.Gainful := ⟨by decide, by decide, by decide +kernel⟩
  have taken : takenLine.Gainful := ⟨by decide, by decide, by decide +kernel⟩
  have gainful : ∀ l ∈ lines, l.Gainful := by simp [lines, refined, taken]
  refine ⟨nonneg, perm, gainful, accumulated _ _ _ _ _ _ 500 b (by decide) nonneg, ?_⟩
  obtain ⟨-, ids, sums⟩ := assembled a lines perm gainful
  obtain ⟨l, found⟩ := Basket.mem_typeIds_iff.1 ((ids 34).2 ⟨takenLine, List.mem_cons_self, rfl⟩)
  obtain ⟨member, typed⟩ := Basket.line?_eq_some_iff.1 found
  have total := sums l member
  rw [typed] at total
  exact ⟨l, found, total.quantity, total.mixed.2
    (.inr ⟨takenLine, List.mem_cons_self, refinedLine, List.mem_cons_of_mem _ List.mem_cons_self,
      .inl (by decide)⟩)⟩

end ItemAppraisal
