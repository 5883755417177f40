import ItemAppraisal.Proofs.LineItems
import ItemAppraisal.Proofs.Merging

/-!
# Pastes put together

A text without blocks gives under every name what its lines give one by one (`quantityIn_eq`). So two such
texts with a line feed between them give what both give together, up to the greatest quantity
(`quantityIn_join`).
-/

namespace ItemAppraisal

open Format (Kind)

/-! ## Lines of a text -/

namespace Paste

/-- No line marks a report or opens a fitting. -/
structure IsBlockFree (paste : Paste) : Prop where
  unmarked : ∀ line ∈ paste.lines, KillReport.marksReport line.clean = false
  unopened : ∀ line ∈ paste.lines, Fitting.headerShape.fits line.clean = false

theorem splitLines_join (a b : String) : splitLines (a ++ "\n" ++ b) = splitLines a ++ splitLines b := by
  have feed : (a ++ "\n" ++ b).toList = a.toList ++ '\n' :: b.toList := by simp
  rw [splitLines, feed, Text.splitAt_append_cons (by simp), List.map_append, splitLines, splitLines]

theorem map_clean_numberFrom (n : Nat) (texts : List String) :
    (numberFrom n texts).map Line.clean = texts.map fun s => Text.trimBy Line.isPadding s.toList := by
  induction texts generalizing n with
  | nil => rfl
  | cons s rest ih => rw [numberFrom, List.map_cons, ih, List.map_cons, Line.clean]

/-- The lines of two texts with a line feed between them are those of both. -/
theorem map_clean_join (a b : String) : (ofText (a ++ "\n" ++ b)).lines.map Line.clean =
    (ofText a).lines.map Line.clean ++ (ofText b).lines.map Line.clean := by
  simp only [ofText, map_clean_numberFrom, splitLines_join, List.map_append]

theorem isBlockFree_iff {paste : Paste} : paste.IsBlockFree ↔ ∀ s ∈ paste.lines.map Line.clean,
    KillReport.marksReport s = false ∧ Fitting.headerShape.fits s = false := by
  rw [List.forall_mem_map]
  constructor
  · intro free line member
    exact ⟨free.unmarked line member, free.unopened line member⟩
  · intro plain
    exact ⟨fun line member => (plain line member).1, fun line member => (plain line member).2⟩

theorem isBlockFree_join {a b : String} (free : (ofText a).IsBlockFree) (free' : (ofText b).IsBlockFree) :
    (ofText (a ++ "\n" ++ b)).IsBlockFree := by
  rw [isBlockFree_iff] at free free' ⊢
  rw [map_clean_join, List.forall_mem_append]
  exact ⟨free, free'⟩

end Paste

/-! ## What a text gives -/

/-- The formats of blocks take nothing of a paste without blocks. -/
theorem Parse.all_of_blockFree (types : TypeCatalog) {paste : Paste} (free : paste.IsBlockFree) :
    all types paste = withKinds types Kind.lineByLine paste := by
  have unreported : (Kind.killReport.read types paste).lines = [] := by
    rw [Kind.read, KillReport.readReport_of_unmarked free.unmarked]
  have unfitted : (Kind.fitting.read types paste).lines = [] := by
    rw [Kind.read, Fitting.readBlock_of_unopened free.unopened]
  rw [all, Kind.all_eq_cons, withKinds_of_untaken unreported, withKinds_of_untaken unfitted]

/-- The items that a line lists, given without padding. -/
def itemsOfLine (types : TypeCatalog) (s : List Char) : List ListedItem :=
  Kind.itemsOfFirst types Kind.lineByLine s

/-- The items of a paste without blocks are those of its lines, in some order. -/
theorem Parse.listed_all_perm (types : TypeCatalog) {paste : Paste} (free : paste.IsBlockFree) :
    (all types paste).listed.Perm ((paste.lines.map Line.clean).flatMap (itemsOfLine types)) := by
  rw [all_of_blockFree types free, List.flatMap_map]
  exact listed_withKinds_perm types (List.Subset.refl _) paste

/-- The quantity that a text gives under a key once its items are merged, zero if it gives none. -/
def quantityIn (types : TypeCatalog) (text key : String) : Int :=
  ListedItem.quantityUnder key (ListedItem.merge (Parse.all types (Paste.ofText text)).listed)

/-- The units that the lines of a text have under a key, each line taken by itself. -/
def unitsIn (types : TypeCatalog) (text key : String) : Int :=
  ListedItem.unitsUnder key (((Paste.ofText text).lines.map Line.clean).flatMap (itemsOfLine types))

/-- A text without blocks gives under a key the units that its lines have, up to the greatest quantity. -/
theorem quantityIn_eq (types : TypeCatalog) {text : String} (free : (Paste.ofText text).IsBlockFree)
    (key : String) : quantityIn types text key = min (unitsIn types text key) Quantity.greatest := by
  have perm := Parse.listed_all_perm types free
  have bounded : ∀ i ∈ (Parse.all types (Paste.ofText text)).listed, i.quantity ≤ Quantity.greatest := by
    intro i member
    obtain ⟨s, -, listed⟩ := List.mem_flatMap.1 (perm.mem_iff.1 member)
    exact (Kind.quantity_inRange_of_first listed).2
  rw [quantityIn, ListedItem.quantityUnder_merge bounded, ListedItem.unitsUnder_perm perm, unitsIn]

theorem unitsIn_join (types : TypeCatalog) (a b key : String) :
    unitsIn types (a ++ "\n" ++ b) key = unitsIn types a key + unitsIn types b key := by
  rw [unitsIn, Paste.map_clean_join, List.flatMap_append, ListedItem.unitsUnder_append, unitsIn, unitsIn]

/-- Two texts without blocks with a line feed between them give under every name what both of them give, up
to the greatest quantity. -/
theorem quantityIn_join (types : TypeCatalog) {a b : String} (free : (Paste.ofText a).IsBlockFree)
    (free' : (Paste.ofText b).IsBlockFree) (key : String) :
    quantityIn types (a ++ "\n" ++ b) key =
      min (quantityIn types a key + quantityIn types b key) Quantity.greatest := by
  have units := unitsIn_join types a b key
  have nonneg : 0 ≤ unitsIn types a key := ListedItem.unitsUnder_nonneg key _
  have nonneg' : 0 ≤ unitsIn types b key := ListedItem.unitsUnder_nonneg key _
  rw [quantityIn_eq types (Paste.isBlockFree_join free free'), quantityIn_eq types free,
    quantityIn_eq types free', units]
  -- No side is negative, so stopping at the greatest quantity before the sum is stopping after it.
  simp only [Quantity.greatest]
  omega

/-! ## Two logs of one line -/

namespace LootLine

theorem lines_text : (Paste.ofText text).lines = [⟨1, text⟩] := by decide +kernel

theorem isBlockFree_text : (Paste.ofText text).IsBlockFree := by
  have unmarked : KillReport.marksReport text.toList = false := by decide +kernel
  have unopened : Fitting.headerShape.fits text.toList = false := by
    rw [Text.Pattern.fits_eq_false_iff]
    decide +kernel
  rw [Paste.isBlockFree_iff, lines_text]
  simpa [clean_text] using ⟨unmarked, unopened⟩

theorem quantityIn_text (types : TypeCatalog) : quantityIn types text "T" = 1 := by
  have items : itemsOfLine types text.toList = [loot.listed] := by
    rw [itemsOfLine, Kind.lineByLine, Kind.itemsOfFirst_cons, if_pos (takes_text types), Kind.itemsOf,
      read_text]
    rfl
  have line : (Paste.ofText text).lines.map Line.clean = [text.toList] := by
    rw [lines_text, List.map_singleton, clean_text]
  rw [quantityIn_eq types isBlockFree_text, unitsIn, line, List.flatMap_singleton, items]
  decide +kernel

end LootLine

theorem quantityIn_join_of_logs :
    let types := TypeCatalog.ofEntries [] .nil
    (Paste.ofText LootLine.text).IsBlockFree ∧ quantityIn types LootLine.text "T" = 1 ∧
    quantityIn types (LootLine.text ++ "\n" ++ LootLine.text) "T" = 2 := by
  intro types
  refine ⟨LootLine.isBlockFree_text, LootLine.quantityIn_text types, ?_⟩
  rw [quantityIn_join types LootLine.isBlockFree_text LootLine.isBlockFree_text,
    LootLine.quantityIn_text types]
  rfl

end ItemAppraisal
