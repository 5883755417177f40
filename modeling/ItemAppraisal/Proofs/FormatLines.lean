import ItemAppraisal.Classification
import Mathlib.Data.List.Sort
import Mathlib.Data.List.TakeWhile

/-!
# The lines that a format takes

Every format takes lines of the paste in their order (`lines_sublist`). Two formats look at blocks of
lines; each of the others takes a line for its own text, whatever the other lines are
(`lines_eq_filter`), although the wallet goes through a paste twice and the loot log reorders its items.
-/

namespace ItemAppraisal

/-! ## Numbered lines -/

namespace Paste

theorem numbers_ascending (paste : Paste) : paste.numbers.Pairwise (· < ·) :=
  List.pairwise_map.2 paste.ascending

theorem lines_without (paste : Paste) (numbers : List Nat) :
    (paste.without numbers).lines = paste.lines.filter fun line => line.number ∉ numbers := by
  rw [without, filter]
  refine List.filter_congr fun line _ => ?_
  simp

theorem numbers_without (paste : Paste) (numbers : List Nat) :
    (paste.without numbers).numbers = paste.numbers.filter (· ∉ numbers) := by
  rw [Paste.numbers, Paste.numbers, lines_without, List.filter_map]
  rfl

/-- Of the lines that satisfy a condition, the numbers tell them apart from the others. -/
theorem number_mem_filter {paste : Paste} {keep : Line → Bool} {line : Line}
    (member : line ∈ paste.lines) :
    line.number ∈ (paste.lines.filter keep).map (·.number) ↔ keep line = true := by
  constructor
  · intro taken
    obtain ⟨other, kept, same⟩ := List.mem_map.1 taken
    obtain ⟨otherMember, keeps⟩ := List.mem_filter.1 kept
    rw [eq_of_number_eq member otherMember same.symm]
    exact keeps
  · intro keeps
    exact List.mem_map_of_mem (List.mem_filter.2 ⟨member, keeps⟩)

theorem lines_without_filter (paste : Paste) (keep : Line → Bool) :
    (paste.without ((paste.lines.filter keep).map (·.number))).lines =
      paste.lines.filter fun line => !keep line := by
  rw [lines_without]
  refine List.filter_congr fun line member => ?_
  rw [Bool.eq_iff_iff, decide_eq_true_iff, number_mem_filter member]
  simp

theorem filter_sublist (paste : Paste) (keep : Line → Bool) :
    ((paste.lines.filter keep).map (·.number)).Sublist paste.numbers :=
  List.filter_sublist.map _

/-- Lines that are read one by one keep their numbers. -/
theorem numbers_filterMap {α : Type} (read : Line → Option α) (lines : List Line) :
    (lines.filterMap fun line => (read line).map (line.number, ·)).map (·.1) =
      (lines.filter fun line => (read line).isSome).map (·.number) := by
  induction lines with
  | nil => rfl
  | cons line lines ih =>
    rw [List.filterMap_cons, List.filter_cons]
    cases found : read line with
    | none => simpa [found] using ih
    | some a => simpa [found] using ih

theorem numbers_readLines {α : Type} (read : List Char → Option α) (paste : Paste) :
    (paste.readLines read).map (·.1) =
      (paste.lines.filter fun line => (read line.clean).isSome).map (·.number) :=
  numbers_filterMap _ _

end Paste

/-! ## Blocks of lines -/

theorem KillReport.entries_sublist (current : KillReport.Section) (lines : List Line) :
    ((KillReport.entries current lines).map (·.1)).Sublist (lines.map (·.number)) := by
  induction lines generalizing current with
  | nil => exact .slnil
  | cons line lines ih =>
    simp only [KillReport.entries, List.map_cons]
    split
    · exact (ih _).cons_cons line.number
    · exact (ih _).cons line.number

theorem KillReport.readReport_sublist {paste : Paste} {report : KillReport} {numbers : List Nat}
    (found : KillReport.readReport paste = some (report, numbers)) :
    numbers.Sublist paste.numbers := by
  rw [KillReport.readReport] at found
  split at found
  · obtain ⟨-, rfl⟩ := Prod.mk.inj (Option.some.inj found)
    exact KillReport.entries_sublist _ _
  · cases found

theorem KillReport.readReport_of_unmarked {paste : Paste}
    (unmarked : ∀ line ∈ paste.lines, KillReport.marksReport line.clean = false) :
    KillReport.readReport paste = none := by
  have none : (paste.lines.any fun line => KillReport.marksReport line.clean) = false := by
    simpa using unmarked
  rw [KillReport.readReport, none, if_neg Bool.false_ne_true]

theorem Fitting.entries_sublist (lines : List Line) :
    ((Fitting.entries lines).map (·.1)).Sublist (lines.map (·.number)) := by
  induction lines with
  | nil => exact .slnil
  | cons line lines ih =>
    rw [Fitting.entries, List.filterMap_cons]
    cases Fitting.read? line.clean with
    | none => exact ih.cons line.number
    | some added => exact ih.cons_cons line.number

theorem Fitting.block_sublist (paste : Paste) : (Fitting.block paste).Sublist paste.lines := by
  have opened := List.dropWhile_sublist (l := paste.lines)
    fun line => !Fitting.headerShape.fits line.clean
  rw [Fitting.block]
  split
  · exact List.nil_sublist _
  · rename_i first rest start
    rw [start] at opened
    exact ((List.takeWhile_sublist _).cons_cons first).trans opened

theorem Fitting.readBlock_sublist {paste : Paste} {fitting : Fitting} {numbers : List Nat}
    (found : Fitting.readBlock paste = some (fitting, numbers)) :
    numbers.Sublist paste.numbers := by
  have inside := (Fitting.block_sublist paste).map Line.number
  rw [Fitting.readBlock] at found
  split at found
  · cases found
  · rename_i first rest start
    obtain ⟨header, -, built⟩ := Option.map_eq_some_iff.1 found
    obtain ⟨-, rfl⟩ := Prod.mk.inj built
    rw [start] at inside
    exact ((Fitting.entries_sublist rest).cons_cons first.number).trans inside

theorem Fitting.readBlock_of_unopened {paste : Paste}
    (unopened : ∀ line ∈ paste.lines, Fitting.headerShape.fits line.clean = false) :
    Fitting.readBlock paste = none := by
  have skipped : (paste.lines.dropWhile fun line => !Fitting.headerShape.fits line.clean) = [] :=
    List.dropWhile_eq_nil_iff.2 fun line member => by rw [unopened line member]; rfl
  rw [Fitting.readBlock, Fitting.block, skipped]

/-! ## Wallets -/

/-- A list put in order is the ascending list of its elements. -/
theorem mergeSort_eq_of_perm {numbers ordered : List Nat} (same : numbers.Perm ordered)
    (ascending : ordered.Pairwise (· < ·)) : numbers.mergeSort = ordered :=
  ((List.mergeSort_perm numbers _).trans same).eq_of_pairwise'
    (List.pairwise_mergeSort' (· ≤ ·) numbers) (ascending.imp Nat.le_of_lt)

/-- Lines taken in two rounds, put in order, are the lines that either round takes. -/
theorem Paste.mergeSort_rounds (paste : Paste) (early late : Line → Bool) :
    ((paste.lines.filter early).map (·.number) ++
        ((paste.lines.filter fun line => !early line).filter late).map (·.number)).mergeSort =
      (paste.lines.filter fun line => early line || late line).map (·.number) := by
  refine mergeSort_eq_of_perm ?_ (paste.numbers_ascending.sublist (paste.filter_sublist _))
  rw [← List.map_append]
  refine List.Perm.map _ ?_
  have split := List.filter_append_perm early
    (paste.lines.filter fun line => early line || late line)
  simp only [List.filter_filter] at split ⊢
  refine List.Perm.trans (List.Perm.of_eq ?_) split
  congr 1
  · refine List.filter_congr fun line _ => ?_
    cases early line <;> rfl
  · refine List.filter_congr fun line _ => ?_
    cases early line <;> simp

/-- The wallet reads the lines that are transactions or journal entries. -/
theorem readWallet_lines (paste : Paste) :
    ((readWallet paste).1.map (·.1) ++ (readWallet paste).2.map (·.1)).mergeSort =
      (paste.lines.filter fun line => (WalletTransaction.read? line.clean).isSome ||
        (JournalEntry.read? line.clean).isSome).map (·.number) := by
  simp only [readWallet, Paste.numbers_readLines, Paste.lines_without_filter]
  exact paste.mergeSort_rounds _ _

/-! ## Every format -/

namespace Format.Kind

/-- Whether a format of single lines takes a line, given without padding. -/
def takes (types : TypeCatalog) : Kind → List Char → Bool
  | killReport, _ | fitting, _ => false
  | lootLog, s => (Loot.read? s).isSome
  | colony, s => (Commodity.read? s).isSome
  | container, s => (ContainedItem.read? s).isSome
  | miningLedger, s => (MinedOre.read? s).isSome
  | wallet, s => (WalletTransaction.read? s).isSome || (JournalEntry.read? s).isSome
  | surveyScan, s => (SurveyedOre.read? s).isSome
  | contract, s => (ContractItem.read? s).isSome
  | listing, s => (Listing.read? types s).isSome
  | assets, s => (Asset.read? s).isSome
  | billOfMaterials, s => (BillOfMaterials.read? s).isSome
  | cargoScan, s => (CargoItem.read? s).isSome
  | directionalScan, s => (Sighting.read? s).isSome
  | mention, s => (Mention.read? types s).isSome

/-- The formats of single lines, in the order in which they are tried. -/
def lineByLine : List Kind :=
  [lootLog, colony, container, miningLedger, wallet, surveyScan, contract, listing, assets,
    billOfMaterials, cargoScan, directionalScan, mention]

theorem all_eq_cons : all = killReport :: fitting :: lineByLine := rfl

theorem lines_ofLines {α : Type} (content : List α → Content) (read : List Char → Option α)
    (paste : Paste) :
    (Reading.ofLines content (paste.readLines read)).lines =
      (paste.lines.filter fun line => (read line.clean).isSome).map (·.number) :=
  paste.numbers_readLines read

/-- A format of single lines takes the lines that it would take on their own. -/
theorem lines_eq_filter {k : Kind} (single : k ∈ lineByLine) (types : TypeCatalog) (paste : Paste) :
    (k.read types paste).lines =
      (paste.lines.filter fun line => k.takes types line.clean).map (·.number) := by
  cases k with
  | killReport => simp [lineByLine] at single
  | fitting => simp [lineByLine] at single
  | wallet => exact readWallet_lines paste
  | _ => exact lines_ofLines _ _ paste

theorem lines_eq_nil {types : TypeCatalog} {k : Kind} (single : k ∈ lineByLine) {paste : Paste}
    (untaken : ∀ line ∈ paste.lines, k.takes types line.clean = false) :
    (k.read types paste).lines = [] := by
  rw [lines_eq_filter single, List.map_eq_nil_iff, List.filter_eq_nil_iff]
  intro line member
  rw [untaken line member]
  exact Bool.false_ne_true

/-- A format takes lines of the paste, each once and in their order. -/
theorem lines_sublist (k : Kind) (types : TypeCatalog) (paste : Paste) :
    (k.read types paste).lines.Sublist paste.numbers := by
  cases k with
  | killReport =>
    rw [Kind.read]
    split
    · exact KillReport.readReport_sublist ‹_›
    · exact List.nil_sublist _
  | fitting =>
    rw [Kind.read]
    split
    · exact Fitting.readBlock_sublist ‹_›
    · exact List.nil_sublist _
  | _ =>
    rw [lines_eq_filter (by simp [lineByLine])]
    exact paste.filter_sublist _

end Format.Kind

end ItemAppraisal
