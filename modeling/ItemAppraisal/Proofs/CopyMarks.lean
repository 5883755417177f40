import ItemAppraisal.Pricing.Engine
import ItemAppraisal.Proofs.CaseFolding
import ItemAppraisal.Proofs.JoinedPastes
import ItemAppraisal.Proofs.PriceFormulas

/-!
# Marks of blueprint copies

Of the items of a name one is left by merging, and it is a blueprint copy if the first of them is
(`groupOf_merge_of_first`). So all units of the name count as copies then, or all as originals, and they
are priced as such (`merge_marks`).
-/

namespace ItemAppraisal

open Format (Kind)

/-! ## Prices of copies -/

/-- Prices that were found as those of a blueprint copy, or none. -/
def Prices.IsOfCopy (prices : Prices) : Prop :=
  prices.strategy = blueprintCopyStrategy ∨ prices = {}

namespace Pricing

variable {p : Pricing} {market : String} {item : AppraisedItem}

theorem pricesFor_of_original (original : item.details.blueprintCopy = false) :
    p.pricesFor market item = p.ordinaryPrices market item := by
  rw [pricesFor, original, if_neg Bool.false_ne_true]

/-- A copy has no price that was found in another way than as that of a copy. -/
theorem isOfCopy_pricesFor (copy : item.details.blueprintCopy = true) :
    (p.pricesFor market item).IsOfCopy := by
  rw [pricesFor, copy, if_pos rfl]
  cases valued : CopyValue.ofItem? p.types p.prices p.settings market item with
  | none => exact .inr rfl
  | some v =>
    left
    show (if p.settings.valueBlueprintCopies then v.net else .ofStrategy blueprintCopyStrategy).strategy = _
    split
    · exact (CopyValue.sameLabels_net valued).strategy
    · rfl

end Pricing

/-! ## Names -/

namespace ListedItem

theorem mergeKey_eq_empty_iff {i : ListedItem} : i.mergeKey = "" ↔ i.isNamed = false := by
  rw [mergeKey, Text.uppercase_eq_empty_iff, isNamed, Bool.not_eq_false', String.isEmpty_iff]

/-- Items with a key other than the empty one have names. -/
theorem groupOf_filter_isNamed {key : String} (named : key ≠ "") (items : List ListedItem) :
    groupOf key (items.filter isNamed) = groupOf key items := by
  rw [groupOf, groupOf, List.filter_filter]
  refine List.filter_congr fun i _ => ?_
  by_cases same : i.mergeKey = key
  · have filled : i.isNamed = true := by
      rw [← Bool.not_eq_false, ← mergeKey_eq_empty_iff, same]
      exact named
    simp [same, filled]
  · simp [same]

/-- Nothing is left of the items without a name. -/
theorem groupOf_empty_merge (items : List ListedItem) : groupOf "" (merge items) = [] := by
  have none : groupOf "" (items.filter isNamed) = [] := by
    refine List.filter_eq_nil_iff.2 fun i member => ?_
    rw [beq_iff_eq, mergeKey_eq_empty_iff, Bool.not_eq_false]
    exact (List.mem_filter.1 member).2
  rw [groupOf_merge, none]
  rfl

/-! ## Marks -/

/-- The units of a name that count as blueprint copies, or those that do not. -/
def unitsMarked (copy : Bool) (key : String) (items : List ListedItem) : Int :=
  totalQuantity ((groupOf key items).filter (·.details.blueprintCopy == copy))

/-- Every unit counts as one of a copy or not. -/
theorem unitsMarked_add (copy : Bool) (key : String) (items : List ListedItem) :
    unitsMarked copy key items + unitsMarked (!copy) key items = totalQuantity (groupOf key items) := by
  have other : (groupOf key items).filter (·.details.blueprintCopy == !copy) =
      (groupOf key items).filter fun i => !(i.details.blueprintCopy == copy) :=
    List.filter_congr fun i _ => by cases i.details.blueprintCopy <;> cases copy <;> rfl
  have parts := List.filter_append_perm (·.details.blueprintCopy == copy) (groupOf key items)
  rw [unitsMarked, unitsMarked, other, totalQuantity, totalQuantity, ← Quantity.sum_append,
    ← List.map_append]
  exact Quantity.sum_perm (parts.map _)

section Merging

variable {items rest : List ListedItem} {first : ListedItem} {key : String} (named : key ≠ "")
  (nonneg : ∀ i ∈ groupOf key items, 0 ≤ i.quantity)
  (bounded : totalQuantity (groupOf key items) ≤ Quantity.greatest)
  (group : groupOf key items = first :: rest)
include named nonneg bounded group

/-- Merging leaves one item of a name, with the details of the first one and the units of all. -/
theorem groupOf_merge_of_first :
    ∃ item, groupOf key (merge items) = [item] ∧ item.details = first.details ∧
      item.quantity = totalQuantity (groupOf key items) := by
  have total : totalQuantity (groupOf key (merge items)) = totalQuantity (groupOf key items) := by
    rw [← groupOf_filter_isNamed named] at nonneg bounded
    rw [totalQuantity_groupOf_merge nonneg bounded, groupOf_filter_isNamed named]
  rw [← total, groupOf_merge, groupOf_filter_isNamed named, group, addAll_none_cons]
  exact ⟨_, rfl, rfl, (Int.add_zero _).symm⟩

/-- All units of a name have the mark of the first item after merging. -/
theorem unitsMarked_merge :
    unitsMarked first.details.blueprintCopy key (merge items) = totalQuantity (groupOf key items) ∧
    unitsMarked (!first.details.blueprintCopy) key (merge items) = 0 := by
  obtain ⟨item, left, details, quantity⟩ := groupOf_merge_of_first named nonneg bounded group
  rw [unitsMarked, unitsMarked, left, ← details, ← quantity]
  simp [totalQuantity]

/-- The units of both marks are kept if none has the mark that the first item does not have, and only
then. -/
theorem unitsMarked_merge_iff :
    (∀ copy, unitsMarked copy key (merge items) = unitsMarked copy key items) ↔
      unitsMarked (!first.details.blueprintCopy) key items = 0 := by
  obtain ⟨same, other⟩ := unitsMarked_merge named nonneg bounded group
  have parts := unitsMarked_add first.details.blueprintCopy key items
  constructor
  · intro kept
    rw [← kept, other]
  · -- The units of both marks are all units, so those of the first mark were all of them before.
    intro none copy
    by_cases mark : copy = first.details.blueprintCopy
    · rw [mark, same]
      omega
    · rw [Bool.eq_not.2 mark, other, none]

end Merging

end ListedItem

open ListedItem

/-! ## A contract with a copy and originals -/

namespace CopyContract

open Text.Pattern (match?_eq_head? search?_eq_findSome?)

/-- A line of a copy. -/
def copy : String := "T\t1\tA\tB\tBLUEPRINT COPY"

/-- A line of two originals. -/
def original : String := "T\t2\tA\tB"

def text : String := copy ++ "\n" ++ original

variable (types : TypeCatalog)

theorem lines_text : (Paste.ofText text).lines = [⟨1, copy⟩, ⟨2, original⟩] := by decide +kernel

theorem isBlockFree_text : (Paste.ofText text).IsBlockFree := by
  constructor
  · rw [lines_text]
    decide +kernel
  · intro line member
    rw [lines_text] at member
    rw [Text.Pattern.fits_eq_false_iff]
    revert line
    decide +kernel

/-- The formats of single lines that are tried before contracts. -/
def earlier : List Kind :=
  [.lootLog, .colony, .container, .miningLedger, .wallet, .surveyScan]

theorem takes_eq_false : ∀ k ∈ earlier, ∀ line ∈ (Paste.ofText text).lines,
    k.takes types line.clean = false := by
  rw [lines_text]
  simp only [earlier, List.forall_mem_cons, List.not_mem_nil, false_imp_iff, implies_true, and_true,
    Kind.takes, Loot.read?, Commodity.read?, ContainedItem.read?, MinedOre.read?, WalletTransaction.read?,
    JournalEntry.read?, SurveyedOre.read?, Option.isSome_map, search?_eq_findSome?,
    funext Loot.shape.match?_eq_head?, match?_eq_head?]
  decide +kernel

theorem copyRuns?_eq (remarks : List Char) : ContractItem.copyRuns? remarks =
    (((Text.Pattern.ends (fun _ => true) remarks).findSome? fun s =>
      (ContractItem.copyMark.readings ([(.opening 0, s)], s)).head?.map fun r =>
        (.closing 0, r.2) :: r.1).map fun (caps : Text.Captures) =>
          ((caps.get? 1).map Quantity.read).getD 1) := by
  rw [ContractItem.copyRuns?, search?_eq_findSome?, funext ContractItem.copyMark.match?_eq_head?]

theorem read_text : Kind.contract.read types (Paste.ofText text) =
    ⟨.contract [⟨"T", 1, "A", "B", "BLUEPRINT COPY", false, true, 1⟩,
      ⟨"T", 2, "A", "B", "", false, false, 0⟩], [1, 2]⟩ := by
  have first : ContractItem.read? (Line.clean ⟨1, copy⟩) =
      some ⟨"T", 1, "A", "B", "BLUEPRINT COPY", false, true, 1⟩ := by
    rw [ContractItem.read?, match?_eq_head?, funext copyRuns?_eq]
    decide +kernel
  have second : ContractItem.read? (Line.clean ⟨2, original⟩) =
      some ⟨"T", 2, "A", "B", "", false, false, 0⟩ := by
    rw [ContractItem.read?, match?_eq_head?, funext copyRuns?_eq]
    decide +kernel
  rw [Kind.read, Paste.readLines, lines_text]
  simp [first, second, Reading.ofLines]

/-- The contract lists the copy before the originals. -/
theorem listed_text : (Parse.all types (Paste.ofText text)).listed =
    [⟨"T", 1, { blueprintCopy := true, copyRuns := 1 }⟩, ⟨"T", 2, {}⟩] := by
  have order : Kind.lineByLine = earlier ++ .contract ::
      [.listing, .assets, .billOfMaterials, .cargoScan, .directionalScan, .mention] := rfl
  have untaken : ∀ k ∈ earlier, (k.read types (Paste.ofText text)).lines = [] := by
    intro k member
    have single : k ∈ Kind.lineByLine := by
      rw [order]
      exact List.mem_append_left _ member
    exact Kind.lines_eq_nil single (takes_eq_false types k member)
  have filled : (Paste.ofText text).lines ≠ [] := by simp [lines_text]
  have whole : (Kind.contract.read types (Paste.ofText text)).lines = (Paste.ofText text).numbers := by
    rw [read_text, Paste.numbers, lines_text]
    rfl
  rw [Parse.listed, Parse.all_of_blockFree types isBlockFree_text, order,
    Parse.withKinds_of_whole untaken filled whole, read_text]
  rfl

end CopyContract

/-! ## What merging leaves -/

/-- What merging makes of the items of a name in a parse, given the first of them. -/
structure MarkedByFirst (p : Parse) (key : String) (first : ListedItem) : Prop where
  /-- All units count as copies if the first item is a copy, and as originals if not. -/
  all_units : unitsMarked first.details.blueprintCopy key (merge p.listed) =
    totalQuantity (groupOf key p.listed)
  no_others : unitsMarked (!first.details.blueprintCopy) key (merge p.listed) = 0
  kept_iff : (∀ copy, unitsMarked copy key (merge p.listed) = unitsMarked copy key p.listed) ↔
    unitsMarked (!first.details.blueprintCopy) key p.listed = 0
  /-- One item is left, with the details of the first one. Whatever is found out about it besides, it has the
  prices of a copy or none if the first item is a copy, and the ordinary ones if not. -/
  priced : ∃ item, groupOf key (merge p.listed) = [item] ∧ item.details = first.details ∧
    ∀ (pricing : Pricing) (market : String) (found : AppraisedItem), found.details = item.details →
      (first.details.blueprintCopy = true → (pricing.pricesFor market found).IsOfCopy) ∧
      (first.details.blueprintCopy = false →
        pricing.pricesFor market found = pricing.ordinaryPrices market found)

/-- Merging the items of a parse leaves nothing without a name. Of each name it leaves one item, which is a
blueprint copy if the first item of the name is. So copies and originals keep their units if all units have
the mark of the first item, and only then. -/
theorem merge_marks (p : Parse) (key : String) (nonneg : ∀ i ∈ groupOf key p.listed, 0 ≤ i.quantity)
    (bounded : totalQuantity (groupOf key p.listed) ≤ Quantity.greatest) :
    (key = "" ∨ groupOf key p.listed = [] → groupOf key (merge p.listed) = []) ∧
    (key ≠ "" → ∀ first rest, groupOf key p.listed = first :: rest → MarkedByFirst p key first) := by
  constructor
  · rintro (rfl | none)
    · exact groupOf_empty_merge _
    · have fewer : (groupOf key (p.listed.filter isNamed)).Sublist (groupOf key p.listed) :=
        List.filter_sublist.filter _
      rw [none, List.sublist_nil] at fewer
      rw [groupOf_merge, fewer]
      rfl
  · intro named first rest group
    obtain ⟨same, other⟩ := unitsMarked_merge named nonneg bounded group
    obtain ⟨item, left, details, -⟩ := groupOf_merge_of_first named nonneg bounded group
    refine ⟨same, other, unitsMarked_merge_iff named nonneg bounded group, item, left, details, ?_⟩
    intro pricing market found carried
    rw [← details, ← carried]
    exact ⟨Pricing.isOfCopy_pricesFor, Pricing.pricesFor_of_original⟩

theorem merge_marks_of_contract :
    let types := TypeCatalog.ofEntries [] .nil
    let listed := (Parse.all types (Paste.ofText CopyContract.text)).listed
    (∀ i ∈ groupOf "T" listed, 0 ≤ i.quantity) ∧ totalQuantity (groupOf "T" listed) = 3 ∧
    unitsMarked true "T" (merge listed) = 3 ∧ unitsMarked false "T" (merge listed) = 0 ∧
    ∃ item, groupOf "T" (merge listed) = [item] ∧ item.details.copyRuns = 1 ∧
      ∀ (pricing : Pricing) (market : String), (pricing.pricesFor market (.ofListed item)).IsOfCopy := by
  intro types listed
  have total : totalQuantity (groupOf "T" listed) = 3 := by
    simp only [listed, CopyContract.listed_text]
    decide +kernel
  have group : groupOf "T" listed =
      [⟨"T", 1, { blueprintCopy := true, copyRuns := 1 }⟩, ⟨"T", 2, {}⟩] := by
    simp only [listed, CopyContract.listed_text]
    decide +kernel
  have nonneg : ∀ i ∈ groupOf "T" listed, 0 ≤ i.quantity := by
    rw [group]
    decide
  have bounded : totalQuantity (groupOf "T" listed) ≤ Quantity.greatest := by
    rw [total]
    decide
  obtain ⟨-, marks⟩ := merge_marks (Parse.all types (Paste.ofText CopyContract.text)) "T" nonneg bounded
  obtain ⟨copies, originals, -, item, left, details, priced⟩ := marks (by decide) _ _ group
  exact ⟨nonneg, total, copies.trans total, originals, item, left, congrArg (·.copyRuns) details,
    fun pricing market => (priced pricing market (.ofListed item) rfl).1 rfl⟩

/-! ## A ship without a name -/

namespace NamelessShip

/-- A fitting of a ship without a name. -/
def text : String := "[ , x]"

/-- The fitting lists the ship, and nothing is fitted to it. -/
theorem listed_text (types : TypeCatalog) : (Parse.all types (Paste.ofText text)).listed = [⟨"", 1, {}⟩] := by
  have lines : (Paste.ofText text).lines = [⟨1, text⟩] := by decide +kernel
  have unmarked : ∀ line ∈ (Paste.ofText text).lines, KillReport.marksReport line.clean = false := by
    rw [lines]
    decide +kernel
  have opened : Fitting.headerShape.fits (Line.clean ⟨1, text⟩) = true := by
    rw [Text.Pattern.fits_iff]
    decide +kernel
  have header : Fitting.header? (Line.clean ⟨1, text⟩) = some ("", "x") := by
    rw [Fitting.header?, Text.Pattern.match?_eq_head?]
    decide +kernel
  have unreported : ∀ k ∈ [Kind.killReport], (k.read types (Paste.ofText text)).lines = [] := by
    intro k member
    rw [List.mem_singleton.1 member, Kind.read, KillReport.readReport_of_unmarked unmarked]
  have block : Fitting.block (Paste.ofText text) = [⟨1, text⟩] := by
    rw [Fitting.block, lines, List.dropWhile_cons, opened]
    rfl
  have read : Kind.fitting.read types (Paste.ofText text) = ⟨.fitting ⟨"", "x", []⟩, [1]⟩ := by
    rw [Kind.read, Fitting.readBlock, block]
    simp only [header]
    rfl
  have filled : (Paste.ofText text).lines ≠ [] := by simp [lines]
  have whole : (Kind.fitting.read types (Paste.ofText text)).lines = (Paste.ofText text).numbers := by
    rw [read, Paste.numbers, lines]
    rfl
  have parse := Parse.withKinds_of_whole unreported filled whole Kind.lineByLine
  rw [List.singleton_append, ← Kind.all_eq_cons] at parse
  rw [Parse.listed, Parse.all, parse, read]
  rfl

end NamelessShip

/-- Merging does not keep marks. A copy before originals of its name makes copies of them, and what has no
name is dropped. -/
theorem merge_mixes_marks :
    let types := TypeCatalog.ofEntries [] .nil
    let mixed := (Parse.all types (Paste.ofText CopyContract.text)).listed
    let nameless := (Parse.all types (Paste.ofText NamelessShip.text)).listed
    (unitsMarked true "T" mixed = 1 ∧ unitsMarked true "T" (merge mixed) = 3 ∧
      unitsMarked false "T" mixed = 2 ∧ unitsMarked false "T" (merge mixed) = 0) ∧
    unitsMarked false "" nameless = 1 ∧ unitsMarked false "" (merge nameless) = 0 := by
  simp only [CopyContract.listed_text, NamelessShip.listed_text, merge_eq_map_mergeTable]
  decide +kernel

end ItemAppraisal
