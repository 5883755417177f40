import ItemAppraisal.Proofs.LineConservation

/-!
# The items of single lines

A format of single lines lists of a paste what it lists of each line that it takes, perhaps in another order
(`listed_perm`). So formats that are tried in turn list of each line what the first of them lists that takes
it (`listed_withKinds_perm`). Whatever is listed has a quantity in the range (`quantity_inRange`).
-/

namespace ItemAppraisal

open Format (Kind)

namespace Format.Kind

/-- The items that a format of single lines lists of a line, given without padding. -/
def itemsOf (types : TypeCatalog) : Kind → List Char → List ListedItem
  | killReport, _ | fitting, _ => []
  | lootLog, s => (Loot.read? s).toList.map (·.listed)
  | colony, s => (Commodity.read? s).toList.map (·.listed)
  | container, s => (ContainedItem.read? s).toList.map (·.listed)
  | miningLedger, s => (MinedOre.read? s).toList.map (·.listed)
  | wallet, s => (WalletTransaction.read? s).toList.map (·.listed)
  | surveyScan, s => (SurveyedOre.read? s).toList.map (·.listed)
  | contract, s => (ContractItem.read? s).toList.map (·.listed)
  | listing, s => (Listing.read? types s).toList.map (·.listed)
  | assets, s => (Asset.read? s).toList.map (·.listed)
  | billOfMaterials, s => (BillOfMaterials.read? s).toList.map (·.listed)
  | cargoScan, s => (CargoItem.read? s).toList.map (·.listed)
  | directionalScan, s => (Sighting.read? s).toList.map (·.listed)
  | mention, s => (Mention.read? types s).toList.map (·.listed)

/-- The items that the first of several formats lists that takes a line. -/
def itemsOfFirst (types : TypeCatalog) (kinds : List Kind) (s : List Char) : List ListedItem :=
  match kinds.find? (·.takes types s) with
  | some k => k.itemsOf types s
  | none => []

variable {types : TypeCatalog} {k : Kind} {s : List Char}

theorem itemsOf_of_untaken (untaken : k.takes types s = false) : k.itemsOf types s = [] := by
  cases k with
  | wallet =>
    simp only [takes, Bool.or_eq_false_iff] at untaken
    simp [itemsOf, Option.isSome_eq_false_iff, Option.isNone_iff_eq_none] at untaken ⊢
    exact untaken.1
  | _ => simp_all [takes, itemsOf]

theorem itemsOfFirst_cons (kinds : List Kind) : itemsOfFirst types (k :: kinds) s =
    if k.takes types s then k.itemsOf types s else itemsOfFirst types kinds s := by
  cases taken : k.takes types s <;> simp [itemsOfFirst, taken]

/-! ## Quantities -/

theorem one_inRange : Quantity.InRange 1 := by decide

theorem known?_inRange {name number : List Char} {stack : Stack}
    (found : Listing.known? types name number = some stack) : Quantity.InRange stack.quantity := by
  simp only [Listing.known?, Option.ite_none_right_eq_some, Option.some.injEq] at found
  obtain ⟨-, rfl⟩ := found
  exact Quantity.read_inRange number

theorem listing_inRange {stack : Stack} (found : Listing.read? types s = some stack) :
    Quantity.InRange stack.quantity := by
  rw [Listing.read?] at found
  split at found
  · cases found
  · split at found
    · cases found
      exact one_inRange
    · split at found
      · rename_i first
        cases found
        obtain ⟨caps, -, known⟩ := Option.bind_eq_some_iff.1 first
        exact known?_inRange known
      · obtain ⟨caps, -, known⟩ := Option.bind_eq_some_iff.1 found
        exact known?_inRange known

theorem mentioned_inRange (parts : List (List Char)) :
    Quantity.InRange ((parts.findSome? Mention.quantity?).getD 1) := by
  cases found : parts.findSome? Mention.quantity? with
  | none => exact one_inRange
  | some n =>
    obtain ⟨part, -, quantity⟩ := List.exists_of_findSome?_eq_some found
    obtain ⟨read, -⟩ := Option.filter_eq_some_iff.1 quantity
    obtain ⟨caps, -, rfl⟩ := Option.map_eq_some_iff.1 read
    exact Quantity.read_inRange _

theorem firstRun?_inRange {length count : Nat} {before words : List (List Char)} {stack : Stack}
    (found : Mention.firstRun? types length count before words = some stack) :
    Quantity.InRange stack.quantity := by
  induction count generalizing before words with
  | zero => cases found
  | succ count ih =>
    rw [Mention.firstRun?.eq_def] at found
    simp only at found
    split at found
    · cases found
      exact mentioned_inRange _
    · cases words with
      | nil => cases found
      | cons word words => exact ih found

theorem mention_inRange {stack : Stack} (found : Mention.read? types s = some stack) :
    Quantity.InRange stack.quantity := by
  rw [Mention.read?] at found
  split at found
  · cases found
  · split at found
    · rename_i first
      cases found
      simp only [Mention.ofColumns?, Option.bind_eq_bind, Option.bind_eq_some_iff, Option.pure_def,
        Option.some.injEq] at first
      obtain ⟨index, -, name, -, rfl⟩ := first
      exact mentioned_inRange _
    · obtain ⟨length, -, run⟩ := List.exists_of_findSome?_eq_some found
      exact firstRun?_inRange run

theorem contract_inRange {item : ContractItem} (found : ContractItem.read? s = some item) :
    Quantity.InRange item.quantity := by
  simp only [ContractItem.read?, Option.bind_eq_bind, Option.bind_eq_some_iff, Option.pure_def,
    Option.some.injEq] at found
  obtain ⟨caps, -, rfl⟩ := found
  exact Quantity.read_inRange _

theorem cargo_inRange {item : CargoItem} (found : CargoItem.read? s = some item) :
    Quantity.InRange item.quantity := by
  simp only [CargoItem.read?, Option.bind_eq_bind, Option.bind_eq_some_iff, Option.pure_def,
    Option.some.injEq] at found
  obtain ⟨caps, -, rfl⟩ := found
  exact Quantity.read_inRange _

theorem asset_inRange {asset : Asset} (found : Asset.read? s = some asset) :
    Quantity.InRange asset.quantity := by
  simp only [Asset.read?, Option.bind_eq_bind, Option.bind_eq_some_iff, Option.pure_def,
    Option.some.injEq] at found
  obtain ⟨caps, -, rfl⟩ := found
  simp only
  split
  · exact one_inRange
  · exact Quantity.read_inRange _

/-- Every item that is listed of a line has a quantity in the range. -/
theorem quantity_inRange {i : ListedItem} (member : i ∈ k.itemsOf types s) :
    Quantity.InRange i.quantity := by
  cases k with
  | killReport => cases member
  | fitting => cases member
  | listing =>
    obtain ⟨stack, found, rfl⟩ := List.mem_map.1 member
    exact listing_inRange (Option.mem_toList.1 found)
  | mention =>
    obtain ⟨stack, found, rfl⟩ := List.mem_map.1 member
    exact mention_inRange (Option.mem_toList.1 found)
  | directionalScan =>
    obtain ⟨sighting, -, rfl⟩ := List.mem_map.1 member
    exact one_inRange
  | contract =>
    obtain ⟨item, found, rfl⟩ := List.mem_map.1 member
    exact contract_inRange (Option.mem_toList.1 found)
  | cargoScan =>
    obtain ⟨item, found, rfl⟩ := List.mem_map.1 member
    exact cargo_inRange (Option.mem_toList.1 found)
  | assets =>
    obtain ⟨asset, found, rfl⟩ := List.mem_map.1 member
    exact asset_inRange (Option.mem_toList.1 found)
  | _ =>
    obtain ⟨item, found, rfl⟩ := List.mem_map.1 member
    obtain ⟨caps, -, rfl⟩ := Option.map_eq_some_iff.1 (Option.mem_toList.1 found)
    exact Quantity.read_inRange _

theorem quantity_inRange_of_first {kinds : List Kind} {i : ListedItem}
    (member : i ∈ itemsOfFirst types kinds s) : Quantity.InRange i.quantity := by
  rw [itemsOfFirst] at member
  split at member
  · exact quantity_inRange member
  · cases member

/-! ## Lists of lines -/

theorem map_readLines {α : Type} (read : List Char → Option α) (listed : α → ListedItem) (paste : Paste) :
    ((paste.readLines read).map (·.2)).map listed =
      paste.lines.flatMap fun line => (read line.clean).toList.map listed := by
  rw [Paste.readLines]
  induction paste.lines with
  | nil => rfl
  | cons line lines ih => cases found : read line.clean <;> simp [found, ih]

/-- A format of single lines lists of a paste what it lists of its lines, in some order. -/
theorem listed_perm (single : k ∈ lineByLine) (types : TypeCatalog) (paste : Paste) :
    (k.read types paste).content.listed.Perm
      (paste.lines.flatMap fun line => k.itemsOf types line.clean) := by
  cases k with
  | killReport => simp [lineByLine] at single
  | fitting => simp [lineByLine] at single
  | lootLog =>
    -- The one format whose items do not come in the order of the lines.
    have sorted : (Loot.sort ((paste.readLines Loot.read?).map (·.2))).Perm
        ((paste.readLines Loot.read?).map (·.2)) := List.mergeSort_perm _ _
    exact (sorted.map Loot.listed).trans (.of_eq (map_readLines _ _ paste))
  | _ => exact .of_eq (map_readLines _ _ paste)

/-- A reading that took no lines lists nothing. -/
theorem listed_of_untaken (single : k ∈ lineByLine) {paste : Paste}
    (untaken : (k.read types paste).lines = []) : (k.read types paste).content.listed = [] := by
  have nothing : (paste.lines.flatMap fun line => k.itemsOf types line.clean) = [] := by
    refine List.flatMap_eq_nil_iff.2 fun line member => itemsOf_of_untaken ?_
    rw [lines_eq_filter single, List.map_eq_nil_iff, List.filter_eq_nil_iff] at untaken
    simpa using untaken line member
  exact (nothing ▸ listed_perm single types paste).eq_nil

end Format.Kind

/-- What one function gives of all elements and another of those that fail a test is together what each
element gives by itself, if the first one gives nothing of those that fail it. -/
theorem flatMap_append_perm {α β : Type} (test : α → Bool) (f g : α → List β) (l : List α)
    (nothing : ∀ a, test a = false → f a = []) :
    (l.flatMap f ++ (l.filter fun a => !test a).flatMap g).Perm
      (l.flatMap fun a => if test a then f a else g a) := by
  induction l with
  | nil => exact .nil
  | cons a l ih =>
    cases tested : test a with
    | true =>
      simp only [List.flatMap_cons, List.filter_cons, tested, Bool.not_true, Bool.false_eq_true,
        if_true, if_false, List.append_assoc]
      exact ih.append_left (f a)
    | false =>
      simp only [List.flatMap_cons, List.filter_cons, tested, nothing a tested, Bool.not_false,
        Bool.false_eq_true, if_true, if_false, List.nil_append]
      exact (List.perm_append_comm_assoc _ _ _).trans (ih.append_left (g a))

/-- Formats of single lines that are tried in turn list of each line what the first of them lists that takes
it. -/
theorem Parse.listed_withKinds_perm (types : TypeCatalog) {kinds : List Kind}
    (single : kinds ⊆ Kind.lineByLine) (paste : Paste) :
    (withKinds types kinds paste).listed.Perm
      (paste.lines.flatMap fun line => Kind.itemsOfFirst types kinds line.clean) := by
  induction kinds generalizing paste with
  | nil => simp [withKinds, listed, Kind.itemsOfFirst]
  | cons k kinds ih =>
    obtain ⟨singleHead, singleTail⟩ := List.cons_subset.1 single
    have own := Kind.listed_perm singleHead types paste
    have rest := ih singleTail (paste.without (k.read types paste).lines)
    have left : (paste.without (k.read types paste).lines).lines =
        paste.lines.filter fun line => !k.takes types line.clean := by
      rw [Kind.lines_eq_filter singleHead, Paste.lines_without_filter]
    have shared := flatMap_append_perm (fun line => k.takes types line.clean)
      (fun line => k.itemsOf types line.clean)
      (fun line => Kind.itemsOfFirst types kinds line.clean) paste.lines
      fun line untaken => Kind.itemsOf_of_untaken untaken
    rw [left] at rest
    simp only [Kind.itemsOfFirst_cons]
    refine List.Perm.trans (.of_eq ?_) ((own.append rest).trans shared)
    -- Without lines a format has no reading, but then it has nothing to list either.
    by_cases taken : (k.read types paste).lines = []
    · rw [withKinds_of_untaken taken, Kind.listed_of_untaken singleHead taken, taken, Paste.without_nil]
      rfl
    · rw [withKinds_of_taken taken]
      rfl

/-! ## A line of loot -/

namespace LootLine

def text : String := "20:45:13 P has looted 1 x T"

def loot : Loot := ⟨"20:45:13", "P", 1, "T"⟩

theorem clean_text (n : Nat) : Line.clean ⟨n, text⟩ = text.toList := by
  show Line.clean ⟨0, text⟩ = text.toList
  decide +kernel

theorem read_text : Loot.read? text.toList = some loot := by
  rw [Loot.read?, Text.Pattern.search?_eq_findSome?, funext Loot.shape.match?_eq_head?]
  decide +kernel

theorem takes_text (types : TypeCatalog) : Kind.lootLog.takes types text.toList = true := by
  rw [Kind.takes, read_text, Option.isSome_some]

end LootLine

end ItemAppraisal
