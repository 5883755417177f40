import ItemAppraisal.Proofs.LineItems
import Mathlib.Algebra.Ring.Nat
import Mathlib.Data.List.Perm.Basic

/-!
# Where listed items come from

Every item that the formats list of a text comes from one line that one of them took (`items_of_lines`). A
report is read line by line, each line in the section of the nearest header (`entries_eq_filterMap`), and a
fitting line by line after its opening line, so for these formats too each line has items of its own
(`Kind.itemsAt`) and a number of them that can be told in advance (`Kind.countAt`). Whatever is listed has a
quantity in the range (`Parse.quantity_inRange`).
-/

namespace ItemAppraisal

open Format (Kind)

/-- What is made of lines that are read one by one. -/
theorem Paste.flatMap_filterMap {α β : Type} (read : Line → Option α) (made : α → List β)
    (lines : List Line) :
    (lines.filterMap fun line => (read line).map (line.number, ·)).flatMap (fun e => made e.2) =
      (lines.filter fun line => (read line).isSome).flatMap fun line => ((read line).map made).getD [] := by
  induction lines with
  | nil => rfl
  | cons line lines ih => cases found : read line <;> simpa [found] using ih

/-- Elements that nothing is made of can be left out. -/
theorem flatMap_filter_of_nil {α β : Type} {made : α → List β} {keep : α → Bool} {l : List α}
    (nothing : ∀ a ∈ l, keep a = false → made a = []) : (l.filter keep).flatMap made = l.flatMap made := by
  induction l with
  | nil => rfl
  | cons a l ih =>
    obtain ⟨first, others⟩ := List.forall_mem_cons.1 nothing
    cases kept : keep a <;> simp [kept, first, ih others]

/-! ## Reports -/

namespace KillReport

/-- The section after some lines: the one that the last header among them starts. -/
def lastSection (current : Section) (lines : List Line) : Section :=
  ((lines.filterMap fun line => section? line.clean).getLast?).getD current

/-- The section that a line is in: that of the nearest header at or before it, or else of the victim. -/
def sectionAt (paste : Paste) (line : Line) : Section :=
  lastSection .victim (paste.lines.filter (·.number ≤ line.number))

theorem lastSection_cons (current : Section) (line : Line) (lines : List Line) :
    lastSection current (line :: lines) = lastSection ((section? line.clean).getD current) lines := by
  rw [lastSection, lastSection, List.filterMap_cons]
  cases section? line.clean with
  | none => rfl
  | some header => cases lines.filterMap fun line => section? line.clean <;> simp [List.getLast?_cons]

theorem entries_eq (current : Section) {lines : List Line}
    (ascending : lines.Pairwise fun a b => a.number < b.number) :
    entries current lines = lines.filterMap fun line =>
      (entryOf? (lastSection current (lines.filter (·.number ≤ line.number))) line.clean).map
        (line.number, ·) := by
  induction lines generalizing current with
  | nil => rfl
  | cons line lines ih =>
    -- The first line stands before all the others, so their sections go on from the one that it is in.
    obtain ⟨first, ascending⟩ := List.pairwise_cons.1 ascending
    have alone : (line :: lines).filter (·.number ≤ line.number) = [line] := by
      have later : lines.filter (·.number ≤ line.number) = [] := by
        rw [List.filter_eq_nil_iff]
        intro other member
        have greater := first other member
        simpa using greater
      simp [later]
    have others : ∀ other ∈ lines, (line :: lines).filter (·.number ≤ other.number) =
        line :: lines.filter (·.number ≤ other.number) := by
      intro other member
      have smaller : line.number ≤ other.number := Nat.le_of_lt (first other member)
      rw [List.filter_cons_of_pos (by simpa using smaller)]
    have rest : (lines.filterMap fun other => (entryOf? (lastSection current
          ((line :: lines).filter (·.number ≤ other.number))) other.clean).map (other.number, ·)) =
        entries ((section? line.clean).getD current) lines := by
      rw [ih _ ascending]
      refine List.filterMap_congr fun other member => ?_
      rw [others other member, lastSection_cons]
    have own : lastSection current [line] = (section? line.clean).getD current := by
      rw [lastSection_cons]
      rfl
    rw [entries, List.filterMap_cons, alone, own, rest]
    cases entryOf? ((section? line.clean).getD current) line.clean <;> rfl

/-- The lines of a report are read one by one, each in its section. -/
theorem entries_eq_filterMap (paste : Paste) :
    entries .victim paste.lines = paste.lines.filterMap fun line =>
      (entryOf? (sectionAt paste line) line.clean).map (line.number, ·) :=
  entries_eq .victim paste.ascending

/-- The items that a line of a report lists. -/
def Entry.listed : Entry → List ListedItem
  | .destroyed i =>
    [{ name := i.name, quantity := i.quantity, details := { destroyed := true, location := i.location } }]
  | .dropped i =>
    [{ name := i.name, quantity := i.quantity, details := { dropped := true, location := i.location } }]
  | _ => []

theorem listed_add (r : KillReport) (e : Entry) : (r.add e).listed.Perm (r.listed ++ e.listed) := by
  cases e with
  | destroyed i => simp [add, listed, Entry.listed]
  | dropped i =>
    simp only [add, listed, Entry.listed, List.map_append, List.append_assoc]
    exact List.perm_append_comm.append_left _
  | _ => simp [add, listed, Entry.listed]

theorem listed_foldl_add (r : KillReport) (es : List (Nat × Entry)) :
    (es.foldl (fun r e => r.add e.2) r).listed.Perm (r.listed ++ es.flatMap (·.2.listed)) := by
  induction es generalizing r with
  | nil => simp
  | cons e es ih =>
    rw [List.foldl_cons, List.flatMap_cons, ← List.append_assoc]
    exact (ih _).trans ((listed_add r e.2).append_right _)

/-- The items that a line lists in a section. -/
def itemsIn (current : Section) (s : List Char) : List ListedItem :=
  ((entryOf? current s).map Entry.listed).getD []

/-- A line that is read lists one item if it stands in one of the two sections of items and is neither blank
nor a header, and none otherwise. -/
theorem length_itemsIn {current : Section} {s : List Char} (read : (entryOf? current s).isSome = true) :
    (itemsIn current s).length =
      if (current = .destroyed ∨ current = .dropped) ∧ s ≠ [] ∧ section? s = none then 1 else 0 := by
  unfold itemsIn
  rw [entryOf?.eq_def] at read ⊢
  by_cases nothing : (s.isEmpty || (section? s).isSome) = true
  · have excluded : ¬(s ≠ [] ∧ section? s = none) := by
      rintro ⟨filled, inside⟩
      simp [filled, inside] at nothing
    simp [nothing, excluded, Entry.listed]
  · have included : s ≠ [] ∧ section? s = none := by
      simpa using nothing
    rw [if_neg nothing] at read ⊢
    cases current with
    | victim =>
      by_cases timed : timeShape.fits s = true
      · simp [timed, Entry.listed]
      · cases field? s <;> simp [timed, Entry.listed]
    | involved =>
      cases field? s with
      | none => simp
      | some part =>
        by_cases named : part.1 = "Name" <;> simp [partyEntry, named, Entry.listed]
    | destroyed =>
      obtain ⟨item, found⟩ := Option.isSome_iff_exists.1 (by simpa using read)
      simp [found, included, Entry.listed]
    | dropped =>
      obtain ⟨item, found⟩ := Option.isSome_iff_exists.1 (by simpa using read)
      simp [found, included, Entry.listed]

end KillReport

/-! ## Quantities -/

/-- A quantity that is one unless it is given. -/
theorem Quantity.inRange_getD (given : Option (List Char)) : InRange ((given.map read).getD 1) := by
  cases given with
  | none => exact Kind.one_inRange
  | some token => exact read_inRange token

theorem KillReport.item?_inRange {s : List Char} {item : LostItem} (found : item? s = some item) :
    Quantity.InRange item.quantity := by
  obtain ⟨caps, -, rfl⟩ := Option.map_eq_some_iff.1 found
  exact Quantity.inRange_getD _

theorem KillReport.quantity_inRange {current : Section} {s : List Char} {i : ListedItem}
    (member : i ∈ itemsIn current s) : Quantity.InRange i.quantity := by
  unfold itemsIn at member
  rw [entryOf?.eq_def] at member
  split at member
  · cases member
  · cases current with
    | victim =>
      by_cases timed : timeShape.fits s = true
      · simp [timed, Entry.listed] at member
      · cases named : field? s <;> simp [timed, named, Entry.listed] at member
    | involved =>
      cases named : field? s with
      | none => simp [named] at member
      | some part => by_cases first : part.1 = "Name" <;> simp [named, partyEntry, first, Entry.listed] at member
    | destroyed =>
      cases found : item? s with
      | none => simp [found] at member
      | some item =>
        simp only [found, Option.map_some, Option.getD_some, Entry.listed, List.mem_singleton] at member
        exact member ▸ item?_inRange found
    | dropped =>
      cases found : item? s with
      | none => simp [found] at member
      | some item =>
        simp only [found, Option.map_some, Option.getD_some, Entry.listed, List.mem_singleton] at member
        exact member ▸ item?_inRange found

/-! ## Fittings -/

namespace Fitting

/-- The items that a line of a fitting lists: the ship of an opening line, or else what is fitted. -/
def itemsOf (s : List Char) : List ListedItem :=
  match header? s with
  | some (ship, _) => [{ name := ship, quantity := 1 }]
  | none => ((read? s).getD []).map (·.listed)

/-- Whether a line with a module names a charge. -/
def hasCharge (s : List Char) : Bool :=
  ((moduleShape.match? (Text.withoutEnding offlineMark s)).bind (·.get? 3)).isSome

theorem isSome_header? (s : List Char) : (header? s).isSome = headerShape.fits s := by
  rw [header?, Option.isSome_map, Text.Pattern.fits]

/-- An opening line lists the ship, a blank line and the mark of an empty slot nothing, and any other line
that is read its module and perhaps a charge. -/
theorem length_itemsOf {s : List Char} (read : headerShape.fits s = true ∨ (read? s).isSome = true) :
    (itemsOf s).length =
      if headerShape.fits s = true then 1
      else if s = [] ∨ emptySlotShape.fits s = true then 0
      else if hasCharge s then 2 else 1 := by
  rw [itemsOf]
  by_cases opens : headerShape.fits s = true
  · obtain ⟨header, found⟩ := Option.isSome_iff_exists.1 ((isSome_header? s).trans opens)
    simp [found, opens]
  · have none : header? s = none := by
      rw [← Option.not_isSome_iff_eq_none, isSome_header?]
      exact opens
    have read := read.resolve_left opens
    rw [none, if_neg opens]
    rw [read?] at read ⊢
    by_cases empty : (s.isEmpty || emptySlotShape.fits s) = true
    · have nothing : s = [] ∨ emptySlotShape.fits s = true := by simpa using empty
      simp [empty, nothing]
    · have filled : ¬(s = [] ∨ emptySlotShape.fits s = true) := by simpa using empty
      rw [if_neg empty] at read ⊢
      rw [if_neg filled, hasCharge]
      rw [stacks?, Option.isSome_map] at read
      obtain ⟨caps, found⟩ := Option.isSome_iff_exists.1 read
      rw [stacks?, found]
      cases charge : caps.get? 3 <;> simp [charge]

theorem read?_inRange {s : List Char} {row : List Stack} (read : read? s = some row) :
    ∀ stack ∈ row, Quantity.InRange stack.quantity := by
  rw [read?] at read
  split at read
  · obtain rfl := Option.some.inj read
    exact List.forall_mem_nil _
  · obtain ⟨caps, -, rfl⟩ := Option.map_eq_some_iff.1 read
    refine List.forall_mem_cons.2 ⟨Quantity.inRange_getD _, fun stack member => ?_⟩
    cases charge : caps.get? 3 with
    | none => simp [charge] at member
    | some name =>
      simp only [charge, List.mem_singleton] at member
      exact member ▸ Kind.one_inRange

theorem quantity_inRange {s : List Char} {i : ListedItem} (member : i ∈ itemsOf s) :
    Quantity.InRange i.quantity := by
  rw [itemsOf] at member
  split at member
  · obtain rfl := List.mem_singleton.1 member
    exact Kind.one_inRange
  · obtain ⟨stack, inside, rfl⟩ := List.mem_map.1 member
    cases read : read? s with
    | none => rw [read] at inside; cases inside
    | some row =>
      rw [read] at inside
      exact read?_inRange read stack inside

/-- A fitting is read from an opening line and from the lines after it, none of which opens another one. -/
theorem readBlock_eq_some {paste : Paste} {f : Fitting} {numbers : List Nat}
    (found : readBlock paste = some (f, numbers)) :
    ∃ first rest, (first :: rest).Sublist paste.lines ∧ numbers = (first :: rest).map (·.number) ∧
      headerShape.fits first.clean = true ∧ (∀ line ∈ rest, (read? line.clean).isSome = true) ∧
      f.listed = (first :: rest).flatMap fun line => itemsOf line.clean := by
  have inside := block_sublist paste
  have unopened : ∀ line ∈ (block paste).tail, headerShape.fits line.clean = false := by
    rw [block]
    split
    · exact List.forall_mem_nil _
    · intro line member
      simpa using List.mem_takeWhile_imp member
  rw [readBlock] at found
  split at found
  · cases found
  · rename_i first rest start
    rw [start] at inside unopened
    obtain ⟨⟨ship, name⟩, header, built⟩ := Option.map_eq_some_iff.1 found
    obtain ⟨rfl, rfl⟩ := Prod.mk.inj built
    have opening : itemsOf first.clean = [{ name := ship, quantity := 1 }] := by rw [itemsOf, header]
    have others : ∀ line ∈ rest.filter fun line => (read? line.clean).isSome,
        itemsOf line.clean = ((read? line.clean).map fun added => added.map Stack.listed).getD [] := by
      intro line member
      have none : header? line.clean = none := by
        rw [← Option.not_isSome_iff_eq_none, isSome_header?, unopened line (List.mem_filter.1 member).1]
        exact Bool.false_ne_true
      rw [itemsOf, none]
      cases read? line.clean <;> rfl
    refine ⟨first, rest.filter fun line => (read? line.clean).isSome, ?_, ?_, ?_, ?_, ?_⟩
    · exact (List.filter_sublist.cons_cons first).trans inside
    · rw [List.map_cons, entries, Paste.numbers_filterMap]
    · rw [← isSome_header?, header, Option.isSome_some]
    · intro line member
      exact (List.mem_filter.1 member).2
    · rw [List.flatMap_cons, opening, List.flatMap_congr others, ← Paste.flatMap_filterMap, listed,
        entries, List.map_flatMap]
      rfl

end Fitting

/-! ## Lines of a reading -/

/-- The lines of a paste that a reading took. -/
def Reading.linesOf (r : Reading) (paste : Paste) : List Line :=
  paste.lines.filter (·.number ∈ r.lines)

/-- Lines of a paste are told from the others by their numbers. -/
theorem Reading.linesOf_eq {r : Reading} {paste : Paste} {taken : List Line}
    (inside : taken.Sublist paste.lines) (numbers : r.lines = taken.map (·.number)) :
    r.linesOf paste = taken := by
  rw [linesOf, numbers]
  have kept : taken.Sublist (paste.lines.filter (·.number ∈ taken.map (·.number))) := by
    have whole : taken.filter (·.number ∈ taken.map (·.number)) = taken :=
      List.filter_eq_self.2 fun line member => decide_eq_true (List.mem_map_of_mem member)
    have filtered := inside.filter fun line => decide (line.number ∈ taken.map (·.number))
    rwa [whole] at filtered
  have distinct : paste.lines.Nodup := by
    refine paste.ascending.imp fun {a b} less same => ?_
    rw [same] at less
    exact Nat.lt_irrefl _ less
  have back : paste.lines.filter (·.number ∈ taken.map (·.number)) ⊆ taken := by
    intro line member
    obtain ⟨listed, number⟩ := List.mem_filter.1 member
    obtain ⟨other, among, same⟩ := List.mem_map.1 (of_decide_eq_true number)
    rwa [Paste.eq_of_number_eq listed (inside.subset among) same.symm]
  exact (kept.eq_of_length_le (List.subperm_of_subset (distinct.filter _) back).length_le).symm

namespace Format.Kind

variable {types : TypeCatalog} {k : Kind} {paste : Paste} {line : Line}

/-- The items that a line of a paste gives to a format that takes it. -/
def itemsAt (types : TypeCatalog) (paste : Paste) (line : Line) : Kind → List ListedItem
  | killReport => KillReport.itemsIn (KillReport.sectionAt paste line) line.clean
  | fitting => Fitting.itemsOf line.clean
  | k => k.itemsOf types line.clean

/-- How many items a line of a paste gives to a format that takes it. A report lists one for each line of its
two sections of items but blank lines and headers, a fitting the ship for its opening line, a module and
perhaps a charge for any other line but blank ones and marks of empty slots, a wallet one for each
transaction, and each of the other formats one for each line. -/
def countAt (paste : Paste) (line : Line) : Kind → Nat
  | killReport =>
    let current := KillReport.sectionAt paste line
    if (current = .destroyed ∨ current = .dropped) ∧ line.clean ≠ [] ∧
      KillReport.section? line.clean = none then 1 else 0
  | fitting =>
    if Fitting.headerShape.fits line.clean = true then 1
    else if line.clean = [] ∨ Fitting.emptySlotShape.fits line.clean = true then 0
    else if Fitting.hasCharge line.clean then 2 else 1
  | wallet => if (WalletTransaction.read? line.clean).isSome then 1 else 0
  | _ => 1

theorem itemsAt_of_single (single : k ∈ lineByLine) (types : TypeCatalog) (paste : Paste) (line : Line) :
    k.itemsAt types paste line = k.itemsOf types line.clean := by
  cases k with
  | killReport => simp [lineByLine] at single
  | fitting => simp [lineByLine] at single
  | _ => rfl

theorem itemsAt_inRange {i : ListedItem} (member : i ∈ k.itemsAt types paste line) :
    Quantity.InRange i.quantity := by
  cases k with
  | killReport =>
    have listed : i ∈ KillReport.itemsIn (KillReport.sectionAt paste line) line.clean := member
    exact KillReport.quantity_inRange listed
  | fitting =>
    have listed : i ∈ Fitting.itemsOf line.clean := member
    exact Fitting.quantity_inRange listed
  | _ =>
    rw [itemsAt_of_single (by simp [lineByLine])] at member
    exact Kind.quantity_inRange member

end Format.Kind

/-- A reading lists what its lines give, in some order, each of them as many items as it is to. -/
structure Reading.Accounts (r : Reading) (types : TypeCatalog) (paste : Paste) : Prop where
  numbers : (r.linesOf paste).map (·.number) = r.lines
  perm : r.content.listed.Perm ((r.linesOf paste).flatMap (r.kind.itemsAt types paste))
  count : ∀ line ∈ r.linesOf paste, (r.kind.itemsAt types paste line).length = r.kind.countAt paste line

theorem Reading.accounts_of_taken {r : Reading} {types : TypeCatalog} {paste : Paste} {taken : List Line}
    (inside : taken.Sublist paste.lines)
    (numbers : r.lines = taken.map (·.number))
    (perm : r.content.listed.Perm (taken.flatMap (r.kind.itemsAt types paste)))
    (count : ∀ line ∈ taken, (r.kind.itemsAt types paste line).length = r.kind.countAt paste line) :
    r.Accounts types paste := by
  have same := linesOf_eq inside numbers
  refine ⟨by rw [same, numbers], by rwa [same], by rwa [same]⟩

/-! ## Every format -/

namespace Format.Kind

variable {types : TypeCatalog} {k : Kind} {paste : Paste} {line : Line}

theorem length_itemsOf_of_takes (single : k ∈ lineByLine) (paste : Paste)
    (taken : k.takes types line.clean = true) :
    (k.itemsOf types line.clean).length = k.countAt paste line := by
  cases k with
  | killReport => simp [lineByLine] at single
  | fitting => simp [lineByLine] at single
  | wallet =>
    rw [itemsOf, countAt, List.length_map]
    cases WalletTransaction.read? line.clean <;> rfl
  | _ =>
    rw [takes] at taken
    obtain ⟨item, found⟩ := Option.isSome_iff_exists.1 taken
    simp [itemsOf, countAt, found]

theorem accounts_single (single : k ∈ lineByLine) (types : TypeCatalog) (paste : Paste) :
    (k.read types paste).Accounts types paste := by
  refine Reading.accounts_of_taken List.filter_sublist (lines_eq_filter single types paste) ?_ ?_
  · rw [kind_read, flatMap_filter_of_nil]
    · simp only [itemsAt_of_single single]
      exact listed_perm single types paste
    · intro line _ untaken
      rw [itemsAt_of_single single]
      exact itemsOf_of_untaken untaken
  · intro line member
    rw [kind_read, itemsAt_of_single single]
    exact length_itemsOf_of_takes single paste (List.mem_filter.1 member).2

theorem accounts_killReport (types : TypeCatalog) (paste : Paste) :
    (killReport.read types paste).Accounts types paste := by
  rw [Kind.read, KillReport.readReport]
  split
  · rename_i report numbers found
    split at found
    · obtain ⟨rfl, rfl⟩ := Prod.mk.inj (Option.some.inj found)
      have read := KillReport.entries_eq_filterMap paste
      refine Reading.accounts_of_taken List.filter_sublist (by rw [read, Paste.numbers_filterMap]) ?_ ?_
      · have listed := KillReport.listed_foldl_add {} (KillReport.entries .victim paste.lines)
        rw [read, Paste.flatMap_filterMap] at listed
        rw [read]
        exact listed
      · intro line member
        exact KillReport.length_itemsIn (List.mem_filter.1 member).2
    · cases found
  · exact Reading.accounts_of_taken (List.nil_sublist _) rfl .nil (List.forall_mem_nil _)

/-- Where no block opens there is a ship without a name in the content of the reading, but no line is
taken. -/
theorem accounts_fitting (types : TypeCatalog) {paste : Paste}
    (taken : (fitting.read types paste).lines ≠ []) : (fitting.read types paste).Accounts types paste := by
  cases found : Fitting.readBlock paste with
  | none => simp [Kind.read, found] at taken
  | some block =>
    obtain ⟨f, numbers⟩ := block
    obtain ⟨first, rest, inside, rfl, opens, others, listed⟩ := Fitting.readBlock_eq_some found
    have read : fitting.read types paste = ⟨.fitting f, (first :: rest).map (·.number)⟩ := by
      rw [Kind.read, found]
    have given : Content.listed (.fitting f) = (first :: rest).flatMap (fitting.itemsAt types paste) := listed
    have count (line : Line)
        (read : Fitting.headerShape.fits line.clean = true ∨ (Fitting.read? line.clean).isSome = true) :
        (fitting.itemsAt types paste line).length = fitting.countAt paste line := by
      rw [itemsAt, countAt]
      exact Fitting.length_itemsOf read
    rw [read]
    refine Reading.accounts_of_taken inside rfl (.of_eq given) (List.forall_mem_cons.2 ⟨?_, ?_⟩)
    · exact count first (.inl opens)
    · intro line member
      exact count line (.inr (others line member))

/-- A reading that took lines lists what they give. -/
theorem accounts_read (k : Kind) (types : TypeCatalog) {paste : Paste}
    (taken : (k.read types paste).lines ≠ []) : (k.read types paste).Accounts types paste := by
  cases k with
  | killReport => exact accounts_killReport types paste
  | fitting => exact accounts_fitting types taken
  | _ => exact accounts_single (by simp [lineByLine]) types paste

/-- Only a report looks at the lines around a line. -/
theorem itemsAt_eq (other : k ≠ killReport) (types : TypeCatalog) (paste left : Paste) (line : Line) :
    k.itemsAt types paste line = k.itemsAt types left line ∧
      k.countAt paste line = k.countAt left line := by
  cases k with
  | killReport => exact absurd rfl other
  | _ => exact ⟨rfl, rfl⟩

/-- What another format reads of some of the lines of a paste it reads of the paste. -/
theorem accounts_of_left (other : k ≠ killReport) {left : Paste} (inside : left.lines.Sublist paste.lines)
    (accounts : (k.read types left).Accounts types left) : (k.read types left).Accounts types paste := by
  have items line := (itemsAt_eq other types paste left line).1
  have counts line := (itemsAt_eq other types paste left line).2
  have taken : ((k.read types left).linesOf left).Sublist paste.lines := List.filter_sublist.trans inside
  refine Reading.accounts_of_taken taken accounts.numbers.symm ?_ ?_
  · simpa only [kind_read, items] using accounts.perm
  · simpa only [kind_read, items, counts] using accounts.count

end Format.Kind

/-! ## Every text -/

namespace Parse

variable {types : TypeCatalog} {paste : Paste} {r : Reading}

/-- Every reading is that of one of the formats, of lines that were left to it. -/
theorem mem_readings {kinds : List Kind} (member : r ∈ (withKinds types kinds paste).readings) :
    ∃ k ∈ kinds, ∃ left : Paste, left.lines.Sublist paste.lines ∧ (k.read types left).lines ≠ [] ∧
      r = k.read types left := by
  induction kinds generalizing paste with
  | nil => cases member
  | cons k kinds ih =>
    by_cases taken : (k.read types paste).lines = []
    · rw [withKinds_of_untaken taken] at member
      obtain ⟨other, among, rest⟩ := ih member
      exact ⟨other, List.mem_cons_of_mem _ among, rest⟩
    · rw [withKinds_of_taken taken] at member
      obtain rfl | member := List.mem_cons.1 member
      · exact ⟨k, List.mem_cons_self, paste, .refl _, taken, rfl⟩
      · obtain ⟨other, among, left, inside, rest⟩ := ih member
        exact ⟨other, List.mem_cons_of_mem _ among, left, inside.trans List.filter_sublist, rest⟩

theorem accounts_of_mem (member : r ∈ (all types paste).readings) : r.Accounts types paste := by
  have others : ∀ {left : Paste}, left.lines.Sublist paste.lines →
      r ∈ (withKinds types (.fitting :: Kind.lineByLine) left).readings →
        r.Accounts types paste := by
    intro left inside member
    obtain ⟨k, among, rest, within, taken, rfl⟩ := mem_readings member
    have other : k ≠ .killReport := by
      rintro rfl
      revert among
      decide
    exact Kind.accounts_of_left other (within.trans inside) (k.accounts_read types taken)
  rw [all, Kind.all_eq_cons] at member
  by_cases taken : (Kind.killReport.read types paste).lines = []
  · rw [withKinds_of_untaken taken] at member
    exact others (.refl _) member
  · rw [withKinds_of_taken taken] at member
    obtain rfl | member := List.mem_cons.1 member
    · exact Kind.accounts_read .killReport types taken
    · exact others List.filter_sublist member

/-- Every item that is listed has a quantity in the range. -/
theorem quantity_inRange {i : ListedItem} (member : i ∈ (all types paste).listed) :
    Quantity.InRange i.quantity := by
  obtain ⟨r, read, listed⟩ := List.mem_flatMap.1 member
  obtain ⟨line, -, given⟩ := List.mem_flatMap.1 ((accounts_of_mem read).perm.mem_iff.1 listed)
  exact Kind.itemsAt_inRange given

end Parse

/-- Every item that the formats list of a text is one of those that a line gives to the format that took it,
no line is taken twice, and each line that is taken gives as many items as it is to: see `Kind.countAt`. -/
theorem items_of_lines (types : TypeCatalog) (text : String) :
    let paste := Paste.ofText text
    let p := Parse.all types paste
    (p.readings.flatMap fun r => r.linesOf paste).Nodup ∧
    (∀ r ∈ p.readings, (r.linesOf paste).map (·.number) = r.lines ∧
      r.content.listed.Perm ((r.linesOf paste).flatMap (r.kind.itemsAt types paste)) ∧
      ∀ line ∈ r.linesOf paste, (r.kind.itemsAt types paste line).length = r.kind.countAt paste line) ∧
    p.listed.Perm (p.readings.flatMap fun r => (r.linesOf paste).flatMap (r.kind.itemsAt types paste)) ∧
    p.listed.length = (p.readings.map fun r => ((r.linesOf paste).map (r.kind.countAt paste)).sum).sum := by
  intro paste p
  have accounts : ∀ r ∈ p.readings, r.Accounts types paste := fun r member =>
    Parse.accounts_of_mem member
  have conserves : p.Conserves paste := Parse.withKinds_conserves types Kind.all paste
  have numbers : (p.readings.flatMap fun r => r.linesOf paste).map (·.number) =
      p.readings.flatMap (·.lines) := by
    rw [List.map_flatMap]
    exact List.flatMap_congr fun r member => (accounts r member).numbers
  have perm : p.listed.Perm
      (p.readings.flatMap fun r => (r.linesOf paste).flatMap (r.kind.itemsAt types paste)) :=
    List.Perm.flatMap_left _ fun r member => (accounts r member).perm
  refine ⟨?_, fun r member => ⟨(accounts r member).numbers, (accounts r member).perm,
    (accounts r member).count⟩, perm, ?_⟩
  · have ascending : p.lines.Nodup := conserves.lines_ascending.imp Nat.ne_of_lt
    apply List.Nodup.of_map (·.number)
    rw [numbers]
    exact (List.mergeSort_perm _ _).nodup_iff.1 ascending
  · rw [perm.length_eq, List.length_flatMap]
    congr 1
    refine List.map_congr_left fun r member => ?_
    rw [List.length_flatMap]
    congr 1
    exact List.map_congr_left (accounts r member).count

end ItemAppraisal
