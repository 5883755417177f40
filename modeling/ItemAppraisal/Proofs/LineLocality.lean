import ItemAppraisal.Proofs.LineConservation

/-!
# Which format takes a line

The formats of single lines go over what the formats of blocks leave, each over what the ones before it
leave. All the same, a line goes to the first format that would take it if it were the whole paste
(`takerOf?_eq_firstFor?`), so the other lines have no say in it.
-/

namespace ItemAppraisal

open Format (Kind)

/-- The paste of one line. -/
def Paste.single (line : Line) : Paste :=
  ⟨[line], List.pairwise_singleton _ line⟩

/-- What the formats of blocks leave of a paste. -/
def Paste.afterBlocks (types : TypeCatalog) (paste : Paste) : Paste :=
  let afterReport := paste.without (Kind.killReport.read types paste).lines
  afterReport.without (Kind.fitting.read types afterReport).lines

namespace Format.Kind

/-- Whether a format takes a line that is the whole paste. -/
def takesAlone (types : TypeCatalog) (line : Line) (k : Kind) : Bool :=
  (k.read types (.single line)).lines.contains line.number

/-- The first format of single lines that takes a line that is the whole paste. -/
def firstFor? (types : TypeCatalog) (line : Line) : Option Kind :=
  lineByLine.find? (·.takesAlone types line)

theorem takesAlone_eq {k : Kind} (single : k ∈ lineByLine) (types : TypeCatalog) (line : Line) :
    k.takesAlone types line = k.takes types line.clean := by
  rw [takesAlone, lines_eq_filter single, Paste.single, List.filter_singleton]
  cases k.takes types line.clean <;> simp

/-- Neither the number of a line nor its padding decide what takes it. -/
theorem firstFor?_eq (types : TypeCatalog) (line : Line) :
    firstFor? types line = lineByLine.find? (·.takes types line.clean) := by
  have agree : ∀ kinds ⊆ lineByLine, kinds.find? (·.takesAlone types line) =
      kinds.find? (·.takes types line.clean) := by
    intro kinds inside
    induction kinds with
    | nil => rfl
    | cons k kinds ih =>
      obtain ⟨single, rest⟩ := List.cons_subset.1 inside
      rw [List.find?_cons, List.find?_cons, takesAlone_eq single, ih rest]
  exact agree lineByLine (List.Subset.refl _)

end Format.Kind

namespace Parse

/-- The format of the reading that took a line. -/
def takerOf? (p : Parse) (number : Nat) : Option Kind :=
  (p.readings.find? (·.lines.contains number)).map (·.kind)

theorem takerOf?_eq_none_iff {p : Parse} {number : Nat} :
    p.takerOf? number = none ↔ number ∉ p.lines := by
  simp [takerOf?, mem_lines]

/-- A line goes to the reading in front or else where the later readings put it. -/
theorem takerOf?_cons (r : Reading) (later : Parse) (number : Nat) :
    takerOf? ⟨if r.lines.isEmpty then later.readings else r :: later.readings, later.rest⟩ number =
      if number ∈ r.lines then some r.kind else later.takerOf? number := by
  by_cases empty : r.lines = []
  · simp [takerOf?, empty]
  · by_cases taken : number ∈ r.lines <;> simp [takerOf?, empty, taken]

theorem withKinds_cons {paste : Paste} {line : Line} (member : line ∈ paste.lines)
    (types : TypeCatalog) (k : Kind) (kinds : List Kind) :
    withKinds types (k :: kinds) paste =
      let r := k.read types paste
      let later := withKinds types kinds (paste.without r.lines)
      ⟨if r.lines.isEmpty then later.readings else r :: later.readings, later.rest⟩ := by
  rw [withKinds, if_neg]
  rw [List.isEmpty_iff]
  exact List.ne_nil_of_mem member

/-- Formats of single lines that are tried in turn give a line to the first of them that takes it. -/
theorem takerOf?_withKinds (types : TypeCatalog) {kinds : List Kind} (single : kinds ⊆ Kind.lineByLine)
    {paste : Paste} {line : Line} (member : line ∈ paste.lines) :
    (withKinds types kinds paste).takerOf? line.number =
      kinds.find? (·.takes types line.clean) := by
  induction kinds generalizing paste with
  | nil => rfl
  | cons k kinds ih =>
    obtain ⟨singleHead, singleTail⟩ := List.cons_subset.1 single
    have taken : line.number ∈ (k.read types paste).lines ↔ k.takes types line.clean = true := by
      rw [Kind.lines_eq_filter singleHead, Paste.number_mem_filter member]
    rw [withKinds_cons member, takerOf?_cons, Kind.kind_read, List.find?_cons]
    cases takes : k.takes types line.clean with
    | true => rw [if_pos (taken.2 takes)]
    | false =>
      have left : line.number ∉ (k.read types paste).lines := by
        rw [taken, takes]
        exact Bool.false_ne_true
      rw [if_neg left]
      exact ih singleTail (Paste.mem_without.2 ⟨member, left⟩)

/-- Lines that the formats of blocks leave go where the formats of single lines put them. -/
theorem takerOf?_all (types : TypeCatalog) {paste : Paste} {line : Line}
    (member : line ∈ (paste.afterBlocks types).lines) :
    (all types paste).takerOf? line.number = Kind.lineByLine.find? (·.takes types line.clean) := by
  obtain ⟨inMiddle, notFitted⟩ := Paste.mem_without.1 member
  obtain ⟨inPaste, notReported⟩ := Paste.mem_without.1 inMiddle
  rw [all, Kind.all_eq_cons, withKinds_cons inPaste, takerOf?_cons, if_neg notReported,
    withKinds_cons inMiddle, takerOf?_cons, if_neg notFitted]
  exact takerOf?_withKinds types (List.Subset.refl _) member

/-- A line that is left over was left by the formats of blocks, and no format of single lines takes it. -/
theorem untaken_of_mem_rest (types : TypeCatalog) {paste : Paste} {line : Line}
    (left : line ∈ (all types paste).rest.lines) :
    line ∈ (paste.afterBlocks types).lines ∧ ∀ k ∈ Kind.lineByLine, k.takes types line.clean = false := by
  obtain ⟨inPaste, untaken⟩ := (withKinds_conserves types Kind.all paste).mem_rest.1 left
  have nobody := takerOf?_eq_none_iff.2 untaken
  rw [Kind.all_eq_cons, withKinds_cons inPaste, takerOf?_cons] at nobody
  split at nobody
  · cases nobody
  · rename_i notReported
    have inMiddle := Paste.mem_without.2 ⟨inPaste, notReported⟩
    rw [withKinds_cons inMiddle, takerOf?_cons] at nobody
    split at nobody
    · cases nobody
    · rename_i notFitted
      have member : line ∈ (paste.afterBlocks types).lines := Paste.mem_without.2 ⟨inMiddle, notFitted⟩
      refine ⟨member, ?_⟩
      have single := takerOf?_withKinds types (List.Subset.refl Kind.lineByLine) member
      rw [Paste.afterBlocks] at single
      rw [single, List.find?_eq_none] at nobody
      simpa using nobody

end Parse

/-- A line that the formats of blocks leave goes to the first format of single lines that takes it on its
own, and is left over if there is none. So it goes to the same format wherever it stands and whatever
lines stand beside it, in what the formats of single lines go over and in a whole text. -/
theorem takerOf?_eq_firstFor? (types : TypeCatalog) (text : String) (line : Line)
    (member : line ∈ ((Paste.ofText text).afterBlocks types).lines) :
    (Parse.all types (Paste.ofText text)).takerOf? line.number = Kind.firstFor? types line ∧
    (line ∈ (Parse.all types (Paste.ofText text)).rest.lines ↔
      ∀ k ∈ Kind.lineByLine, k.takesAlone types line = false) ∧
    (∀ other : Paste, ∀ line' ∈ other.lines, line'.text = line.text →
      (Parse.withKinds types Kind.lineByLine other).takerOf? line'.number =
        (Parse.all types (Paste.ofText text)).takerOf? line.number) ∧
    (∀ text', ∀ line' ∈ ((Paste.ofText text').afterBlocks types).lines, line'.text = line.text →
      (Parse.all types (Paste.ofText text')).takerOf? line'.number =
        (Parse.all types (Paste.ofText text)).takerOf? line.number) := by
  have taker := Parse.takerOf?_all types member
  have inPaste : line ∈ (Paste.ofText text).lines :=
    (Paste.mem_without.1 (Paste.mem_without.1 member).1).1
  have conserves := Parse.withKinds_conserves types Kind.all (Paste.ofText text)
  have sameClean (line' : Line) (same : line'.text = line.text) : line'.clean = line.clean := by
    rw [Line.clean, Line.clean, same]
  refine ⟨by rw [taker, Kind.firstFor?_eq], ?_, ?_, ?_⟩
  · have left : line ∈ (Parse.all types (Paste.ofText text)).rest.lines ↔
        (Parse.all types (Paste.ofText text)).takerOf? line.number = none := by
      rw [Parse.takerOf?_eq_none_iff]
      exact conserves.mem_rest.trans (and_iff_right inPaste)
    rw [left, taker, ← Kind.firstFor?_eq, Kind.firstFor?, List.find?_eq_none]
    simp only [Bool.not_eq_true]
  · intro other line' member' same
    rw [taker, Parse.takerOf?_withKinds types (List.Subset.refl _) member', sameClean line' same]
  · intro text' line' member' same
    rw [taker, Parse.takerOf?_all types member', sameClean line' same]

theorem takerOf?_eq_firstFor?_in_log :
    let text := "20:45:13 P has looted 1 x T\nzz"
    let line : Line := ⟨1, "20:45:13 P has looted 1 x T"⟩
    let types := TypeCatalog.ofEntries [] .nil
    line ∈ ((Paste.ofText text).afterBlocks types).lines ∧
    (Parse.all types (Paste.ofText text)).takerOf? 1 = some .lootLog := by
  intro text line types
  have pasted : (Paste.ofText text).lines = [line, ⟨2, "zz"⟩] := by decide +kernel
  have unmarked : (Paste.ofText text).lines.any
      (fun line => KillReport.marksReport line.clean) = false := by
    decide +kernel
  have unreported : (Kind.killReport.read types (Paste.ofText text)).lines = [] := by
    simp [Kind.read, KillReport.readReport, unmarked]
  have unopened : ∀ other ∈ (Paste.ofText text).lines,
      Fitting.headerShape.fits other.clean = false := by
    intro other member
    rw [Text.Pattern.fits_eq_false_iff]
    revert other
    rw [pasted]
    decide +kernel
  have unfitted : (Kind.fitting.read types (Paste.ofText text)).lines = [] := by
    have skipped : (Paste.ofText text).lines.dropWhile
        (fun line => !Fitting.headerShape.fits line.clean) = [] :=
      List.dropWhile_eq_nil_iff.2 fun other member => by rw [unopened other member]; rfl
    rw [Kind.read, Fitting.readBlock, Fitting.block, skipped]
  have member : line ∈ ((Paste.ofText text).afterBlocks types).lines := by
    rw [Paste.afterBlocks, unreported, Paste.without_nil, unfitted, Paste.without_nil, pasted]
    exact List.mem_cons_self
  have looted : Kind.lootLog.takes types line.clean = true := by
    rw [Kind.takes, Loot.read?, Option.isSome_map, Text.Pattern.search?_eq_findSome?,
      List.isSome_findSome?]
    simp only [Text.Pattern.match?_eq_head?, Option.isSome_map]
    decide +kernel
  refine ⟨member, (takerOf?_eq_firstFor? types text line member).1.trans ?_⟩
  rw [Kind.firstFor?_eq, Kind.lineByLine, List.find?_cons, looted]

end ItemAppraisal
