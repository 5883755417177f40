import ItemAppraisal.Proofs.ItemAccounting
import ItemAppraisal.Proofs.JoinedPastes
import ItemAppraisal.Proofs.LineLocality
import ItemAppraisal.Proofs.ListingLayouts
import ItemAppraisal.Proofs.PatternReadings
import ItemAppraisal.Proofs.Recognition
import ItemAppraisal.Proofs.Trimming

/-!
# What is left over, read once more

A paste is read for one report and one fitting. So what is left over is not read by any format of single
lines, but it may hold what begins another block: the opening line of a further fitting, or a line that names
a victim where the report was already at its items. What is left over is read no further exactly if it holds
no such line (`leftovers_reread`).
-/

namespace ItemAppraisal

open Format (Kind)

/-! ## Lines of a text -/

/-- A line of a text holds no line feed. -/
theorem Paste.feedless_of_mem_ofText {text : String} {line : Line} (member : line ∈ (ofText text).lines) :
    ∀ c ∈ line.clean, c ≠ '\n' := by
  obtain ⟨i, found, -⟩ := mem_ofText.1 member
  obtain ⟨piece, among, same⟩ := List.mem_map.1 (List.mem_of_getElem? found)
  intro c inside
  have inLine : c ∈ line.text.toList := by
    obtain ⟨front, back, split, -⟩ := Text.exists_eq_append_trimBy Line.isPadding line.text.toList
    rw [split]
    simp only [List.mem_append]
    exact .inr (.inl inside)
  have inPiece : c ∈ piece := by
    rw [← same, String.toList_ofList, Text.dropRightBy_eq_rdropWhile] at inLine
    exact (List.rdropWhile_prefix _ _).subset inLine
  simpa using Text.unmarked_of_mem_splitAt among c inPiece

/-! ## Reports -/

namespace KillReport

open Text.Pattern

/-- What a line that names a victim starts with. -/
def victimMark : List Char := "Victim: ".toList

theorem marksReport_iff {s : List Char} : marksReport s = true ↔
    victimMark <+: s ∨ section? s = some .destroyed ∨ section? s = some .dropped := by
  show _ ↔ "Victim: ".toList <+: s ∨ _
  rw [marksReport, Bool.or_eq_true, Bool.or_eq_true, List.isPrefixOf_iff_prefix, beq_iff_eq, beq_iff_eq,
    or_assoc]

theorem entryOf?_of_section {s : List Char} (header : section? s ≠ none) (current : Section) :
    (entryOf? current s).isSome = true := by
  rw [entryOf?.eq_def, if_pos]
  · rfl
  · rw [Option.isSome_iff_ne_none.2 header, Bool.or_true]

theorem fieldShape_eq : fieldShape = .seq (.group 1 (.seq (.one isLetter)
    (.eager fun c => isLetter c || c == ' '))) (.seq (.text ": ") (.seq (.group 2
      (.eager (Format.noneOf "\n"))) (.seq .atEnd .empty))) := rfl

/-- A line that names a victim is a field. -/
theorem isSome_field?_of_victim {s : List Char} (names : victimMark <+: s) (feedless : ∀ c ∈ s, c ≠ '\n') :
    (field? s).isSome = true := by
  obtain ⟨name, rfl⟩ := names
  have whole : Spans (.seq (.one isLetter) (.eager fun c => isLetter c || c == ' '))
      fun run => ∃ front back, run = front ++ back ∧ (∃ c, front = [c] ∧ isLetter c = true) ∧
        ∀ c ∈ back, (isLetter c || c == ' ') = true := (spans_one _).seq (spans_eager _)
  have valued : ∀ c ∈ name, Format.noneOf "\n" c = true := by
    intro c member
    have other := feedless c (List.mem_append_right _ member)
    simpa [Format.noneOf] using other
  have read : ∃ r, r ∈ fieldShape.readings ([], victimMark ++ name) := by
    simp only [fieldShape_eq, mem_readings_group whole, mem_readings_span (spans_text _),
      mem_readings_group (spans_eager _), mem_readings_end]
    exact ⟨_, "Victim".toList, ": ".toList ++ name, rfl,
      ⟨['V'], "ictim".toList, rfl, ⟨'V', rfl, rfl⟩, List.all_eq_true.1 (by decide)⟩, ": ".toList, name, rfl, rfl,
      name, [], (List.append_nil name).symm, valued, rfl, rfl⟩
  obtain ⟨r, member⟩ := read
  rw [field?, Option.isSome_map, ← Text.Pattern.fits, Text.Pattern.fits_iff]
  exact List.ne_nil_of_mem member

/-- A report takes the lines that are part of it in the sections they are in. -/
theorem number_mem_lines_iff (types : TypeCatalog) {paste : Paste} {line : Line}
    (member : line ∈ paste.lines) : line.number ∈ (Kind.killReport.read types paste).lines ↔
      (∃ other ∈ paste.lines, marksReport other.clean = true) ∧
        (entryOf? (sectionAt paste line) line.clean).isSome = true := by
  by_cases marked : ∃ other ∈ paste.lines, marksReport other.clean = true
  · have report : (Kind.killReport.read types paste).lines = (entries .victim paste.lines).map (·.1) := by
      rw [Kind.read, readReport, if_pos (by simpa using marked)]
    rw [report, entries_eq_filterMap, Paste.numbers_filterMap, Paste.number_mem_filter member]
    exact (and_iff_right marked).symm
  · have unmarked : ∀ other ∈ paste.lines, marksReport other.clean = false := by simpa using marked
    rw [Kind.read, readReport_of_unmarked unmarked]
    simp [marked]

/-- A line that names a victim where a report lists items, and is none of them. -/
structure MisplacedVictim (paste : Paste) (line : Line) : Prop where
  names : victimMark <+: line.clean
  among : sectionAt paste line = .destroyed ∨ sectionAt paste line = .dropped
  noItem : item? line.clean = none

/-- A line that names a victim is part of a report but among its items. -/
theorem entryOf?_of_victim {s : List Char} (names : victimMark <+: s) (feedless : ∀ c ∈ s, c ≠ '\n')
    {current : Section} (left : entryOf? current s = none) :
    (current = .destroyed ∨ current = .dropped) ∧ item? s = none := by
  obtain ⟨field, read⟩ := Option.isSome_iff_exists.1 (isSome_field?_of_victim names feedless)
  by_cases nothing : (s.isEmpty || (section? s).isSome) = true
  · rw [entryOf?.eq_def, if_pos nothing] at left
    exact absurd left (Option.some_ne_none _)
  · rw [entryOf?.eq_def, if_neg nothing] at left
    cases current with
    | victim =>
      by_cases timed : timeShape.fits s = true <;> simp [timed, read] at left
    | involved => simp [read] at left
    | destroyed => exact ⟨.inl rfl, Option.map_eq_none_iff.1 left⟩
    | dropped => exact ⟨.inr rfl, Option.map_eq_none_iff.1 left⟩

/-- Lines none of which is a header belong to the victim. -/
theorem sectionAt_of_headerless {paste : Paste}
    (headerless : ∀ line ∈ paste.lines, section? line.clean = none) (line : Line) :
    sectionAt paste line = .victim := by
  have none : (paste.lines.filter (·.number ≤ line.number)).filterMap
      (fun line => section? line.clean) = [] :=
    List.filterMap_eq_nil_iff.2 fun other member => headerless other (List.mem_of_mem_filter member)
  rw [sectionAt, lastSection, none]
  rfl

/-- Among lines without headers each line that names a victim is part of the report. -/
theorem number_mem_lines_of_victim (types : TypeCatalog) {paste : Paste} {line : Line}
    (member : line ∈ paste.lines) (headerless : ∀ other ∈ paste.lines, section? other.clean = none)
    (names : victimMark <+: line.clean) (feedless : ∀ c ∈ line.clean, c ≠ '\n') :
    line.number ∈ (Kind.killReport.read types paste).lines := by
  refine (number_mem_lines_iff types member).2 ⟨⟨line, member, marksReport_iff.2 (.inl names)⟩, ?_⟩
  rw [sectionAt_of_headerless headerless]
  by_contra untaken
  obtain ⟨among, -⟩ := entryOf?_of_victim names feedless (Option.not_isSome_iff_eq_none.1 untaken)
  rcases among with same | same <;> cases same

end KillReport

/-! ## Fittings -/

namespace Fitting

/-- A paste with an opening line is read for the fitting of its first one. -/
theorem exists_first_opening (types : TypeCatalog) {paste : Paste} {line : Line}
    (member : line ∈ paste.lines) (opens : headerShape.fits line.clean = true) :
    ∃ first ∈ paste.lines, headerShape.fits first.clean = true ∧ first.number ≤ line.number ∧
      first.number ∈ (Kind.fitting.read types paste).lines := by
  have whole : (paste.lines.takeWhile fun line => !headerShape.fits line.clean) ++
      (paste.lines.dropWhile fun line => !headerShape.fits line.clean) = paste.lines :=
    List.takeWhile_append_dropWhile
  cases start : paste.lines.dropWhile fun line => !headerShape.fits line.clean with
  | nil =>
    have unopened := List.dropWhile_eq_nil_iff.1 start line member
    simp [opens] at unopened
  | cons first rest =>
    have firstOpens : headerShape.fits first.clean = true := by
      have head := List.head?_dropWhile_not (fun line => !headerShape.fits line.clean) paste.lines
      rw [start] at head
      simpa using head
    rw [start] at whole
    obtain ⟨header, found⟩ := Option.isSome_iff_exists.1 ((isSome_header? first.clean).trans firstOpens)
    refine ⟨first, ?_, firstOpens, ?_, ?_⟩
    · rw [← whole]
      simp
    · -- The line is not among those before the first opening line.
      have late : line ∈ first :: rest := by
        rw [← whole] at member
        refine (List.mem_append.1 member).resolve_left fun early => ?_
        have unopened := List.mem_takeWhile_imp early
        simp [opens] at unopened
      have ascending := paste.ascending
      rw [← whole] at ascending
      rcases List.mem_cons.1 late with rfl | later
      · exact Nat.le_refl _
      · have ordered := (List.pairwise_append.1 ascending).2.1
        exact Nat.le_of_lt ((List.pairwise_cons.1 ordered).1 line later)
    · rw [Kind.read, readBlock, block, start]
      simp [found]

end Fitting

/-! ## A second run -/

namespace Parse

/-- Formats at the end that take none of the lines can be left out. -/
theorem withKinds_append_of_untaken {types : TypeCatalog} {late : List Kind}
    (single : late ⊆ Kind.lineByLine) {paste : Paste}
    (untaken : ∀ line ∈ paste.lines, ∀ k ∈ late, k.takes types line.clean = false)
    (early : List Kind) : withKinds types (early ++ late) paste = withKinds types early paste := by
  -- The formats in front leave some of the given lines, so what is left is untaken at every step.
  induction early generalizing paste with
  | nil =>
    rw [List.nil_append]
    induction late with
    | nil => rfl
    | cons k late ih =>
      obtain ⟨singleHead, singleTail⟩ := List.cons_subset.1 single
      have nothing : (k.read types paste).lines = [] :=
        Kind.lines_eq_nil singleHead fun line member => untaken line member k List.mem_cons_self
      rw [withKinds_of_untaken nothing]
      exact ih singleTail fun line member other among =>
        untaken line member other (List.mem_cons_of_mem k among)
  | cons k early ih =>
    have later := @ih (paste.without (k.read types paste).lines) fun line member =>
      untaken line (Paste.mem_without.1 member).1
    simp only [List.cons_append, withKinds, later]

variable {types : TypeCatalog} {paste : Paste} {line : Line}

/-- What is left over of a paste with a report holds no header. -/
theorem headerless_of_mem_rest (marked : ∃ other ∈ paste.lines, KillReport.marksReport other.clean = true)
    (left : line ∈ (all types paste).rest.lines) : KillReport.section? line.clean = none := by
  obtain ⟨inMiddle, -⟩ := Paste.mem_without.1 (untaken_of_mem_rest types left).1
  obtain ⟨inPaste, notReported⟩ := Paste.mem_without.1 inMiddle
  by_contra header
  exact notReported ((KillReport.number_mem_lines_iff types inPaste).2
    ⟨marked, KillReport.entryOf?_of_section header _⟩)

/-- A line that is left over is no header, so it marks a report only if it names a victim. -/
theorem marksReport_of_mem_rest (left : line ∈ (all types paste).rest.lines) :
    KillReport.marksReport line.clean = true ↔ KillReport.victimMark <+: line.clean := by
  refine ⟨fun marks => ?_, fun names => KillReport.marksReport_iff.2 (.inl names)⟩
  have inPaste := ((withKinds_conserves types Kind.all paste).mem_rest.1 left).1
  have inside := headerless_of_mem_rest ⟨line, inPaste, marks⟩ left
  simpa [KillReport.marksReport_iff, inside] using marks

/-- A line that names a victim is left over only among the items of a report, where it is none of them. -/
theorem misplacedVictim_of_mem_rest (names : KillReport.victimMark <+: line.clean)
    (feedless : ∀ c ∈ line.clean, c ≠ '\n') (left : line ∈ (all types paste).rest.lines) :
    KillReport.MisplacedVictim paste line := by
  obtain ⟨inMiddle, -⟩ := Paste.mem_without.1 (untaken_of_mem_rest types left).1
  obtain ⟨inPaste, notReported⟩ := Paste.mem_without.1 inMiddle
  rw [KillReport.number_mem_lines_iff types inPaste] at notReported
  have unread : KillReport.entryOf? (KillReport.sectionAt paste line) line.clean = none := by
    rw [← Option.not_isSome_iff_eq_none]
    exact fun read => notReported ⟨⟨line, inPaste, KillReport.marksReport_iff.2 (.inl names)⟩, read⟩
  obtain ⟨among, noItem⟩ := KillReport.entryOf?_of_victim names feedless unread
  exact ⟨names, among, noItem⟩

theorem takerOf?_of_report (member : line ∈ paste.lines)
    (reported : line.number ∈ (Kind.killReport.read types paste).lines) :
    (all types paste).takerOf? line.number = some .killReport := by
  rw [all, Kind.all_eq_cons, withKinds_cons member, takerOf?_cons, if_pos reported, Kind.kind_read]

/-- If the report leaves an opening line, the first one that it leaves goes to the fitting. -/
theorem exists_fitting (opens : Fitting.headerShape.fits line.clean = true)
    (member : line ∈ (paste.without (Kind.killReport.read types paste).lines).lines) :
    ∃ first ∈ paste.lines, Fitting.headerShape.fits first.clean = true ∧ first.number ≤ line.number ∧
      (all types paste).takerOf? first.number = some .fitting := by
  obtain ⟨first, inMiddle, firstOpens, early, fitted⟩ := Fitting.exists_first_opening types member opens
  obtain ⟨inPaste, notReported⟩ := Paste.mem_without.1 inMiddle
  refine ⟨first, inPaste, firstOpens, early, ?_⟩
  rw [all, Kind.all_eq_cons, withKinds_cons inPaste, takerOf?_cons, if_neg notReported,
    withKinds_cons inMiddle, takerOf?_cons, if_pos fitted, Kind.kind_read]

/-- The opening line of a fitting after that of the fitting that was read. -/
structure FurtherFitting (p : Parse) (paste : Paste) (line : Line) : Prop where
  opens : Fitting.headerShape.fits line.clean = true
  after : ∃ first ∈ paste.lines, Fitting.headerShape.fits first.clean = true ∧
    first.number < line.number ∧ p.takerOf? first.number = some .fitting

/-- An opening line is left over only after the one of the fitting. -/
theorem furtherFitting_of_mem_rest (opens : Fitting.headerShape.fits line.clean = true)
    (left : line ∈ (all types paste).rest.lines) : (all types paste).FurtherFitting paste line := by
  refine ⟨opens, ?_⟩
  obtain ⟨inMiddle, -⟩ := Paste.mem_without.1 (untaken_of_mem_rest types left).1
  obtain ⟨first, inPaste, firstOpens, early, taken⟩ := exists_fitting opens inMiddle
  refine ⟨first, inPaste, firstOpens, Nat.lt_of_le_of_ne early fun same => ?_, taken⟩
  have untaken := takerOf?_eq_none_iff.2 ((withKinds_conserves types Kind.all paste).mem_rest.1 left).2
  rw [all, same] at taken
  rw [untaken] at taken
  cases taken

/-- The formats of single lines have no part in what becomes of the lines that are left over. -/
theorem withKinds_rest (types : TypeCatalog) (early : List Kind) (paste : Paste) :
    withKinds types (early ++ Kind.lineByLine) (all types paste).rest =
      withKinds types early (all types paste).rest :=
  withKinds_append_of_untaken (List.Subset.refl Kind.lineByLine)
    (fun _ left => (untaken_of_mem_rest types left).2) early

end Parse

/-- A block begins with such a line: the opening line of a fitting, or a line that names a victim. -/
def Line.BeginsBlock (line : Line) : Prop :=
  Fitting.headerShape.fits line.clean = true ∨ KillReport.victimMark <+: line.clean

namespace Parse

variable {types : TypeCatalog} {paste : Paste} {line : Line}

/-- What is left over is read no further exactly if no block begins in it. -/
theorem lines_all_rest_eq_nil_iff (feedless : ∀ line ∈ paste.lines, ∀ c ∈ line.clean, c ≠ '\n') :
    (all types (all types paste).rest).lines = [] ↔
      ∀ line ∈ (all types paste).rest.lines, ¬line.BeginsBlock := by
  have conserves := withKinds_conserves types Kind.all paste
  constructor
  · intro nothing line left begins
    have untaken (n : Nat) : (all types (all types paste).rest).takerOf? n = none :=
      takerOf?_eq_none_iff.2 (by simp [nothing])
    have unreported : line.number ∉ (Kind.killReport.read types (all types paste).rest).lines := by
      intro reported
      exact absurd (takerOf?_of_report left reported) (by simp [untaken])
    rcases begins with opens | names
    · obtain ⟨first, -, -, -, taken⟩ := exists_fitting opens (Paste.mem_without.2 ⟨left, unreported⟩)
      simp [untaken] at taken
    · -- The first run took every header, so the section of the second never changes from the victim's.
      have inPaste := (conserves.mem_rest.1 left).1
      have marked : ∃ other ∈ paste.lines, KillReport.marksReport other.clean = true :=
        ⟨line, inPaste, KillReport.marksReport_iff.2 (.inl names)⟩
      exact unreported (KillReport.number_mem_lines_of_victim types left
        (fun other => headerless_of_mem_rest marked) names (feedless line inPaste))
  · intro plain
    have free : (all types paste).rest.IsBlockFree := by
      refine ⟨fun line left => ?_, fun line left => ?_⟩
      · rw [← Bool.not_eq_true, marksReport_of_mem_rest left]
        exact fun names => plain line left (.inr names)
      · rw [← Bool.not_eq_true]
        exact fun opens => plain line left (.inl opens)
    rw [all_of_blockFree types free, ← List.nil_append Kind.lineByLine, withKinds_rest]
    simp [withKinds, lines]

/-- On its own, a line that is left over is taken as a fitting or as a report, if it begins one. -/
theorem takesAlone_iff_of_mem_rest (feedless : ∀ c ∈ line.clean, c ≠ '\n')
    (left : line ∈ (all types paste).rest.lines) (k : Kind) :
    k.takesAlone types line = true ↔ k = .fitting ∧ Fitting.headerShape.fits line.clean = true ∨
      k = .killReport ∧ KillReport.victimMark <+: line.clean := by
  have alone : line ∈ (Paste.single line).lines := List.mem_singleton_self line
  have inPaste := ((withKinds_conserves types Kind.all paste).mem_rest.1 left).1
  by_cases single : k ∈ Kind.lineByLine
  · rw [Kind.takesAlone_eq single, (untaken_of_mem_rest types left).2 k single]
    simp only [Bool.false_eq_true, false_iff, not_or, not_and]
    constructor
    · rintro rfl
      simp [Kind.lineByLine] at single
    · rintro rfl
      simp [Kind.lineByLine] at single
  · rw [Kind.takesAlone, List.contains_iff_mem]
    cases k with
    | killReport =>
      simp only [reduceCtorEq, false_and, true_and, false_or]
      constructor
      · intro taken
        obtain ⟨⟨other, member, marks⟩, -⟩ := (KillReport.number_mem_lines_iff types alone).1 taken
        rw [Paste.single, List.mem_singleton] at member
        exact (marksReport_of_mem_rest left).1 (member ▸ marks)
      · intro names
        have header := headerless_of_mem_rest ⟨line, inPaste, KillReport.marksReport_iff.2 (.inl names)⟩ left
        refine KillReport.number_mem_lines_of_victim types alone ?_ names feedless
        simpa [Paste.single] using header
    | fitting =>
      simp only [reduceCtorEq, false_and, true_and, or_false]
      constructor
      · intro taken
        by_contra plain
        have unopened : ∀ other ∈ (Paste.single line).lines,
            Fitting.headerShape.fits other.clean = false := by
          simpa [Paste.single] using plain
        rw [Kind.read, Fitting.readBlock_of_unopened unopened] at taken
        cases taken
      · intro opens
        obtain ⟨first, member, -, -, taken⟩ := Fitting.exists_first_opening types alone opens
        rw [Paste.single, List.mem_singleton] at member
        rwa [member] at taken
    | _ => simp [Kind.lineByLine] at single

end Parse

/-! ## Two fittings -/

namespace TwoFittings

open Format.Listing (charges hasName_charges)
open Text.Pattern (match?_eq_head? search?_eq_findSome?)

def first : String := "[Rifter, One]"

def second : String := "[Rifter, Two]"

def text : String := first ++ "\n" ++ second

theorem lines_text : (Paste.ofText text).lines = [⟨1, first⟩, ⟨2, second⟩] := by decide +kernel

theorem opens_second : Fitting.headerShape.fits (Line.clean ⟨2, second⟩) = true := by
  rw [Text.Pattern.fits_iff]
  decide +kernel

theorem takes_eq_false : ∀ k ∈ Kind.lineByLine, k.takes charges (Line.clean ⟨2, second⟩) = false := by
  have unlisted : Format.Listing.read? charges (Line.clean ⟨2, second⟩) = none := by
    simp only [Format.Listing.read?, Format.Listing.readFirst?, Format.Listing.readLast?,
      Format.Listing.known?, hasName_charges, match?_eq_head?]
    decide +kernel
  have unmentioned : Format.Mention.read? charges (Line.clean ⟨2, second⟩) = none := by
    simp only [Format.Mention.read?_eq_or, Format.Mention.ofColumns?, Format.Mention.ofWords?_eq_findSome?,
      Format.Mention.ofRun?, hasName_charges]
    decide +kernel
  simp only [Kind.lineByLine, List.forall_mem_cons, List.not_mem_nil, false_imp_iff, implies_true, and_true,
    Kind.takes, unlisted, unmentioned, Loot.read?, Commodity.read?, ContainedItem.read?, MinedOre.read?,
    WalletTransaction.read?, JournalEntry.read?, SurveyedOre.read?, ContractItem.read?, Asset.read?,
    Format.BillOfMaterials.read?, CargoItem.read?, Sighting.read?, Option.isSome_map, search?_eq_findSome?,
    funext Loot.shape.match?_eq_head?, match?_eq_head?]
  decide +kernel

/-- The second fitting is left over. -/
theorem rest_text : (Parse.all charges (Paste.ofText text)).rest.lines = [⟨2, second⟩] := by
  have unmarked : ∀ line ∈ (Paste.ofText text).lines, KillReport.marksReport line.clean = false := by
    rw [lines_text]
    decide +kernel
  have unreported : (Kind.killReport.read charges (Paste.ofText text)).lines = [] := by
    rw [Kind.read, KillReport.readReport_of_unmarked unmarked]
  have opens : Fitting.headerShape.fits (Line.clean ⟨1, first⟩) = true := by
    rw [Text.Pattern.fits_iff]
    decide +kernel
  obtain ⟨header, found⟩ := Option.isSome_iff_exists.1 ((Fitting.isSome_header? _).trans opens)
  have fitted : (Kind.fitting.read charges (Paste.ofText text)).lines = [1] := by
    rw [Kind.read, Fitting.readBlock, Fitting.block, lines_text, List.dropWhile_cons, opens]
    simp [opens_second, found, Fitting.entries]
  have left : ((Paste.ofText text).without [1]).lines = [⟨2, second⟩] := by
    rw [Paste.lines_without, lines_text]
    rfl
  have untaken : ∀ line ∈ ((Paste.ofText text).without [1]).lines, ∀ k ∈ Kind.lineByLine,
      k.takes charges line.clean = false := by
    rw [left]
    simpa using takes_eq_false
  have nothing := Parse.withKinds_append_of_untaken (List.Subset.refl Kind.lineByLine) untaken []
  rw [List.nil_append] at nothing
  rw [Parse.all, Kind.all_eq_cons, Parse.withKinds_of_untaken unreported,
    Parse.withKinds_of_taken (by simp [fitted]), fitted, nothing]
  exact left

/-- The text is appraised, with the second fitting unparsed. -/
theorem exists_classify :
    ∃ c, classify charges (Paste.ofText text) = .ok c ∧ c.unparsed = [⟨2, second⟩] := by
  have correct := classify_correct charges (Paste.ofText text)
  have left : ⟨2, second⟩ ∈ (Parse.all charges (Paste.ofText text)).rest.lines := by simp [rest_text]
  have recognised : (Parse.all charges (Paste.ofText text)).Recognises (Paste.ofText text) := by
    obtain ⟨first, inPaste, -, -, taken⟩ := (Parse.furtherFitting_of_mem_rest opens_second left).after
    have holds : ∀ line ∈ (Paste.ofText text).lines, line.holdsText = true := by decide +kernel
    refine ⟨first, inPaste, holds first inPaste, ?_⟩
    by_contra untaken
    rw [Parse.takerOf?_eq_none_iff.2 untaken] at taken
    cases taken
  cases classified : classify charges (Paste.ofText text) with
  | ok c =>
    refine ⟨c, rfl, ?_⟩
    rw [(classify_eq_ok classified).2, Paste.trimmedLines, rest_text]
    decide +kernel
  | error e =>
    rw [classified] at correct
    exact absurd recognised correct.1

end TwoFittings

/-- No format of single lines takes a line that is left over, on its own or with the others. A second run
takes lines if and only if what is left over holds an opening line of a fitting or a line that names a
victim; such a line is left only behind the opening line of the fitting that was read, or among the items of
the report without being one. -/
theorem leftovers_reread (types : TypeCatalog) (text : String) :
    let paste := Paste.ofText text
    let p := Parse.all types paste
    let again := Parse.all types p.rest
    (again.lines = [] ↔ ∀ line ∈ p.rest.lines, ¬line.BeginsBlock) ∧
    again = Parse.withKinds types [.killReport, .fitting] p.rest ∧
    (∀ line ∈ p.rest.lines,
      (∀ k : Kind, k.takesAlone types line = true ↔
        k = .fitting ∧ Fitting.headerShape.fits line.clean = true ∨
          k = .killReport ∧ KillReport.victimMark <+: line.clean) ∧
      (line.BeginsBlock ↔ p.FurtherFitting paste line ∨ KillReport.MisplacedVictim paste line)) ∧
    ∀ c, classify types paste = .ok c → ∀ reported, reported ∈ c.unparsed ↔
      ∃ line ∈ p.rest.lines, line.trimmed ≠ "" ∧ reported = ⟨line.number, line.trimmed⟩ := by
  intro paste p again
  have feedless : ∀ line ∈ paste.lines, ∀ c ∈ line.clean, c ≠ '\n' :=
    fun line => Paste.feedless_of_mem_ofText
  have inPaste (line : Line) (left : line ∈ p.rest.lines) : line ∈ paste.lines :=
    ((Parse.withKinds_conserves types Kind.all paste).mem_rest.1 left).1
  refine ⟨Parse.lines_all_rest_eq_nil_iff feedless,
    Parse.withKinds_rest types [.killReport, .fitting] paste, fun line left => ?_, ?_⟩
  · have plain := feedless line (inPaste line left)
    refine ⟨Parse.takesAlone_iff_of_mem_rest plain left, ?_⟩
    constructor
    · rintro (opens | names)
      · exact .inl (Parse.furtherFitting_of_mem_rest opens left)
      · exact .inr (Parse.misplacedVictim_of_mem_rest names plain left)
    · rintro (further | misplaced)
      · exact .inl further.opens
      · exact .inr misplaced.names
  · intro c classified reported
    rw [(classify_eq_ok classified).2, Paste.mem_trimmedLines]

theorem leftovers_reread_of_fittings :
    let p := Parse.all Format.Listing.charges (Paste.ofText TwoFittings.text)
    p.rest.lines = [⟨2, TwoFittings.second⟩] ∧
    p.FurtherFitting (Paste.ofText TwoFittings.text) ⟨2, TwoFittings.second⟩ ∧
    (∃ c, classify Format.Listing.charges (Paste.ofText TwoFittings.text) = .ok c ∧
      ⟨2, TwoFittings.second⟩ ∈ c.unparsed) ∧
    (Parse.all Format.Listing.charges p.rest).lines ≠ [] := by
  intro p
  obtain ⟨nothing, -, lines, reported⟩ := leftovers_reread Format.Listing.charges TwoFittings.text
  have left : ⟨2, TwoFittings.second⟩ ∈ p.rest.lines := by simp [p, TwoFittings.rest_text]
  have begins : Line.BeginsBlock ⟨2, TwoFittings.second⟩ := .inl TwoFittings.opens_second
  refine ⟨TwoFittings.rest_text, ?_, ?_, fun none => nothing.1 none _ left begins⟩
  · refine ((lines _ left).2.1 begins).resolve_right fun misplaced => ?_
    exact absurd misplaced.names (by decide +kernel)
  · obtain ⟨c, classified, -⟩ := TwoFittings.exists_classify
    exact ⟨c, classified, (reported c classified _).2 ⟨_, left, by decide +kernel, by decide +kernel⟩⟩

/-- What is left over may be read further: of two fittings only the first is read at once. -/
theorem not_forall_lines_all_rest_eq_nil : ¬∀ (types : TypeCatalog) (text : String),
    (Parse.all types (Parse.all types (Paste.ofText text)).rest).lines = [] := by
  intro nothing
  have plain := (Parse.lines_all_rest_eq_nil_iff fun line => Paste.feedless_of_mem_ofText).1
    (nothing Format.Listing.charges TwoFittings.text)
  rw [TwoFittings.rest_text] at plain
  exact plain _ List.mem_cons_self (.inl TwoFittings.opens_second)

end ItemAppraisal
