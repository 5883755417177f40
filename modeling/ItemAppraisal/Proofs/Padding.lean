import ItemAppraisal.Proofs.LineItems
import ItemAppraisal.Proofs.Trimming

/-!
# Padding

Every format reads lines without their padding, those of blocks as well as those of single lines. So two
texts whose lines differ in padding only are shared out among the formats in the same way
(`withKinds_unpadded`). The kind of a text goes by the lines that hold text, and a line of blanks holds text
if there is a no-break space among them, although that is padding. Apart from such lines padding has no say
in the kind either (`same_parse_of_padding`).
-/

namespace ItemAppraisal

open Format (Kind)

/-! ## Lines without padding -/

namespace Line

/-- The line without its padding. -/
def unpadded (line : Line) : Line :=
  ⟨line.number, String.ofList line.clean⟩

@[simp] theorem number_unpadded (line : Line) : line.unpadded.number = line.number := by rw [unpadded]

@[simp] theorem clean_unpadded (line : Line) : line.unpadded.clean = line.clean := by
  have again : Text.trimBy isPadding (Text.trimBy isPadding line.text.toList) = line.clean :=
    Text.trimBy_trimBy (fun _ => id) _
  simpa [unpadded, clean] using again

end Line

namespace Paste

/-- The lines without their padding. -/
def unpadded (paste : Paste) : Paste :=
  ⟨paste.lines.map Line.unpadded, by simpa [List.pairwise_map] using paste.ascending⟩

@[simp] theorem lines_unpadded (paste : Paste) : paste.unpadded.lines = paste.lines.map Line.unpadded := rfl

@[simp] theorem numbers_unpadded (paste : Paste) : paste.unpadded.numbers = paste.numbers := by
  simp [numbers, Function.comp_def]

theorem readLines_unpadded {α : Type} (read : List Char → Option α) (paste : Paste) :
    paste.unpadded.readLines read = paste.readLines read := by
  simp [readLines, List.filterMap_map]

theorem unpadded_without (paste : Paste) (numbers : List Nat) :
    paste.unpadded.without numbers = (paste.without numbers).unpadded := by
  simp only [without, filter, unpadded, List.filter_map]
  rfl

end Paste

/-! ## Reading without padding -/

theorem KillReport.entries_unpadded (current : KillReport.Section) (lines : List Line) :
    entries current (lines.map Line.unpadded) = entries current lines := by
  induction lines generalizing current with
  | nil => rfl
  | cons line lines ih => simp [entries, ih]

theorem KillReport.readReport_unpadded (paste : Paste) :
    readReport paste.unpadded = readReport paste := by
  have marks : (paste.unpadded.lines.any fun line => marksReport line.clean) =
      paste.lines.any fun line => marksReport line.clean := by
    simp [List.any_map, Function.comp_def]
  rw [readReport, readReport, marks, Paste.lines_unpadded, entries_unpadded]

theorem Fitting.block_unpadded (paste : Paste) :
    block paste.unpadded = (block paste).map Line.unpadded := by
  rw [block, block, Paste.lines_unpadded, List.dropWhile_map]
  simp only [Function.comp_def, Line.clean_unpadded]
  cases paste.lines.dropWhile fun line => !headerShape.fits line.clean with
  | nil => rfl
  | cons first rest => simp [List.takeWhile_map, Function.comp_def]

theorem Fitting.entries_unpadded (lines : List Line) :
    entries (lines.map Line.unpadded) = entries lines := by
  simp [entries, List.filterMap_map]

theorem Fitting.readBlock_unpadded (paste : Paste) : readBlock paste.unpadded = readBlock paste := by
  rw [readBlock, readBlock, block_unpadded]
  cases block paste with
  | nil => rfl
  | cons first rest => simp [entries_unpadded]

theorem readWallet_unpadded (paste : Paste) : readWallet paste.unpadded = readWallet paste := by
  simp [readWallet, Paste.readLines_unpadded, Paste.unpadded_without]

theorem Format.Kind.read_unpadded (k : Kind) (types : TypeCatalog) (paste : Paste) :
    k.read types paste.unpadded = k.read types paste := by
  cases k with
  | killReport => simp [Kind.read, KillReport.readReport_unpadded]
  | fitting => simp [Kind.read, Fitting.readBlock_unpadded]
  | wallet => simp [Kind.read, readWallet_unpadded]
  | _ => simp [Kind.read, Paste.readLines_unpadded]

/-- A paste without its padding is shared out as it is with it. -/
theorem Parse.withKinds_unpadded (types : TypeCatalog) (kinds : List Kind) (paste : Paste) :
    withKinds types kinds paste.unpadded =
      ⟨(withKinds types kinds paste).readings, (withKinds types kinds paste).rest.unpadded⟩ := by
  induction kinds generalizing paste with
  | nil => rfl
  | cons k kinds ih =>
    by_cases empty : paste.lines = []
    · simp [withKinds, empty]
    · simp [withKinds, empty, Kind.read_unpadded, Paste.unpadded_without, ih]

/-! ## Lines that hold text -/

namespace Line

/-- A line of blanks among which is a no-break space. -/
def isHollow (line : Line) : Bool :=
  line.text.toList.all (fun c => isPadding c || isSpacing c) && line.text.toList.contains (Char.ofNat 0xa0)

theorem eq_break_of_padding {c : Char} (padding : isPadding c = true) (text : isSpacing c = false) :
    c = Char.ofNat 0xa0 := by
  simp only [isPadding, isSpacing, Bool.or_eq_true, beq_iff_eq, Bool.or_eq_false_iff, beq_eq_false_iff_ne]
    at padding text
  tauto

theorem holdsText_iff_exists {line : Line} :
    line.holdsText = true ↔ ∃ c ∈ line.text.toList, isSpacing c = false := by
  rw [holdsText, Bool.not_eq_true', String.isEmpty_eq_false_iff, trimmed, ne_eq, Text.trimText_eq_empty_iff]
  simp

/-- A line holds text if its part without padding does or if it is hollow. -/
theorem holdsText_iff {line : Line} :
    line.holdsText = true ↔ (∃ c ∈ line.clean, isSpacing c = false) ∨ line.isHollow = true := by
  obtain ⟨front, back, split, atFront, atBack⟩ := Text.exists_eq_append_trimBy isPadding line.text.toList
  rw [holdsText_iff_exists, isHollow, Bool.and_eq_true, List.all_eq_true, List.contains_iff_mem]
  constructor
  · rintro ⟨c, member, text⟩
    by_cases inside : ∃ d ∈ line.clean, isSpacing d = false
    · exact .inl inside
    · -- All characters of the line are blanks then, so the one that is text is a no-break space.
      right
      have blank : ∀ d ∈ line.text.toList, isPadding d = true ∨ isSpacing d = true := by
        intro d present
        rw [split, List.mem_append, List.mem_append] at present
        rcases present with early | middle | late
        · exact .inl (atFront d early)
        · right
          by_contra other
          exact inside ⟨d, middle, by simpa using other⟩
        · exact .inl (atBack d late)
      have padding : isPadding c = true := (blank c member).resolve_right (by simp [text])
      rw [← eq_break_of_padding padding text]
      exact ⟨fun d present => by simpa using blank d present, member⟩
  · rintro (⟨c, member, text⟩ | ⟨-, member⟩)
    · exact ⟨c, by rw [split]; simp [clean] at member ⊢; tauto, text⟩
    · exact ⟨_, member, by decide⟩

/-- Lines that differ in padding only hold text together if they are not hollow. -/
theorem holdsText_congr {a b : Line} (same : a.clean = b.clean) (solid : a.isHollow = false)
    (solid' : b.isHollow = false) : a.holdsText = b.holdsText := by
  rw [Bool.eq_iff_iff, holdsText_iff, holdsText_iff, same, solid, solid']

end Line

/-! ## Texts that differ in padding only -/

namespace Paste

theorem unpadded_numberFrom {texts texts' : List String} {n : Nat}
    (same : (numberFrom n texts).map Line.clean = (numberFrom n texts').map Line.clean) :
    (numberFrom n texts).map Line.unpadded = (numberFrom n texts').map Line.unpadded := by
  induction texts generalizing texts' n with
  | nil =>
    cases texts' with
    | nil => rfl
    | cons s' rest' => simp [numberFrom] at same
  | cons s rest ih =>
    cases texts' with
    | nil => simp [numberFrom] at same
    | cons s' rest' =>
      simp only [numberFrom, List.map_cons, List.cons.injEq] at same
      obtain ⟨first, others⟩ := same
      simp only [numberFrom, List.map_cons, ih others, Line.unpadded, first]

variable {s t : String}

theorem unpadded_ofText (same : (ofText s).lines.map Line.clean = (ofText t).lines.map Line.clean) :
    (ofText s).unpadded = (ofText t).unpadded := by
  have lines : (ofText s).unpadded.lines = (ofText t).unpadded.lines := unpadded_numberFrom same
  rw [unpadded, unpadded]
  simpa using lines

theorem line?_unpadded (paste : Paste) (n : Nat) :
    paste.unpadded.line? n = (paste.line? n).map Line.unpadded := by
  simp only [line?, lines_unpadded, List.find?_map, Function.comp_def, Line.number_unpadded]

/-- Lines count as text in both pastes if those of the numbers are not hollow. -/
theorem payload_of_unpadded {a b : Paste} (same : a.unpadded = b.unpadded) {numbers : List Nat}
    (solid : ∀ line ∈ a.lines ++ b.lines, line.number ∈ numbers → line.isHollow = false) :
    a.payload numbers = b.payload numbers := by
  rw [payload_eq, payload_eq]
  refine congrArg List.length (List.filter_congr fun n taken => ?_)
  have lines : (a.line? n).map Line.unpadded = (b.line? n).map Line.unpadded := by
    rw [← line?_unpadded, same, line?_unpadded]
  -- Both pastes have a line of the number or neither has, and two such lines differ in padding only.
  cases inA : a.line? n with
  | none =>
    rw [inA] at lines
    rw [Option.map_eq_none_iff.1 lines.symm]
  | some x =>
    rw [inA] at lines
    obtain ⟨y, inB, unpadded⟩ := Option.map_eq_some_iff.1 lines.symm
    obtain ⟨presentA, rfl⟩ := line?_eq_some_iff.1 inA
    obtain ⟨presentB, number⟩ := line?_eq_some_iff.1 inB
    have clean : x.clean = y.clean := by rw [← x.clean_unpadded, ← unpadded, y.clean_unpadded]
    have solidA := solid x (List.mem_append_left _ presentA) taken
    have solidB := solid y (List.mem_append_right _ presentB) (number ▸ taken)
    rw [inB, Option.any_some, Option.any_some, Line.holdsText_congr clean solidA solidB]

end Paste

/-- The kind is the same if the readings are and the lines that they took hold text in both pastes or in
neither. -/
theorem dominantKind_congr {a b : Paste} {p q : Parse} (readings : p.readings = q.readings)
    (payload : ∀ r ∈ p.readings, a.payload r.lines = b.payload r.lines) (unparsed : Nat) :
    dominantKind a p unparsed = dominantKind b q unparsed := by
  have counts : (p.readings.map fun r => (r.kind, a.payload r.lines)) =
      q.readings.map fun r => (r.kind, b.payload r.lines) := by
    rw [← readings]
    exact List.map_congr_left fun r member => by rw [payload r member]
  rw [dominantKind, dominantKind, counts]

/-- Pastes whose lines differ in padding only are shared out alike. -/
theorem Parse.all_of_unpadded (types : TypeCatalog) {a b : Paste} (same : a.unpadded = b.unpadded) :
    (all types a).readings = (all types b).readings ∧
      (all types a).rest.numbers = (all types b).rest.numbers := by
  have runs : all types a.unpadded = all types b.unpadded := by rw [same]
  rw [all, all, withKinds_unpadded, withKinds_unpadded] at runs
  obtain ⟨readings, rest⟩ := Parse.mk.inj runs
  have numbers := congrArg Paste.numbers rest
  rw [Paste.numbers_unpadded, Paste.numbers_unpadded] at numbers
  exact ⟨readings, numbers⟩

/-- Texts whose lines differ in padding only are read alike: the same formats take the same lines and find
the same in them, and the same lines are left. Their kind is the same too, or they have none, unless a line
that was taken is hollow. -/
theorem same_parse_of_padding (types : TypeCatalog) {s t : String}
    (same : (Paste.ofText s).lines.map Line.clean = (Paste.ofText t).lines.map Line.clean) :
    let p := Parse.all types (Paste.ofText s)
    let q := Parse.all types (Paste.ofText t)
    p.readings = q.readings ∧ p.lines = q.lines ∧ p.rest.numbers = q.rest.numbers ∧
    ((∀ line ∈ (Paste.ofText s).lines ++ (Paste.ofText t).lines,
        line.number ∈ p.lines → line.isHollow = false) →
      ∀ unparsed, dominantKind (Paste.ofText s) p unparsed = dominantKind (Paste.ofText t) q unparsed) := by
  intro p q
  have unpadded := Paste.unpadded_ofText same
  obtain ⟨readings, numbers⟩ := Parse.all_of_unpadded types unpadded
  refine ⟨readings, by rw [Parse.lines, Parse.lines, readings], numbers, fun solid => ?_⟩
  refine dominantKind_congr readings (fun r member => ?_)
  refine Paste.payload_of_unpadded unpadded fun line present taken => ?_
  exact solid line present (Parse.mem_lines.2 ⟨r, member, taken⟩)

theorem same_parse_of_padding_around_header :
    let s := "Dropped items:\n"
    let t := "\u00a0Dropped items: \n \r "
    let types := TypeCatalog.ofEntries [] .nil
    (Paste.ofText s).lines.map Line.clean = (Paste.ofText t).lines.map Line.clean ∧
    (Parse.all types (Paste.ofText t)).lines = [1, 2] ∧
    dominantKind (Paste.ofText t) (Parse.all types (Paste.ofText t)) 0 = .ok .killReport := by
  intro s t types
  have same : (Paste.ofText s).lines.map Line.clean = (Paste.ofText t).lines.map Line.clean := by
    decide +kernel
  have solid : ∀ line ∈ (Paste.ofText s).lines ++ (Paste.ofText t).lines, line.isHollow = false := by
    decide +kernel
  obtain ⟨-, lines, -, kinds⟩ := same_parse_of_padding types same
  refine ⟨same, lines.symm.trans ?_, (kinds (fun line member _ => solid line member) 0).symm.trans ?_⟩
  · simp only [s, Parse.all_header, Parse.lines, List.flatMap_cons, List.flatMap_nil, List.append_nil,
      Parse.lines_header]
    exact mergeSort_eq_of_perm .rfl (by decide)
  · have payload : (Paste.ofText s).payload [1, 2] = 1 := by
      rw [Paste.payload_eq]
      decide +kernel
    simp [s, dominantKind, Parse.all_header, Parse.lines_header, payload, Kind.kind_read, dominant?, overtake]

/-! ## A report among loot -/

namespace LootedReport

open LootLine (clean_text)

/-- Two lines of loot, and a report with a blank line. -/
def bare : String := LootLine.text ++ "\n" ++ LootLine.text ++ "\nDropped items:\n"

/-- The same with a no-break space on the blank line. -/
def padded : String := bare ++ "\u00a0"

theorem lines_bare : (Paste.ofText bare).lines =
    [⟨1, LootLine.text⟩, ⟨2, LootLine.text⟩, ⟨3, "Dropped items:"⟩, ⟨4, ""⟩] := by
  decide +kernel

theorem lines_padded : (Paste.ofText padded).lines =
    [⟨1, LootLine.text⟩, ⟨2, LootLine.text⟩, ⟨3, "Dropped items:"⟩, ⟨4, "\u00a0"⟩] := by
  decide +kernel

/-- Before the header of a section a report does not take loot. -/
theorem entries_loot (n : Nat) (rest : List Line) :
    KillReport.entries .victim (⟨n, LootLine.text⟩ :: rest) = KillReport.entries .victim rest := by
  have filled : LootLine.text.toList.isEmpty = false := by decide +kernel
  have inside : KillReport.section? LootLine.text.toList = none := by decide +kernel
  have timeless : KillReport.timeShape.fits LootLine.text.toList = false := by
    rw [Text.Pattern.fits_eq_false_iff]
    decide +kernel
  have unnamed : KillReport.field? LootLine.text.toList = none := by
    rw [KillReport.field?, Text.Pattern.match?_eq_head?]
    decide +kernel
  have untaken : KillReport.entryOf? .victim LootLine.text.toList = none := by
    simp [KillReport.entryOf?, filled, inside, timeless, unnamed]
  simp [KillReport.entries, clean_text, inside, untaken]

variable (types : TypeCatalog)

theorem lines_report : (Kind.killReport.read types (Paste.ofText bare)).lines = [3, 4] := by
  have marked : (Paste.ofText bare).lines.any (fun line => KillReport.marksReport line.clean) = true := by
    rw [lines_bare]
    decide +kernel
  have header : KillReport.section? (Line.clean ⟨3, "Dropped items:"⟩) = some .dropped := by decide +kernel
  have blank : KillReport.entries .dropped [⟨4, ""⟩] = [(4, .nothing)] := rfl
  rw [Kind.read, KillReport.readReport, if_pos marked, lines_bare, entries_loot, entries_loot,
    KillReport.entries_cons_header header, blank]
  rfl

theorem lines_loot {paste : Paste} (loots : paste.lines = [⟨1, LootLine.text⟩, ⟨2, LootLine.text⟩]) :
    (Kind.lootLog.read types paste).lines = [1, 2] := by
  rw [Kind.lines_eq_filter (by simp [Kind.lineByLine]), loots]
  simp [clean_text, LootLine.takes_text]

/-- The report takes its two lines, and the log the others. -/
theorem readings_bare : (Parse.all types (Paste.ofText bare)).readings.map (fun r => (r.kind, r.lines)) =
    [(.killReport, [3, 4]), (.lootLog, [1, 2])] := by
  have loots : ((Paste.ofText bare).without [3, 4]).lines =
      [⟨1, LootLine.text⟩, ⟨2, LootLine.text⟩] := by
    rw [Paste.lines_without, lines_bare]
    decide
  have unopened : Fitting.readBlock ((Paste.ofText bare).without [3, 4]) = none := by
    refine Fitting.readBlock_of_unopened fun line member => ?_
    rw [loots] at member
    rw [Text.Pattern.fits_eq_false_iff]
    revert line
    decide +kernel
  have unfitted : (Kind.fitting.read types ((Paste.ofText bare).without [3, 4])).lines = [] := by
    rw [Kind.read, unopened]
  have nothing : (((Paste.ofText bare).without [3, 4]).without [1, 2]).lines = [] := by
    rw [Paste.lines_without, loots]
    decide
  rw [Parse.all, Kind.all_eq_cons, Parse.withKinds_of_taken (by simp [lines_report]), lines_report,
    Parse.withKinds_of_untaken unfitted, Kind.lineByLine,
    Parse.withKinds_of_taken (by simp [lines_loot types loots]), lines_loot types loots,
    Parse.withKinds_of_empty types _ nothing]
  simp [Kind.kind_read, lines_report, lines_loot types loots]

/-- The kind of a paste in which the two formats took these lines. -/
theorem dominantKind_of_counts {paste : Paste} {p : Parse} {kind : Kind} {m n : Nat}
    (readings : p.readings.map (fun r => (r.kind, r.lines)) = [(.killReport, [3, 4]), (.lootLog, [1, 2])])
    (reported : paste.payload [3, 4] = m) (looted : paste.payload [1, 2] = n)
    (best : dominant? [(.killReport, m), (.lootLog, n)] = some kind) (unparsed : Nat) :
    dominantKind paste p unparsed = .ok kind := by
  have counts : (p.readings.map fun r => (r.kind, paste.payload r.lines)) =
      [(.killReport, m), (.lootLog, n)] := by
    have counted := congrArg (List.map fun (k, lines) => (k, paste.payload lines)) readings
    simpa [Function.comp_def, reported, looted] using counted
  rw [dominantKind, counts, best]

end LootedReport

open LootedReport

/-- Padding can decide the kind: a no-break space on a blank line of a report makes it one of the lines that
hold text. -/
theorem padding_decides_kind :
    let types := TypeCatalog.ofEntries [] .nil
    (Paste.ofText bare).lines.map Line.clean = (Paste.ofText padded).lines.map Line.clean ∧
    dominantKind (Paste.ofText bare) (Parse.all types (Paste.ofText bare)) 0 = .ok .lootLog ∧
    dominantKind (Paste.ofText padded) (Parse.all types (Paste.ofText padded)) 0 = .ok .killReport := by
  intro types
  have same : (Paste.ofText bare).lines.map Line.clean = (Paste.ofText padded).lines.map Line.clean := by
    rw [lines_bare, lines_padded]
    decide +kernel
  obtain ⟨readings, -⟩ := Parse.all_of_unpadded types (Paste.unpadded_ofText same)
  refine ⟨same, ?_, ?_⟩
  · have reported : (Paste.ofText bare).payload [3, 4] = 1 := by
      simp only [Paste.payload_eq, Paste.line?, lines_bare]
      decide +kernel
    have looted : (Paste.ofText bare).payload [1, 2] = 2 := by
      simp only [Paste.payload_eq, Paste.line?, lines_bare]
      decide +kernel
    exact dominantKind_of_counts (readings_bare types) reported looted rfl 0
  · have reported : (Paste.ofText padded).payload [3, 4] = 2 := by
      simp only [Paste.payload_eq, Paste.line?, lines_padded]
      decide +kernel
    have looted : (Paste.ofText padded).payload [1, 2] = 2 := by
      simp only [Paste.payload_eq, Paste.line?, lines_padded]
      decide +kernel
    exact dominantKind_of_counts (readings ▸ readings_bare types) reported looted rfl 0

end ItemAppraisal
