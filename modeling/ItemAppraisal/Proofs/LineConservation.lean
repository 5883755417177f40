import ItemAppraisal.Proofs.FormatLines

/-!
# Conservation of lines

Whatever formats are tried on a paste, in whatever order and however often, each line is taken by one
reading or left with its number and its text (`withKinds_conserves`). So the lines that an appraisal
reports as unparsed are those of the text that no format took and that hold text (`lines_conserved`).
-/

namespace ItemAppraisal

open Format (Kind)

/-! ## The lines of a text -/

namespace Paste

theorem mem_numberFrom {first : Nat} {texts : List String} {line : Line} :
    line ∈ numberFrom first texts ↔ ∃ i, texts[i]? = some line.text ∧ line.number = first + i := by
  induction texts generalizing first with
  | nil => simp [numberFrom]
  | cons s rest ih =>
    rw [numberFrom, List.mem_cons, ih]
    constructor
    · rintro (rfl | ⟨i, found, number⟩)
      · exact ⟨0, rfl, rfl⟩
      · exact ⟨i + 1, found, by omega⟩
    · rintro ⟨i, found, number⟩
      cases i with
      | zero =>
        obtain ⟨n, t⟩ := line
        simp only [List.getElem?_cons_zero, Option.some.injEq, Nat.add_zero] at found number
        exact .inl (by rw [found, number])
      | succ i => exact .inr ⟨i, found, by omega⟩

/-- The lines of a text are its pieces, numbered from 1. -/
theorem mem_ofText {text : String} {line : Line} :
    line ∈ (ofText text).lines ↔
      ∃ i, (splitLines text)[i]? = some line.text ∧ line.number = i + 1 := by
  rw [ofText, mem_numberFrom]
  simp only [Nat.add_comm]

theorem without_nil (paste : Paste) : paste.without [] = paste := by
  have same : (paste.without []).lines = paste.lines := by
    rw [lines_without]
    simp
  cases paste
  simp only [without, filter] at same ⊢
  simp only [same]

theorem mem_trimmedLines {paste : Paste} {line : Line} :
    line ∈ paste.trimmedLines ↔ ∃ source ∈ paste.lines, source.trimmed ≠ "" ∧
      line = ⟨source.number, source.trimmed⟩ := by
  simp only [trimmedLines, List.mem_map, List.mem_filter, Line.holdsText, Bool.not_eq_true',
    String.isEmpty_eq_false_iff, and_assoc, eq_comm (a := line)]

theorem trimmedLines_ascending (paste : Paste) :
    paste.trimmedLines.Pairwise fun a b => a.number < b.number :=
  List.pairwise_map.2 (paste.ascending.filter _)

end Paste

namespace Parse

theorem mem_lines {p : Parse} {n : Nat} : n ∈ p.lines ↔ ∃ r ∈ p.readings, n ∈ r.lines := by
  rw [lines, List.mem_mergeSort, List.mem_flatMap]

/-! ## Sharing lines out -/

/-- The readings share lines of a paste among them and leave the other lines as they are. -/
structure Conserves (p : Parse) (paste : Paste) : Prop where
  nonempty : ∀ r ∈ p.readings, r.lines ≠ []
  ordered : ∀ r ∈ p.readings, r.lines.Sublist paste.numbers
  disjoint : p.readings.Pairwise fun a b => a.lines.Disjoint b.lines
  rest_eq : p.rest.lines = paste.lines.filter fun line => line.number ∉ p.lines

theorem conserves_untouched (paste : Paste) : Conserves ⟨[], paste⟩ paste := by
  refine ⟨by simp, by simp, .nil, ?_⟩
  rw [eq_comm, List.filter_eq_self]
  intro line _
  simp [mem_lines]

/-- One more reading in front: it takes lines of the paste, and the others share what it leaves. -/
theorem Conserves.cons {r : Reading} {later : Parse} {paste : Paste}
    (ordered : r.lines.Sublist paste.numbers)
    (conserves : later.Conserves (paste.without r.lines)) :
    Conserves ⟨if r.lines.isEmpty then later.readings else r :: later.readings, later.rest⟩
      paste := by
  by_cases empty : r.lines = []
  · rw [empty, Paste.without_nil] at conserves
    rw [empty]
    exact conserves
  · have kept : r.lines.isEmpty = false := by simpa using empty
    rw [kept, if_neg Bool.false_ne_true]
    have apart : ∀ s ∈ later.readings, s.lines.Sublist (paste.numbers.filter (· ∉ r.lines)) := by
      intro s member
      rw [← Paste.numbers_without]
      exact conserves.ordered s member
    refine ⟨?_, ?_, ?_, ?_⟩
    · intro s member
      rcases List.mem_cons.1 member with rfl | member
      · exact empty
      · exact conserves.nonempty s member
    · intro s member
      rcases List.mem_cons.1 member with rfl | member
      · exact ordered
      · exact (apart s member).trans List.filter_sublist
    · refine List.pairwise_cons.2 ⟨fun s member n taken again => ?_, conserves.disjoint⟩
      have left := (List.mem_filter.1 ((apart s member).subset again)).2
      exact of_decide_eq_true left taken
    · rw [conserves.rest_eq, Paste.lines_without, List.filter_filter]
      refine List.filter_congr fun line _ => ?_
      simp only [mem_lines, List.mem_cons, exists_eq_or_imp, not_or, Bool.decide_and]
      exact Bool.and_comm _ _

theorem withKinds_conserves (types : TypeCatalog) (kinds : List Kind) (paste : Paste) :
    (withKinds types kinds paste).Conserves paste := by
  induction kinds generalizing paste with
  | nil => exact conserves_untouched paste
  | cons k kinds ih =>
    rw [withKinds]
    split
    · exact conserves_untouched paste
    · exact (ih _).cons (k.lines_sublist types paste)

/-! ## What follows -/

namespace Conserves

variable {p : Parse} {paste : Paste}

theorem reading_ascending (conserves : p.Conserves paste) {r : Reading} (member : r ∈ p.readings) :
    r.lines.Pairwise (· < ·) :=
  paste.numbers_ascending.sublist (conserves.ordered r member)

theorem lines_subset (conserves : p.Conserves paste) : p.lines ⊆ paste.numbers := by
  intro n taken
  obtain ⟨r, member, inside⟩ := mem_lines.1 taken
  exact (conserves.ordered r member).subset inside

/-- The lines of all readings together come in ascending order, each once. -/
theorem lines_ascending (conserves : p.Conserves paste) : p.lines.Pairwise (· < ·) := by
  have distinct : (p.readings.flatMap (·.lines)).Nodup := by
    refine List.pairwise_flatMap.2 ⟨fun r member => ?_, conserves.disjoint.imp ?_⟩
    · exact (conserves.reading_ascending member).imp Nat.ne_of_lt
    · intro a b disjoint n inA m inB same
      exact disjoint inA (same ▸ inB)
  have ordered : p.lines.SortedLE := List.sortedLE_mergeSort
  exact (ordered.sortedLT_of_nodup ((List.mergeSort_perm _ _).nodup_iff.2 distinct)).pairwise

theorem mem_rest (conserves : p.Conserves paste) {line : Line} :
    line ∈ p.rest.lines ↔ line ∈ paste.lines ∧ line.number ∉ p.lines := by
  rw [conserves.rest_eq, List.mem_filter, decide_eq_true_iff]

end Conserves

/-! ## Single steps -/

theorem withKinds_of_empty (types : TypeCatalog) (kinds : List Kind) {paste : Paste}
    (empty : paste.lines = []) : withKinds types kinds paste = ⟨[], paste⟩ := by
  cases kinds <;> simp [withKinds, empty]

/-- A format that takes nothing is passed over. -/
theorem withKinds_of_untaken {types : TypeCatalog} {k : Kind} {paste : Paste}
    (untaken : (k.read types paste).lines = []) (kinds : List Kind) :
    withKinds types (k :: kinds) paste = withKinds types kinds paste := by
  by_cases empty : paste.lines = []
  · rw [withKinds_of_empty types _ empty, withKinds_of_empty types _ empty]
  · simp [withKinds, empty, untaken, Paste.without_nil]

/-- A format that takes lines leaves the others to the next ones. -/
theorem withKinds_of_taken {types : TypeCatalog} {k : Kind} {paste : Paste}
    (taken : (k.read types paste).lines ≠ []) (kinds : List Kind) :
    withKinds types (k :: kinds) paste =
      ⟨k.read types paste :: (withKinds types kinds (paste.without (k.read types paste).lines)).readings,
        (withKinds types kinds (paste.without (k.read types paste).lines)).rest⟩ := by
  have filled : paste.lines ≠ [] := by
    intro empty
    have inside := k.lines_sublist types paste
    rw [Paste.numbers, empty] at inside
    exact taken (List.sublist_nil.1 inside)
  simp [withKinds, filled, taken]

/-- A format that takes every line is the only reading if the ones before it take nothing. -/
theorem withKinds_of_whole {types : TypeCatalog} {before : List Kind} {k : Kind} {paste : Paste}
    (untaken : ∀ other ∈ before, (other.read types paste).lines = []) (filled : paste.lines ≠ [])
    (whole : (k.read types paste).lines = paste.numbers) (after : List Kind) :
    withKinds types (before ++ k :: after) paste =
      ⟨[k.read types paste], paste.without paste.numbers⟩ := by
  induction before with
  | nil =>
    have left : (paste.without paste.numbers).lines = [] := by
      rw [Paste.lines_without, List.filter_eq_nil_iff]
      intro line member
      have inside : line.number ∈ paste.numbers := List.mem_map_of_mem member
      simpa using inside
    have taken : (k.read types paste).lines ≠ [] := by simpa [whole, Paste.numbers] using filled
    rw [List.nil_append, withKinds_of_taken taken, whole, withKinds_of_empty types after left]
  | cons other before ih =>
    obtain ⟨first, others⟩ := List.forall_mem_cons.1 untaken
    rw [List.cons_append, withKinds_of_untaken first, ih others]

/-- A report that takes every line is the only reading. -/
theorem all_of_report (types : TypeCatalog) {paste : Paste} (filled : paste.lines ≠ [])
    (whole : (Kind.killReport.read types paste).lines = paste.numbers) :
    all types paste = ⟨[Kind.killReport.read types paste], paste.without paste.numbers⟩ :=
  withKinds_of_whole (List.forall_mem_nil _) filled whole _

theorem numbers_header : (Paste.ofText "Dropped items:\n").numbers = [1, 2] := by decide +kernel

theorem lines_header (types : TypeCatalog) :
    (Kind.killReport.read types (Paste.ofText "Dropped items:\n")).lines = [1, 2] := by
  rw [Kind.read]
  decide +kernel

/-- A header alone is a report. -/
theorem all_header (types : TypeCatalog) :
    all types (Paste.ofText "Dropped items:\n") =
      ⟨[Kind.killReport.read types (Paste.ofText "Dropped items:\n")],
        (Paste.ofText "Dropped items:\n").without [1, 2]⟩ := by
  have filled : (Paste.ofText "Dropped items:\n").lines ≠ [] := by decide +kernel
  have whole := (lines_header types).trans numbers_header.symm
  rw [all_of_report types filled whole, numbers_header]

end Parse

theorem classify_eq_ok {types : TypeCatalog} {paste : Paste} {c : Classification}
    (classified : classify types paste = .ok c) :
    c.parse = Parse.all types paste ∧ c.unparsed = (Parse.all types paste).rest.trimmedLines := by
  rw [classify] at classified
  cases kind : dominantKind paste (Parse.all types paste)
      (Parse.all types paste).rest.trimmedLines.length with
  | error e => rw [kind] at classified; cases classified
  | ok k => rw [kind] at classified; cases classified; exact ⟨rfl, rfl⟩

/-- No line of a text is lost, repeated, renumbered or taken twice, whatever formats are tried on it. What
an appraisal reports as unparsed are the lines with text that no format took, each with its number in the
text and without spacing at its ends. -/
theorem lines_conserved (types : TypeCatalog) (kinds : List Kind) (text : String) :
    let paste := Paste.ofText text
    let p := Parse.withKinds types kinds paste
    (∀ r ∈ p.readings, r.lines ≠ [] ∧ r.lines.Pairwise (· < ·)) ∧
    p.readings.Pairwise (fun a b => a.lines.Disjoint b.lines) ∧
    p.lines.Pairwise (· < ·) ∧
    (∀ n, n ∈ p.lines ↔ ∃ r ∈ p.readings, n ∈ r.lines) ∧
    p.lines ⊆ paste.numbers ∧
    p.rest.lines = paste.lines.filter (fun line => line.number ∉ p.lines) ∧
    ∀ c, classify types paste = .ok c →
      c.parse = Parse.all types paste ∧
      c.unparsed.Pairwise (fun a b => a.number < b.number) ∧
      ∀ line, line ∈ c.unparsed ↔ ∃ i s, (Paste.splitLines text)[i]? = some s ∧
        i + 1 ∉ c.parse.lines ∧ Text.trimText Line.isSpacing s ≠ "" ∧
        line = ⟨i + 1, Text.trimText Line.isSpacing s⟩ := by
  intro paste p
  have conserves : p.Conserves paste := Parse.withKinds_conserves types kinds paste
  refine ⟨fun r member => ⟨conserves.nonempty r member, conserves.reading_ascending member⟩,
    conserves.disjoint, conserves.lines_ascending, fun n => Parse.mem_lines, conserves.lines_subset,
    conserves.rest_eq, fun c classified => ?_⟩
  obtain ⟨parsed, unparsed⟩ := classify_eq_ok classified
  have whole : (Parse.all types paste).Conserves paste :=
    Parse.withKinds_conserves types Kind.all paste
  refine ⟨parsed, unparsed ▸ Paste.trimmedLines_ascending _, fun line => ?_⟩
  rw [unparsed, parsed, Paste.mem_trimmedLines]
  constructor
  · rintro ⟨source, left, holds, rfl⟩
    obtain ⟨member, untaken⟩ := whole.mem_rest.1 left
    obtain ⟨i, found, number⟩ := Paste.mem_ofText.1 member
    exact ⟨i, source.text, found, number ▸ untaken, holds, by rw [number, Line.trimmed]⟩
  · rintro ⟨i, s, found, untaken, holds, rfl⟩
    have member : ⟨i + 1, s⟩ ∈ paste.lines := Paste.mem_ofText.2 ⟨i, found, rfl⟩
    exact ⟨⟨i + 1, s⟩, whole.mem_rest.2 ⟨member, untaken⟩, holds, rfl⟩

theorem lines_conserved_in_report :
    let text := "Dropped items:\n"
    let types := TypeCatalog.ofEntries [] .nil
    ∃ c, classify types (Paste.ofText text) = .ok c ∧ c.parse.lines = [1, 2] ∧
      ∀ line, line ∈ c.unparsed ↔ ∃ i s, (Paste.splitLines text)[i]? = some s ∧
        i + 1 ∉ c.parse.lines ∧ Text.trimText Line.isSpacing s ≠ "" ∧
        line = ⟨i + 1, Text.trimText Line.isSpacing s⟩ := by
  intro text types
  have payload : (Paste.ofText text).payload [1, 2] = 1 := by
    rw [Paste.payload_eq]
    decide +kernel
  have classified : classify types (Paste.ofText text) =
      .ok ⟨Parse.all types (Paste.ofText text), .killReport,
        (Parse.all types (Paste.ofText text)).rest.trimmedLines⟩ := by
    simp [text, classify, dominantKind, Parse.all_header, Parse.lines_header, payload, Kind.kind_read,
      dominant?, overtake]
    rfl
  refine ⟨_, classified, ?_, ((lines_conserved types Kind.all text).2.2.2.2.2.2 _ classified).2.2⟩
  simp only [text, Parse.all_header, Parse.lines, List.flatMap_cons, List.flatMap_nil, List.append_nil,
    Parse.lines_header]
  exact mergeSort_eq_of_perm .rfl (by decide)

end ItemAppraisal
