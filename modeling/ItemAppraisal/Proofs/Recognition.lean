import ItemAppraisal.Appraisal.Appraiser
import ItemAppraisal.Proofs.LineConservation

/-!
# What becomes of a text

A text is refused, or no format takes a line of it that holds text, or it is appraised under the format
that took the most such lines, of equals the earlier one. Nothing else can happen
(`appraise_outcome`).
-/

namespace ItemAppraisal

open Format (Kind)

/-! ## The greatest number -/

/-- A pair with a number that is not zero, greater than all before it and no less than all after it. -/
def Leads {α : Type} (counted : List (α × Nat)) (best : α × Nat) : Prop :=
  0 < best.2 ∧ ∃ before after, counted = before ++ best :: after ∧
    (∀ x ∈ before, x.2 < best.2) ∧ ∀ x ∈ after, x.2 ≤ best.2

/-- Exact meaning of the best pair so far, where there may be none. -/
def Best {α : Type} (counted : List (α × Nat)) : Option α × Nat → Prop
  | (none, n) => n = 0 ∧ ∀ x ∈ counted, x.2 = 0
  | (some a, n) => Leads counted (a, n)

theorem Leads.le {α : Type} {counted : List (α × Nat)} {best : α × Nat} (leads : Leads counted best) :
    ∀ x ∈ counted, x.2 ≤ best.2 := by
  obtain ⟨-, before, after, rfl, less, atMost⟩ := leads
  intro x member
  rcases List.mem_append.1 member with early | late
  · exact Nat.le_of_lt (less x early)
  · rcases List.mem_cons.1 late with rfl | late
    · exact Nat.le_refl _
    · exact atMost x late

theorem le_of_best {α : Type} {counted : List (α × Nat)} {best : Option α × Nat}
    (correct : Best counted best) : ∀ x ∈ counted, x.2 ≤ best.2 := by
  obtain ⟨name, n⟩ := best
  cases name with
  | none => exact fun x member => Nat.le_of_eq ((correct.2 x member).trans correct.1.symm)
  | some a => exact Leads.le correct

/-- One more pair. -/
theorem best_overtake {α : Type} {counted : List (α × Nat)} {best : Option α × Nat}
    (correct : Best counted best) (next : α × Nat) :
    Best (counted ++ [next]) (overtake best next) := by
  rw [overtake]
  by_cases less : best.2 < next.2
  · rw [if_pos less]
    refine ⟨by omega, counted, [], rfl, fun x member => ?_, by simp⟩
    exact Nat.lt_of_le_of_lt (le_of_best correct x member) less
  · rw [if_neg less]
    obtain ⟨name, n⟩ := best
    cases name with
    | none =>
      obtain ⟨rfl, zero⟩ := correct
      refine ⟨rfl, fun x member => ?_⟩
      rcases List.mem_append.1 member with early | last
      · exact zero x early
      · rw [List.mem_singleton.1 last]
        omega
    | some a =>
      obtain ⟨positive, before, after, rfl, lower, atMost⟩ := correct
      refine ⟨positive, before, after ++ [next], by simp, lower, fun x member => ?_⟩
      rcases List.mem_append.1 member with early | last
      · exact atMost x early
      · rw [List.mem_singleton.1 last]
        omega

theorem best_foldl {α : Type} {counted : List (α × Nat)} {best : Option α × Nat}
    (correct : Best counted best) (more : List (α × Nat)) :
    Best (counted ++ more) (more.foldl overtake best) := by
  induction more generalizing counted best with
  | nil => rwa [List.append_nil]
  | cons next more ih =>
    rw [List.foldl_cons, List.append_cons]
    exact ih (best_overtake correct next)

/-- The dominant name leads; there is none only if every number is zero. -/
theorem dominant?_correct {α : Type} (counted : List (α × Nat)) :
    match dominant? counted with
    | some a => ∃ n, Leads counted (a, n)
    | none => ∀ x ∈ counted, x.2 = 0 := by
  have correct : Best counted (counted.foldl overtake (none, 0)) :=
    best_foldl (show Best [] (none, 0) from ⟨rfl, by simp⟩) counted
  rw [dominant?]
  generalize counted.foldl overtake (none, 0) = best at correct
  obtain ⟨name, n⟩ := best
  cases name with
  | none => exact correct.2
  | some a => exact ⟨n, correct⟩

/-! ## Lines that hold text -/

/-- The lines with text that a reading took. -/
def Reading.textLines (paste : Paste) (r : Reading) : List Line :=
  paste.lines.filter fun line => line.holdsText && r.lines.contains line.number

theorem Paste.payload_eq_length {paste : Paste} {r : Reading} (ordered : r.lines.Sublist paste.numbers) :
    paste.payload r.lines = (r.textLines paste).length := by
  have distinct : paste.numbers.Nodup := paste.numbers_ascending.imp Nat.ne_of_lt
  have numbered : (r.textLines paste).length = ((r.textLines paste).map (·.number)).length :=
    (List.length_map _).symm
  rw [payload_eq, numbered]
  refine List.Perm.length_eq ((List.perm_ext_iff_of_nodup ?_ ?_).2 fun n => ?_)
  · exact (ordered.nodup distinct).filter _
  · exact (List.filter_sublist.map _).nodup distinct
  · simp only [Reading.textLines, List.mem_filter, List.mem_map, Option.any_eq_true, line?_eq_some_iff,
      Bool.and_eq_true, List.contains_iff_mem]
    constructor
    · rintro ⟨taken, line, ⟨member, rfl⟩, holds⟩
      exact ⟨line, ⟨member, holds, taken⟩, rfl⟩
    · rintro ⟨line, ⟨member, holds, taken⟩, rfl⟩
      exact ⟨taken, line, ⟨member, rfl⟩, holds⟩

namespace Parse

/-- A line with text was taken. -/
def Recognises (p : Parse) (paste : Paste) : Prop :=
  ∃ line ∈ paste.lines, line.holdsText = true ∧ line.number ∈ p.lines

/-- A reading that took lines with text: more of them than each reading before it and no fewer than each
after it. -/
structure Dominant (p : Parse) (paste : Paste) (r : Reading) : Prop where
  holdsText : r.textLines paste ≠ []
  first : ∃ before after, p.readings = before ++ r :: after ∧
    (∀ s ∈ before, (s.textLines paste).length < (r.textLines paste).length) ∧
    ∀ s ∈ after, (s.textLines paste).length ≤ (r.textLines paste).length

theorem recognises_iff {p : Parse} {paste : Paste} :
    p.Recognises paste ↔ ∃ r ∈ p.readings, r.textLines paste ≠ [] := by
  constructor
  · rintro ⟨line, member, holds, taken⟩
    obtain ⟨r, reading, inside⟩ := mem_lines.1 taken
    refine ⟨r, reading, List.ne_nil_of_mem (List.mem_filter.2 ⟨member, ?_⟩)⟩
    rw [holds, List.contains_iff_mem.2 inside]
    rfl
  · rintro ⟨r, reading, holds⟩
    obtain ⟨line, inside⟩ := List.exists_mem_of_ne_nil _ holds
    obtain ⟨member, both⟩ := List.mem_filter.1 inside
    obtain ⟨holds, taken⟩ := Bool.and_eq_true_iff.1 both
    exact ⟨line, member, holds, mem_lines.2 ⟨r, reading, List.contains_iff_mem.1 taken⟩⟩

theorem Dominant.recognises {p : Parse} {paste : Paste} {r : Reading} (dominant : p.Dominant paste r) :
    p.Recognises paste := by
  obtain ⟨before, after, split, -⟩ := dominant.first
  exact recognises_iff.2 ⟨r, by rw [split]; simp, dominant.holdsText⟩

/-- A text of which no line with text was taken has all its lines with text left. -/
theorem Conserves.trimmedLines_length {p : Parse} {paste : Paste} (conserves : p.Conserves paste)
    (unrecognised : ¬p.Recognises paste) :
    p.rest.trimmedLines.length = (paste.lines.filter (·.holdsText)).length := by
  rw [Paste.trimmedLines, List.length_map, conserves.rest_eq, List.filter_filter]
  refine congrArg List.length (List.filter_congr fun line member => ?_)
  cases holds : line.holdsText with
  | false => rfl
  | true =>
    rw [Bool.true_and, decide_eq_true_iff]
    exact fun taken => unrecognised ⟨line, member, holds, taken⟩

theorem kinds_sublist (types : TypeCatalog) (kinds : List Kind) (paste : Paste) :
    ((withKinds types kinds paste).readings.map (·.kind)).Sublist kinds := by
  induction kinds generalizing paste with
  | nil => exact .slnil
  | cons k kinds ih =>
    rw [withKinds]
    split
    · exact List.nil_sublist _
    · simp only
      split
      · exact (ih _).cons k
      · rw [List.map_cons, Kind.kind_read]
        exact (ih _).cons_cons k

/-- The dominant name is that of the dominant reading; there is none if no line with text was taken. -/
theorem Conserves.dominant?_readings {p : Parse} {paste : Paste} (conserves : p.Conserves paste) :
    match dominant? (p.readings.map fun r => (r.kind, paste.payload r.lines)) with
    | some kind => ∃ r, p.Dominant paste r ∧ kind = r.kind
    | none => ¬p.Recognises paste := by
  have counts : ∀ r ∈ p.readings, paste.payload r.lines = (r.textLines paste).length :=
    fun r member => Paste.payload_eq_length (conserves.ordered r member)
  have correct := dominant?_correct (p.readings.map fun r => (r.kind, paste.payload r.lines))
  cases found : dominant? (p.readings.map fun r => (r.kind, paste.payload r.lines)) with
  | some kind =>
    rw [found] at correct
    obtain ⟨n, positive, front, back, split, lower, atMost⟩ := correct
    obtain ⟨before, others, readings, rfl, rest⟩ := List.map_eq_append_iff.1 split
    obtain ⟨r, after, rfl, same, rfl⟩ := List.map_eq_cons_iff.1 rest
    obtain ⟨rfl, rfl⟩ := Prod.mk.inj same
    have count (s : Reading) (member : s ∈ before ++ r :: after) :=
      counts s (readings ▸ member)
    rw [count r (by simp)] at positive lower atMost
    refine ⟨r, ⟨List.ne_nil_of_length_pos positive, before, after, readings, ?_, ?_⟩, rfl⟩
    · intro s member
      rw [← count s (by simp [member])]
      exact lower _ (List.mem_map_of_mem member)
    · intro s member
      rw [← count s (by simp [member])]
      exact atMost _ (List.mem_map_of_mem member)
  | none =>
    rw [found] at correct
    intro recognises
    obtain ⟨r, member, holds⟩ := recognises_iff.1 recognises
    have zero := correct _ (List.mem_map_of_mem member)
    rw [counts r member] at zero
    exact holds (List.eq_nil_of_length_eq_zero zero)

end Parse

/-! ## Classifying -/

/-- Exact meaning of an attempt to classify a paste. -/
def ClassifiedCorrect (types : TypeCatalog) (paste : Paste) : Except Error Classification → Prop
  | .ok c => ∃ r, (Parse.all types paste).Dominant paste r ∧ c.kind = r.kind
  | .error e => ¬(Parse.all types paste).Recognises paste ∧
      e = .noValidInput (paste.lines.filter (·.holdsText)).length

theorem classify_correct (types : TypeCatalog) (paste : Paste) :
    ClassifiedCorrect types paste (classify types paste) := by
  have conserves : (Parse.all types paste).Conserves paste :=
    Parse.withKinds_conserves types Kind.all paste
  have named := conserves.dominant?_readings
  rw [classify, dominantKind]
  cases found : dominant? ((Parse.all types paste).readings.map
      fun r => (r.kind, paste.payload r.lines)) with
  | some kind =>
    rw [found] at named
    exact named
  | none =>
    rw [found] at named
    exact ⟨named, congrArg Error.noValidInput (conserves.trimmedLines_length named)⟩

/-! ## Appraising -/

/-- A request that is turned down before its text is read: no text, too much text or no market. -/
def Appraiser.Refuses (a : Appraiser) (market raw : String) : Prop :=
  Text.isBlankText raw = true ∨ a.settings.maxInputBytes < raw.utf8ByteSize ∨
    Text.isBlankText market = true

/-- Exact meaning of an attempt to appraise a text. -/
def AppraisedCorrect (a : Appraiser) (market raw : String) : Except Error Appraisal → Prop
  | .ok v => ¬a.Refuses market raw ∧ ∃ r,
      (Parse.all a.types (Paste.ofText raw)).Dominant (Paste.ofText raw) r ∧ v.kind = r.kind.name
  | .error (.configuration _) => a.Refuses market raw
  | .error (.noValidInput n) => ¬a.Refuses market raw ∧
      ¬(Parse.all a.types (Paste.ofText raw)).Recognises (Paste.ofText raw) ∧
      n = ((Paste.ofText raw).lines.filter (·.holdsText)).length
  | .error _ => False

theorem Appraiser.problem?_eq_none_iff {a : Appraiser} {market raw : String} :
    a.problem? market raw = none ↔ ¬a.Refuses market raw := by
  rw [problem?, Refuses]
  by_cases blank : Text.isBlankText raw = true
  · simp [blank]
  · by_cases long : a.settings.maxInputBytes < raw.utf8ByteSize
    · simp [blank, long]
    · simp [blank, long]

theorem appraise_correct (a : Appraiser) (market raw : String) :
    AppraisedCorrect a market raw (a.appraise market raw) := by
  have classified := classify_correct a.types (Paste.ofText raw)
  rw [Appraiser.appraise]
  cases problem : a.problem? market raw with
  | some cause =>
    show a.Refuses market raw
    by_contra accepted
    rw [Appraiser.problem?_eq_none_iff.2 accepted] at problem
    cases problem
  | none =>
    have accepted := Appraiser.problem?_eq_none_iff.1 problem
    cases outcome : classify a.types (Paste.ofText raw) with
    | ok c =>
      rw [outcome] at classified
      obtain ⟨r, dominant, kind⟩ := classified
      exact ⟨accepted, r, dominant, congrArg Kind.name kind⟩
    | error e =>
      rw [outcome] at classified
      obtain ⟨unrecognised, rfl⟩ := classified
      exact ⟨accepted, unrecognised, rfl⟩

theorem exists_appraise {a : Appraiser} {market raw : String} (accepted : ¬a.Refuses market raw)
    (recognised : (Parse.all a.types (Paste.ofText raw)).Recognises (Paste.ofText raw)) :
    ∃ v, a.appraise market raw = .ok v := by
  have correct := appraise_correct a market raw
  cases outcome : a.appraise market raw with
  | ok v => exact ⟨v, rfl⟩
  | error e =>
    rw [outcome] at correct
    cases e with
    | configuration cause => exact absurd correct accepted
    | noValidInput n => exact absurd recognised correct.2.1
    | _ => exact correct.elim

/-- A request fails for its configuration exactly if it is refused. Otherwise it fails exactly if no line
that holds text was taken, and the failure counts all such lines of the text. It never fails for want of
a type or a price, and on success the kind is that of the dominant reading. -/
theorem appraise_outcome (a : Appraiser) (market raw : String) :
    let paste := Paste.ofText raw
    let p := Parse.all a.types paste
    ((∃ cause, a.appraise market raw = .error (.configuration cause)) ↔ a.Refuses market raw) ∧
    (∀ n, a.appraise market raw = .error (.noValidInput n) ↔
      ¬a.Refuses market raw ∧ ¬p.Recognises paste ∧
        n = (paste.lines.filter (·.holdsText)).length) ∧
    ((∃ v, a.appraise market raw = .ok v) ↔ ¬a.Refuses market raw ∧ p.Recognises paste) ∧
    (∀ e, a.appraise market raw = .error e →
      (∃ cause, e = .configuration cause) ∨ ∃ n, e = .noValidInput n) ∧
    (∀ v, a.appraise market raw = .ok v → ∃ r, p.Dominant paste r ∧ v.kind = r.kind.name) ∧
    (p.readings.map (·.kind)).Sublist Kind.all := by
  intro paste p
  have correct := appraise_correct a market raw
  have ordered : (p.readings.map (·.kind)).Sublist Kind.all := Parse.kinds_sublist a.types Kind.all paste
  cases outcome : a.appraise market raw with
  | ok v =>
    rw [outcome] at correct
    obtain ⟨accepted, r, dominant, kind⟩ := correct
    have recognised : p.Recognises paste := dominant.recognises
    refine ⟨by simp [accepted], by simp [recognised], by simp [accepted, recognised], by simp, ?_, ordered⟩
    intro w same
    cases same
    exact ⟨r, dominant, kind⟩
  | error e =>
    rw [outcome] at correct
    cases e with
    | configuration cause =>
      have refused : a.Refuses market raw := correct
      exact ⟨by simp [refused], by simp [refused], by simp [refused], by simp, by simp, ordered⟩
    | noValidInput n =>
      obtain ⟨accepted, unrecognised, count⟩ := correct
      have unrecognised : ¬p.Recognises paste := unrecognised
      refine ⟨by simp [accepted], fun m => ?_, by simp [unrecognised], by simp, by simp, ordered⟩
      simp only [Except.error.injEq, Error.noValidInput.injEq]
      constructor
      · intro same
        exact ⟨accepted, unrecognised, same ▸ count⟩
      · rintro ⟨-, -, rfl⟩
        exact count
    | _ => exact correct.elim

theorem appraise_outcome_of_report :
    let a : Appraiser := ⟨{}, .ofEntries [] .nil, {}⟩
    ∃ v, a.appraise "jita" "Dropped items:\n" = .ok v ∧ v.kind = "killmail" := by
  intro a
  have accepted : ¬a.Refuses "jita" "Dropped items:\n" := by
    rw [Appraiser.Refuses]
    decide +kernel
  have recognised : (Parse.all a.types (Paste.ofText "Dropped items:\n")).Recognises
      (Paste.ofText "Dropped items:\n") := by
    refine ⟨⟨1, "Dropped items:"⟩, by decide +kernel, by decide +kernel, Parse.mem_lines.2 ?_⟩
    exact ⟨_, by rw [Parse.all_header]; exact List.mem_cons_self, by simp [Parse.lines_header]⟩
  obtain ⟨-, -, succeeds, -, named, -⟩ := appraise_outcome a "jita" "Dropped items:\n"
  obtain ⟨v, appraised⟩ := succeeds.2 ⟨accepted, recognised⟩
  obtain ⟨r, dominant, kind⟩ := named v appraised
  refine ⟨v, appraised, kind.trans ?_⟩
  obtain ⟨before, after, split, -⟩ := dominant.first
  have member : r ∈ (Parse.all a.types (Paste.ofText "Dropped items:\n")).readings := by
    rw [split]
    simp
  rw [Parse.all_header, List.mem_singleton] at member
  rw [member, Kind.kind_read]
  rfl

end ItemAppraisal
