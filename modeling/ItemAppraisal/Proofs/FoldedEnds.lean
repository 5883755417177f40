import ItemAppraisal.Proofs.CaseFolding
import ItemAppraisal.Proofs.Trimming

/-!
# White space in small letters

White space is its own small form and that of nothing else (`isBlank_of_mem_lowerOf`). So a text has white
space at its ends if and only if it has in small letters (`trim_lowercase_eq_iff`).
-/

namespace ItemAppraisal.Text

/-! ## Single characters -/

theorem lowerOf_of_isBlank {c : Char} (blank : isBlank c = true) : lowerOf c = [c] := by
  exact forall_isBlank (Q := fun d => lowerOf d = [d]) (by decide +kernel) blank

/-- No run of capitals leads to white space. -/
theorem isBlank_counterpart {c d : Char} (found : counterpart lowerRuns c = some d) : isBlank d = false := by
  have apart : ∀ run ∈ lowerRuns, ∀ range ∈ blankRanges,
      run.last + run.shift < range.1 ∨ (range.2 : Int) < run.first + run.shift := by
    decide +kernel
  have filled : ∀ range ∈ blankRanges, 0 < range.1 := by decide +kernel
  obtain ⟨run, covered, rfl⟩ := Option.map_eq_some_iff.1 found
  have inside := List.find?_some covered
  simp only [CaseRun.covers, Bool.and_eq_true, decide_eq_true_eq] at inside
  rw [← Bool.not_eq_true]
  intro blank
  obtain ⟨range, member, low, high⟩ := inRanges_iff.1 blank
  have away := apart run (List.mem_of_find?_eq_some covered) range member
  have positive := filled range member
  by_cases valid : (run.shift + (c.toNat : Int)).toNat.isValidChar
  · rw [Char.ofNat, dif_pos valid] at low high
    have low : range.1 ≤ (run.shift + (c.toNat : Int)).toNat := low
    have high : (run.shift + (c.toNat : Int)).toNat ≤ range.2 := high
    omega
  · rw [Char.ofNat, dif_neg valid] at low
    have low : range.1 ≤ 0 := low
    omega

theorem isBlank_of_mem_lowerOf {c d : Char} (member : d ∈ lowerOf c) : isBlank d = isBlank c := by
  by_cases blank : isBlank c = true
  · rw [lowerOf_of_isBlank blank, List.mem_singleton] at member
    rw [member]
  · have ascii : ∀ n < 0x80, isBlank (Char.ofNat n).toLower = isBlank (Char.ofNat n) := by decide +kernel
    rw [lowerOf] at member
    split at member
    · rename_i small
      rw [List.mem_singleton.1 member, ← Char.ofNat_toNat c]
      exact ascii c.toNat small
    · split at member
      · rw [eq_false_of_ne_true blank]
        obtain rfl | last := List.mem_cons.1 member
        · decide +kernel
        · rw [List.mem_singleton.1 last]
          decide +kernel
      · rw [List.mem_singleton] at member
        cases found : counterpart lowerRuns c with
        | none => rw [member, found, Option.getD_none]
        | some e =>
          rw [member, found, Option.getD_some, isBlank_counterpart found,
            eq_false_of_ne_true blank]

/-! ## Small letters -/

/-- A character stands for at least one character in small letters, and if it is white space for white
space only, else for none. -/
theorem exists_form (before rest : List Char) (c : Char) : ∃ form, form ≠ [] ∧
    (∀ d ∈ form, isBlank d = isBlank c) ∧
    lowerAfter before (c :: rest) = form ++ lowerAfter (c :: before) rest := by
  rw [lowerAfter]
  refine ⟨_, ?_, ?_, rfl⟩
  · split
    · split <;> simp
    · exact lowerOf_ne_nil c
  · split
    · rename_i sigma
      have capital : c = Char.ofNat 0x3a3 := by
        rw [← Char.ofNat_toNat c, beq_iff_eq.1 sigma]
      subst capital
      split <;> rw [List.forall_mem_singleton] <;> decide +kernel
    · intro d member
      exact isBlank_of_mem_lowerOf member

theorem head?_lowerAfter {before s : List Char} :
    (∀ c ∈ (lowerAfter before s).head?, isBlank c = false) ↔ ∀ c ∈ s.head?, isBlank c = false := by
  cases s with
  | nil => simp [lowerAfter]
  | cons c rest =>
    obtain ⟨form, filled, alike, split⟩ := exists_form before rest c
    obtain ⟨d, more, rfl⟩ := List.exists_cons_of_ne_nil filled
    simp [split, alike d List.mem_cons_self]

theorem getLast?_lowerAfter {before s : List Char} :
    (∀ c ∈ (lowerAfter before s).getLast?, isBlank c = false) ↔ ∀ c ∈ s.getLast?, isBlank c = false := by
  induction s generalizing before with
  | nil => simp [lowerAfter]
  | cons c rest ih =>
    obtain ⟨form, filled, alike, split⟩ := exists_form before rest c
    rw [split]
    cases rest with
    | nil =>
      have last := alike (form.getLast filled) (List.getLast_mem filled)
      simp [lowerAfter, List.getLast?_eq_some_getLast filled, last]
    | cons d rest =>
      have more : lowerAfter (c :: before) (d :: rest) ≠ [] := by simp [lowerAfter_eq_nil_iff]
      rw [List.getLast?_append_of_ne_nil _ more, ih, List.getLast?_cons_cons]

theorem trim_lowercase_eq_iff {s : String} : trim (lowercase s) = lowercase s ↔ trim s = s := by
  rw [trim_eq_self_iff, trim_eq_self_iff, lowercase, String.toList_ofList, EndsKept, EndsKept,
    head?_lowerAfter, getLast?_lowerAfter]

end ItemAppraisal.Text
