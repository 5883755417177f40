import ItemAppraisal.Text.Blank

/-!
# Parts of a text

Prefixes, suffixes, columns and words of lists of characters. Main statements: the pieces of a text hold all
of its characters but the marks (`forall_mem_splitAt_iff`), and they are what stands between its marks
(`splitAt_eq_singleton_iff`, `splitAt_eq_cons_cons_iff`).
-/

namespace ItemAppraisal.Text

/-- What stands after `lead`, if the text starts with it. -/
def afterLead? (lead s : List Char) : Option (List Char) :=
  if lead.isPrefixOf s then some (s.drop lead.length) else none

/-- What stands before `ending`, if the text ends with it. -/
def beforeEnding? (ending s : List Char) : Option (List Char) :=
  if ending.isSuffixOf s then some (s.take (s.length - ending.length)) else none

/-- What stands before `ending`, or the whole text. -/
def withoutEnding (ending s : List Char) : List Char :=
  (beforeEnding? ending s).getD s

/-- Takes `lead` off the front, as often as it is there. -/
def dropLeads (lead s : List Char) : List Char :=
  if _h : lead ≠ [] ∧ lead.isPrefixOf s = true then dropLeads lead (s.drop lead.length) else s
termination_by s.length
decreasing_by
  have := (List.isPrefixOf_iff_prefix.1 _h.2).length_le
  have := List.length_pos_iff.2 _h.1
  simp only [List.length_drop]
  omega

/-- Takes `ending` off the end, as often as it is there. -/
def dropEndings (ending s : List Char) : List Char :=
  (dropLeads ending.reverse s.reverse).reverse

@[simp] theorem dropEndings_nil (ending : List Char) : dropEndings ending [] = [] := by
  rw [dropEndings, List.reverse_nil, dropLeads]
  simp

/-- Whether `part` stands somewhere in the text. -/
def contains (part : List Char) : List Char → Bool
  | [] => part.isEmpty
  | c :: rest => part.isPrefixOf (c :: rest) || contains part rest

/-- The pieces between the characters that satisfy `p`, empty pieces included. -/
def splitAt (p : Char → Bool) (s : List Char) : List (List Char) :=
  s.foldr (fun c pieces => if p c then [] :: pieces else pieces.modifyHead (c :: ·)) [[]]

/-- The longest runs without white space. -/
def words (s : List Char) : List (List Char) :=
  (splitAt isBlank s).filter (!·.isEmpty)

theorem beforeEnding?_eq_some_iff {ending s front : List Char} :
    beforeEnding? ending s = some front ↔ s = front ++ ending := by
  simp only [beforeEnding?, List.isSuffixOf_iff_suffix]
  constructor
  · intro h
    split at h
    · obtain ⟨t, rfl⟩ := ‹ending <:+ s›
      simpa using h
    · simp at h
  · rintro rfl
    simp

theorem contains_iff {part s : List Char} : contains part s = true ↔ part <:+: s := by
  induction s with
  | nil => simp [contains]
  | cons c rest ih =>
    rw [contains, Bool.or_eq_true, List.isPrefixOf_iff_prefix, ih, List.infix_cons_iff]

theorem splitAt_ne_nil (p : Char → Bool) (s : List Char) : splitAt p s ≠ [] := by
  induction s with
  | nil => simp [splitAt]
  | cons c s ih =>
    rw [splitAt, List.foldr_cons, ← splitAt]
    split
    · simp
    · intro h
      cases hs : splitAt p s with
      | nil => exact ih hs
      | cons a l => simp [hs] at h

/-! ## Pieces -/

theorem splitAt_cons (p : Char → Bool) (c : Char) (s : List Char) : splitAt p (c :: s) =
    if p c then [] :: splitAt p s else (splitAt p s).modifyHead (c :: ·) := rfl

/-- What is split at a mark falls apart into what stands before it and after it. -/
theorem splitAt_append_cons {p : Char → Bool} {c : Char} (mark : p c = true) (s t : List Char) :
    splitAt p (s ++ c :: t) = splitAt p s ++ splitAt p t := by
  induction s with
  | nil => simp [splitAt, mark]
  | cons d s ih =>
    rw [List.cons_append, splitAt_cons, splitAt_cons, ih]
    cases first : splitAt p s with
    | nil => exact absurd first (splitAt_ne_nil p s)
    | cons piece pieces => split <;> rfl

theorem splitAt_of_unmarked {p : Char → Bool} {s : List Char} (unmarked : ∀ c ∈ s, p c = false) :
    splitAt p s = [s] := by
  induction s with
  | nil => rfl
  | cons c s ih =>
    obtain ⟨head, tail⟩ := List.forall_mem_cons.1 unmarked
    rw [splitAt_cons, ih tail, head]
    rfl

/-- Joined pieces fall apart again if none of them holds a mark. -/
theorem splitAt_intercalate {p : Char → Bool} {mark : Char} (isMark : p mark = true) {first : List Char}
    {others : List (List Char)} (unmarked : ∀ piece ∈ first :: others, ∀ c ∈ piece, p c = false) :
    splitAt p ([mark].intercalate (first :: others)) = first :: others := by
  induction others generalizing first with
  | nil =>
    rw [List.intercalate_singleton]
    exact splitAt_of_unmarked (unmarked first List.mem_cons_self)
  | cons second more ih =>
    obtain ⟨head, tail⟩ := List.forall_mem_cons.1 unmarked
    rw [List.intercalate_cons_cons, List.append_assoc, List.singleton_append, splitAt_append_cons isMark,
      splitAt_of_unmarked head, ih tail]
    rfl

/-- A text without marks is one piece; any other begins with the piece in front of the first mark. -/
theorem splitAt_cases (p : Char → Bool) (s : List Char) :
    (∀ c ∈ s, p c = false) ∧ splitAt p s = [s] ∨
      ∃ first mark rest, (∀ c ∈ first, p c = false) ∧ p mark = true ∧ s = first ++ mark :: rest ∧
        splitAt p s = first :: splitAt p rest := by
  induction s with
  | nil => exact .inl ⟨by simp, rfl⟩
  | cons c s ih =>
    by_cases mark : p c = true
    · exact .inr ⟨[], c, s, by simp, mark, rfl, by rw [splitAt_cons, if_pos mark]⟩
    · have unmarked : p c = false := by simpa using mark
      rcases ih with ⟨others, -⟩ | ⟨first, mark', rest, others, isMark, rfl, -⟩
      · have whole : ∀ d ∈ c :: s, p d = false := List.forall_mem_cons.2 ⟨unmarked, others⟩
        exact .inl ⟨whole, splitAt_of_unmarked whole⟩
      · have whole : ∀ d ∈ c :: first, p d = false := List.forall_mem_cons.2 ⟨unmarked, others⟩
        refine .inr ⟨c :: first, mark', rest, whole, isMark, rfl, ?_⟩
        rw [← List.cons_append, splitAt_append_cons isMark, splitAt_of_unmarked whole]
        rfl

theorem splitAt_eq_singleton_iff {p : Char → Bool} {s piece : List Char} :
    splitAt p s = [piece] ↔ s = piece ∧ ∀ c ∈ piece, p c = false := by
  constructor
  · intro split
    rcases splitAt_cases p s with ⟨unmarked, whole⟩ | ⟨first, mark, rest, -, -, -, pieces⟩
    · rw [whole] at split
      obtain rfl := List.singleton_inj.1 split
      exact ⟨rfl, unmarked⟩
    · rw [pieces] at split
      exact absurd (List.cons.inj split).2 (splitAt_ne_nil p rest)
  · rintro ⟨rfl, unmarked⟩
    exact splitAt_of_unmarked unmarked

theorem splitAt_eq_cons_cons_iff {p : Char → Bool} {s first second : List Char}
    {more : List (List Char)} :
    splitAt p s = first :: second :: more ↔ ∃ mark rest, s = first ++ mark :: rest ∧
      (∀ c ∈ first, p c = false) ∧ p mark = true ∧ splitAt p rest = second :: more := by
  constructor
  · intro split
    rcases splitAt_cases p s with ⟨-, whole⟩ | ⟨piece, mark, rest, unmarked, isMark, rfl, pieces⟩
    · rw [whole] at split
      cases split
    · rw [pieces] at split
      obtain ⟨rfl, later⟩ := List.cons.inj split
      exact ⟨mark, rest, rfl, unmarked, isMark, later⟩
  · rintro ⟨mark, rest, rfl, unmarked, isMark, later⟩
    rw [splitAt_append_cons isMark, splitAt_of_unmarked unmarked, later]
    rfl

/-- The pieces hold the characters of the text but for its marks. -/
theorem forall_mem_splitAt_iff {p : Char → Bool} {Q : Char → Prop} {s : List Char} :
    (∀ piece ∈ splitAt p s, ∀ c ∈ piece, Q c) ↔ ∀ c ∈ s, p c = true ∨ Q c := by
  induction s with
  | nil => simp [splitAt]
  | cons c s ih =>
    rw [splitAt_cons, List.forall_mem_cons, ← ih]
    split
    · rename_i mark
      simp [mark]
    · rename_i unmarked
      cases pieces : splitAt p s with
      | nil => exact absurd pieces (splitAt_ne_nil p s)
      | cons first more => simp [unmarked, and_assoc]

theorem unmarked_of_mem_splitAt {p : Char → Bool} {s piece : List Char} (member : piece ∈ splitAt p s) :
    ∀ c ∈ piece, p c = false := by
  refine forall_mem_splitAt_iff.2 (fun c _ => ?_) piece member
  cases p c <;> simp

end ItemAppraisal.Text
