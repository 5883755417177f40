import ItemAppraisal.Format.Mention
import ItemAppraisal.Proofs.Trimming

/-!
# Columns and words of a line

The columns of a line are what stands between tabs and runs of two or more spaces, each run as long as it
can be (`columns_eq_of_parted`), and every line can be parted like this (`exists_parted`). White space at
the ends of a line changes neither its columns nor its words (`columns_append_blank`, `words_append_blank`).
-/

namespace ItemAppraisal.Format.Mention

open Text (isBlank trimBy)

/-! ## Parting a line -/

/-- A text without tabs and without two spaces side by side. -/
def IsPlain (s : List Char) : Prop :=
  '\t' ∉ s ∧ ¬[' ', ' '] <:+: s

/-- The texts between tabs and runs of two or more spaces. -/
inductive Parted : List Char → List (List Char) → Prop
  | last {column : List Char} (plain : IsPlain column) : Parted column [column]
  | tab {column rest : List Char} {columns : List (List Char)} (plain : IsPlain column)
      (parted : Parted rest columns) : Parted (column ++ '\t' :: rest) (column :: columns)
  | spaces {column rest : List Char} {columns : List (List Char)} {n : Nat} (plain : IsPlain column)
      (before : column.getLast? ≠ some ' ') (many : 2 ≤ n) (after : rest.head? ≠ some ' ')
      (parted : Parted rest columns) :
      Parted (column ++ (List.replicate n ' ' ++ rest)) (column :: columns)

theorem isPlain_nil : IsPlain [] := by
  simp [IsPlain]

theorem isPlain_cons_iff {c : Char} {s : List Char} :
    IsPlain (c :: s) ↔ c ≠ '\t' ∧ ¬(c = ' ' ∧ s.head? = some ' ') ∧ IsPlain s := by
  have pair : [' ', ' '] <+: c :: s ↔ c = ' ' ∧ s.head? = some ' ' := by
    rw [List.cons_prefix_cons, eq_comm]
    refine and_congr_right fun _ => ?_
    cases s <;> simp [eq_comm]
  rw [IsPlain, IsPlain, List.mem_cons, not_or, List.infix_cons_iff, not_or, pair, ne_comm]
  tauto

/-- A text is plain or begins with a plain column in front of a tab or of two spaces. -/
theorem plain_or_exists (s : List Char) :
    IsPlain s ∨ (∃ column rest, s = column ++ '\t' :: rest ∧ IsPlain column) ∨
      ∃ column rest, s = column ++ ' ' :: ' ' :: rest ∧ IsPlain column ∧ column.getLast? ≠ some ' ' := by
  induction s with
  | nil => exact .inl isPlain_nil
  | cons c s ih =>
    by_cases tab : c = '\t'
    · subst tab
      exact .inr (.inl ⟨[], s, rfl, isPlain_nil⟩)
    by_cases pair : c = ' ' ∧ s.head? = some ' '
    · obtain ⟨rfl, space⟩ := pair
      obtain ⟨rest, rfl⟩ := List.head?_eq_some_iff.1 space
      exact .inr (.inr ⟨[], rest, rfl, isPlain_nil, by simp⟩)
    rcases ih with plain | ⟨column, rest, rfl, plain⟩ | ⟨column, rest, rfl, plain, before⟩
    · exact .inl (isPlain_cons_iff.2 ⟨tab, pair, plain⟩)
    · refine .inr (.inl ⟨c :: column, rest, rfl, isPlain_cons_iff.2 ⟨tab, fun spaces => pair ?_, plain⟩⟩)
      exact ⟨spaces.1, by simp [spaces.2]⟩
    · refine .inr (.inr ⟨c :: column, rest, rfl, isPlain_cons_iff.2 ⟨tab, fun spaces => pair ?_, plain⟩, ?_⟩)
      · exact ⟨spaces.1, by simp [spaces.2]⟩
      · cases column with
        | nil => simpa using pair
        | cons d column => simpa using before

theorem exists_parted (s : List Char) : ∃ columns, Parted s columns := by
  induction length : s.length using Nat.strongRecOn generalizing s with
  | ind n ih =>
    subst length
    rcases plain_or_exists s with plain | ⟨column, rest, rfl, plain⟩ | ⟨column, rest, rfl, plain, before⟩
    · exact ⟨_, .last plain⟩
    · obtain ⟨columns, parted⟩ := ih rest.length (by simp; omega) rest rfl
      exact ⟨_, .tab plain parted⟩
    · obtain ⟨columns, parted⟩ := ih (rest.dropWhile (· == ' ')).length (by
        have shorter := (List.dropWhile_suffix (l := rest) (· == ' ')).length_le
        simp
        omega) _ rfl
      have whole : ' ' :: ' ' :: rest = List.replicate ((rest.takeWhile (· == ' ')).length + 2) ' ' ++
          rest.dropWhile (· == ' ') := by
        have spaces : rest.takeWhile (· == ' ') = List.replicate (rest.takeWhile (· == ' ')).length ' ' :=
          List.eq_replicate_iff.2 ⟨rfl, fun c member => by simpa using List.mem_takeWhile_imp member⟩
        rw [List.replicate_succ, List.replicate_succ, List.cons_append, List.cons_append, ← spaces,
          List.takeWhile_append_dropWhile]
      rw [whole]
      refine ⟨_, .spaces plain before (by omega) (fun space => ?_) parted⟩
      have stopped := List.head?_dropWhile_not (· == ' ') rest
      rw [space] at stopped
      simp at stopped

/-! ## Columns with text -/

/-- The columns that hold text, without white space at their ends. -/
def filled (columns : List (List Char)) : List (List Char) :=
  (columns.map (trimBy isBlank)).filter (!·.isEmpty)

theorem columns_eq_filled (s : List Char) : columns s = filled (columnsAfter [] s) := rfl

section Filled
variable {taken blanks s : List Char}

theorem filled_cons_congr {column column' : List Char} {more more' : List (List Char)}
    (same : trimBy isBlank column = trimBy isBlank column') (others : filled more = filled more') :
    filled (column :: more) = filled (column' :: more') := by
  simp only [filled, List.map_cons, List.filter_cons, same] at others ⊢
  rw [others]

theorem filled_blank_cons (blank : ∀ c ∈ blanks, isBlank c = true) (more : List (List Char)) :
    filled (blanks :: more) = filled more := by
  have empty : trimBy isBlank blanks = [] := by
    have cut := Text.trimBy_append (s := []) blank (List.forall_mem_nil _)
    simpa using cut
  simp [filled, empty]

/-- White space at the front of a column does not show. -/
theorem filled_columnsAfter_blank (blank : ∀ c ∈ blanks, isBlank c = true) :
    filled (columnsAfter (taken ++ blanks) s) = filled (columnsAfter taken s) := by
  have front (column : List Char) : trimBy isBlank (blanks.reverse ++ column) = trimBy isBlank column := by
    have cut := Text.trimBy_append (fun c member => blank c (List.mem_reverse.1 member))
      (List.forall_mem_nil _) column
    simpa using cut
  induction taken, s using columnsAfter.induct with
  | case1 taken => simpa [columnsAfter] using filled_cons_congr (front taken.reverse) rfl
  | case2 taken rest ih =>
    simpa [columnsAfter] using filled_cons_congr (front taken.reverse) rfl
  | case3 taken rest ih =>
    simpa [columnsAfter] using filled_cons_congr (front taken.reverse) rfl
  | case4 taken c rest tab pair ih =>
    rw [columnsAfter, columnsAfter, ← List.cons_append, ih]
    all_goals assumption

theorem columnsAfter_cons {c : Char} (tab : c ≠ '\t') (pair : ¬(c = ' ' ∧ s.head? = some ' ')) :
    columnsAfter taken (c :: s) = columnsAfter (c :: taken) s := by
  rw [columnsAfter]
  · exact tab
  · rintro rest rfl rfl
    exact pair ⟨rfl, rfl⟩

theorem columns_cons_blank {c : Char} (blank : isBlank c = true) : columns (c :: s) = columns s := by
  have single (t : List Char) : filled (columnsAfter [c] t) = columns t := by
    show filled (columnsAfter ([] ++ [c]) t) = filled (columnsAfter [] t)
    exact filled_columnsAfter_blank (List.forall_mem_singleton.2 blank)
  by_cases tab : c = '\t'
  · subst tab
    exact filled_blank_cons (List.forall_mem_nil _) _
  induction length : s.length using Nat.strongRecOn generalizing s with
  | ind n ih =>
    subst length
    by_cases pair : c = ' ' ∧ s.head? = some ' '
    · obtain ⟨rfl, space⟩ := pair
      obtain ⟨rest, rfl⟩ := List.head?_eq_some_iff.1 space
      have first : columns (' ' :: ' ' :: rest) = columns rest := filled_blank_cons (List.forall_mem_nil _) _
      rw [first, ih rest.length (by simp) rfl]
    · rw [columns_eq_filled, columnsAfter_cons tab pair, single]

theorem columns_blank_append (blank : ∀ c ∈ blanks, isBlank c = true) :
    columns (blanks ++ s) = columns s := by
  induction blanks with
  | nil => rfl
  | cons c blanks ih =>
    obtain ⟨head, tail⟩ := List.forall_mem_cons.1 blank
    rw [List.cons_append, columns_cons_blank head, ih tail]

/-- White space behind a column is part of it or holds no column. -/
theorem filled_columnsAfter_of_blank (blank : ∀ c ∈ blanks, isBlank c = true) :
    filled (columnsAfter taken blanks) = filled [taken.reverse] := by
  have empty : columns blanks = [] := by
    have gone := columns_blank_append (s := []) blank
    rw [List.append_nil] at gone
    exact gone
  induction taken, blanks using columnsAfter.induct with
  | case1 taken => rfl
  | case2 taken rest ih =>
    rw [columns_cons_blank rfl] at empty
    rw [columnsAfter]
    exact filled_cons_congr rfl empty
  | case3 taken rest ih =>
    rw [columns_cons_blank rfl, columns_cons_blank rfl] at empty
    rw [columnsAfter]
    exact filled_cons_congr rfl empty
  | case4 taken c rest tab pair ih =>
    obtain ⟨head, tail⟩ := List.forall_mem_cons.1 blank
    rw [columns_cons_blank head] at empty
    rw [columnsAfter, ih tail empty]
    · refine filled_cons_congr ?_ rfl
      have cut := Text.trimBy_append (s := taken.reverse) (List.forall_mem_nil _)
        (List.forall_mem_singleton.2 head)
      simpa using cut
    all_goals assumption

theorem filled_columnsAfter_append (blank : ∀ c ∈ blanks, isBlank c = true) :
    filled (columnsAfter taken (s ++ blanks)) = filled (columnsAfter taken s) := by
  induction taken, s using columnsAfter.induct with
  | case1 taken => exact filled_columnsAfter_of_blank blank
  | case2 taken rest ih => simpa [columnsAfter] using filled_cons_congr rfl ih
  | case3 taken rest ih => simpa [columnsAfter] using filled_cons_congr rfl ih
  | case4 taken c rest tab pair ih =>
    -- A last space and the white space behind it may be two spaces side by side.
    by_cases space : c = ' ' ∧ (rest ++ blanks).head? = some ' '
    · obtain ⟨rfl, space⟩ := space
      obtain rfl : rest = [] := by
        cases rest with
        | nil => rfl
        | cons d rest =>
          obtain rfl : d = ' ' := by simpa using space
          exact absurd rfl (pair _ rfl)
      rw [List.cons_append, List.nil_append, filled_columnsAfter_of_blank (by simpa using ⟨rfl, blank⟩),
        filled_columnsAfter_of_blank (List.forall_mem_singleton.2 rfl)]
    · rw [List.cons_append, columnsAfter_cons tab space, ih, columnsAfter]
      all_goals assumption

end Filled

/-- White space at the ends of a line does not change its columns. -/
theorem columns_append_blank {front back s : List Char} (atFront : ∀ c ∈ front, isBlank c = true)
    (atBack : ∀ c ∈ back, isBlank c = true) : columns (front ++ (s ++ back)) = columns s :=
  (columns_blank_append atFront).trans (filled_columnsAfter_append atBack)

/-! ## The columns of a line that is parted -/

theorem columnsAfter_plain_append {taken column rest : List Char} (plain : IsPlain column)
    (apart : column.getLast? = some ' ' → rest.head? ≠ some ' ') :
    columnsAfter taken (column ++ rest) = columnsAfter (column.reverse ++ taken) rest := by
  induction column generalizing taken with
  | nil => rfl
  | cons c column ih =>
    obtain ⟨tab, pair, plain⟩ := isPlain_cons_iff.1 plain
    have single : ¬(c = ' ' ∧ (column ++ rest).head? = some ' ') := by
      cases column with
      | nil =>
        rintro ⟨rfl, space⟩
        exact apart rfl space
      | cons d column => exact pair
    have later : column.getLast? = some ' ' → rest.head? ≠ some ' ' := by
      cases column with
      | nil => simp
      | cons d column => exact apart
    rw [List.cons_append, columnsAfter_cons tab single, ih plain later, List.reverse_cons, List.append_assoc]
    rfl

/-- The columns are what stands between tabs and runs of two or more spaces. -/
theorem columns_eq_of_parted {s : List Char} {parts : List (List Char)} (parted : Parted s parts) :
    columns s = filled parts := by
  induction parted with
  | last plain =>
    have whole : columnsAfter [] (_ ++ []) = columnsAfter (_ ++ []) [] :=
      columnsAfter_plain_append plain (by simp)
    rw [List.append_nil, List.append_nil] at whole
    rw [columns_eq_filled, whole, columnsAfter, List.reverse_reverse]
  | @tab column rest more plain parted ih =>
    rw [columns_eq_filled, columnsAfter_plain_append plain (by simp), columnsAfter, List.append_nil,
      List.reverse_reverse]
    exact filled_cons_congr rfl ih
  | @spaces column rest more n plain before many after parted ih =>
    obtain ⟨n, rfl⟩ := Nat.exists_eq_add_of_le' many
    rw [List.replicate_succ, List.replicate_succ, List.cons_append, List.cons_append, columns_eq_filled,
      columnsAfter_plain_append plain (by simp [before]), columnsAfter, List.append_nil, List.reverse_reverse]
    refine filled_cons_congr rfl ?_
    rw [← ih, ← columns_eq_filled]
    exact columns_blank_append fun c member => by rw [List.eq_of_mem_replicate member]; rfl

/-! ## Words -/

theorem words_cons_blank {c : Char} {s : List Char} (blank : isBlank c = true) :
    Text.words (c :: s) = Text.words s := by
  simp [Text.words, Text.splitAt_cons, blank]

/-- White space at the ends of a line does not change its words. -/
theorem words_append_blank {front back s : List Char} (atFront : ∀ c ∈ front, isBlank c = true)
    (atBack : ∀ c ∈ back, isBlank c = true) : Text.words (front ++ (s ++ back)) = Text.words s := by
  induction front with
  | nil =>
    induction back generalizing s with
    | nil => simp
    | cons c back ih =>
      obtain ⟨head, tail⟩ := List.forall_mem_cons.1 atBack
      have parted : Text.words (s ++ c :: back) = Text.words s ++ Text.words back := by
        simp [Text.words, Text.splitAt_append_cons head]
      have gone : Text.words back = [] := by
        have alone := ih (s := []) tail
        simpa [Text.words, Text.splitAt] using alone
      rw [List.nil_append, parted, gone, List.append_nil]
  | cons c front ih =>
    obtain ⟨head, tail⟩ := List.forall_mem_cons.1 atFront
    rw [List.cons_append, words_cons_blank head, ih tail]

/-! ## Trimmed lines -/

section Trimmed
variable {p : Char → Bool} (more : ∀ c, p c = true → isBlank c = true) (s : List Char)
include more

theorem columns_trimBy : columns (trimBy p s) = columns s := by
  obtain ⟨front, back, split, atFront, atBack⟩ := Text.exists_eq_append_trimBy p s
  conv_rhs => rw [split]
  exact (columns_append_blank (fun c member => more c (atFront c member))
    (fun c member => more c (atBack c member))).symm

theorem words_trimBy : Text.words (trimBy p s) = Text.words s := by
  obtain ⟨front, back, split, atFront, atBack⟩ := Text.exists_eq_append_trimBy p s
  conv_rhs => rw [split]
  exact (words_append_blank (fun c member => more c (atFront c member))
    (fun c member => more c (atBack c member))).symm

end Trimmed

end ItemAppraisal.Format.Mention
