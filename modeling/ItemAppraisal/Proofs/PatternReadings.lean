import ItemAppraisal.Format.Cell
import Mathlib.Data.List.Basic

/-!
# What patterns read

The shapes that lines are read with are put together from shapes that keep nothing and read the runs of a
language (`Spans`), and from groups around such shapes. So every reading of a line goes through runs of
these languages, and through any of them there is a reading (`mem_readings_group`, `mem_readings_span`).
Where all readings give the same, the preferred one is any of them (`map_match?_eq_some_iff`); where they do
not, a reluctant repetition takes the shortest run after which the line can be read on (`shortest_of_head?`).
-/

namespace ItemAppraisal.Text

/-! ## Runs of a class -/

/-- A run of one or more characters of a class. -/
def IsRun (p : Char → Bool) (run : List Char) : Prop :=
  run ≠ [] ∧ ∀ c ∈ run, p c = true

instance (p : Char → Bool) (run : List Char) : Decidable (IsRun p run) :=
  decidable_of_iff ((!run.isEmpty && run.all p) = true) (by simp [IsRun])

theorem isRun_iff_exists {p : Char → Bool} {run : List Char} :
    IsRun p run ↔ ∃ c rest, run = c :: rest ∧ p c = true ∧ ∀ d ∈ rest, p d = true := by
  cases run <;> simp [IsRun]

/-! ## What groups keep -/

namespace Captures

/-- What is kept when a group reads a run in front of a rest. -/
def keep (n : Nat) (run rest : List Char) (caps : Captures) : Captures :=
  (.closing n, rest) :: (.opening n, run ++ rest) :: caps

variable {caps : Captures} {m n : Nat}

theorem get?_cons_of_ne {mark : Mark} (opening : mark ≠ .opening n) (closing : mark ≠ .closing n)
    (s : List Char) : get? ((mark, s) :: caps) n = get? caps n := by
  have opening' : (Mark.opening n == mark) = false := beq_eq_false_iff_ne.2 opening.symm
  have closing' : (Mark.closing n == mark) = false := beq_eq_false_iff_ne.2 closing.symm
  simp [get?, List.lookup_cons, opening', closing']

theorem get?_keep (run rest : List Char) :
    get? (keep n run rest caps) m = if m = n then some run else get? caps m := by
  rw [keep]
  split
  · rename_i same
    rw [same, get?_closing_opening]
  · rename_i other
    have apart : n ≠ m := fun same => other same.symm
    rw [get?_cons_of_ne (by simp) (by simpa using apart),
      get?_cons_of_ne (by simpa using apart) (by simp)]

/-- A group that was not closed keeps nothing. -/
theorem get?_opening (s : List Char) : get? [(.opening m, s)] n = none := by
  have unclosed : (Mark.closing n == .opening m) = false := rfl
  simp [get?, List.lookup_cons, unclosed]

end Captures

namespace Pattern

theorem mem_ends_iff {p : Char → Bool} {s rest : List Char} :
    rest ∈ ends p s ↔ ∃ run, s = run ++ rest ∧ ∀ c ∈ run, p c = true := by
  induction s with
  | nil =>
    rw [ends, List.mem_singleton]
    constructor
    · rintro rfl
      exact ⟨[], rfl, List.forall_mem_nil _⟩
    · rintro ⟨run, split, -⟩
      exact (List.append_eq_nil_iff.1 split.symm).2
  | cons c s ih =>
    rw [ends, List.mem_cons]
    constructor
    · rintro (rfl | later)
      · exact ⟨[], rfl, List.forall_mem_nil _⟩
      · split at later
        · rename_i head
          obtain ⟨run, rfl, inside⟩ := ih.1 later
          exact ⟨c :: run, rfl, List.forall_mem_cons.2 ⟨head, inside⟩⟩
        · cases later
    · rintro ⟨run, split, inside⟩
      cases run with
      | nil => exact .inl split.symm
      | cons d run =>
        obtain ⟨rfl, rfl⟩ := List.cons.inj split
        obtain ⟨head, tail⟩ := List.forall_mem_cons.1 inside
        rw [if_pos head]
        exact .inr (ih.2 ⟨run, rfl, tail⟩)

/-! ## Shapes without groups -/

/-- A shape reads the runs of a language and keeps nothing. -/
def Spans (a : Pattern) (language : List Char → Prop) : Prop :=
  ∀ caps s r, r ∈ a.readings (caps, s) ↔ ∃ run rest, s = run ++ rest ∧ language run ∧ r = (caps, rest)

variable {a b : Pattern} {A B : List Char → Prop}

theorem Spans.congr (spans : Spans a A) (same : ∀ run, A run ↔ B run) : Spans a B := by
  intro caps s r
  rw [spans]
  simp only [same]

theorem spans_empty : Spans empty (· = []) := by
  intro caps s r
  simp [readings]

theorem spans_one (p : Char → Bool) : Spans (one p) fun run => ∃ c, run = [c] ∧ p c = true := by
  intro caps s r
  cases s with
  | nil => simp [readings]
  | cons d s =>
    rw [readings]
    constructor
    · intro member
      split at member
      · rename_i head
        exact ⟨[d], s, rfl, ⟨d, rfl, head⟩, List.mem_singleton.1 member⟩
      · cases member
    · rintro ⟨run, rest, split, ⟨c, rfl, head⟩, rfl⟩
      obtain ⟨rfl, rfl⟩ := List.cons.inj split
      rw [if_pos head]
      exact List.mem_singleton_self _

theorem Spans.seq (first : Spans a A) (second : Spans b B) :
    Spans (seq a b) fun run => ∃ front back, run = front ++ back ∧ A front ∧ B back := by
  intro caps s r
  rw [readings, List.mem_flatMap]
  constructor
  · rintro ⟨between, before, after⟩
    obtain ⟨front, left, rfl, inFirst, rfl⟩ := (first _ _ _).1 before
    obtain ⟨back, rest, rfl, inSecond, rfl⟩ := (second _ _ _).1 after
    exact ⟨front ++ back, rest, by simp, ⟨front, back, rfl, inFirst, inSecond⟩, rfl⟩
  · rintro ⟨run, rest, rfl, ⟨front, back, rfl, inFirst, inSecond⟩, rfl⟩
    refine ⟨(caps, back ++ rest), (first _ _ _).2 ⟨front, back ++ rest, by simp, inFirst, rfl⟩, ?_⟩
    exact (second _ _ _).2 ⟨back, rest, rfl, inSecond, rfl⟩

theorem Spans.alt (left : Spans a A) (right : Spans b B) : Spans (alt a b) fun run => A run ∨ B run := by
  intro caps s r
  rw [readings, List.mem_append, left, right]
  constructor
  · rintro (⟨run, rest, split, inside, rfl⟩ | ⟨run, rest, split, inside, rfl⟩)
    · exact ⟨run, rest, split, .inl inside, rfl⟩
    · exact ⟨run, rest, split, .inr inside, rfl⟩
  · rintro ⟨run, rest, split, inside | inside, rfl⟩
    · exact .inl ⟨run, rest, split, inside, rfl⟩
    · exact .inr ⟨run, rest, split, inside, rfl⟩

theorem Spans.optional (spans : Spans a A) : Spans (optional a) fun run => A run ∨ run = [] :=
  spans.alt spans_empty

theorem spans_eager (p : Char → Bool) : Spans (eager p) fun run => ∀ c ∈ run, p c = true := by
  intro caps s r
  rw [readings, List.mem_map]
  simp only [List.mem_reverse, mem_ends_iff]
  constructor
  · rintro ⟨rest, ⟨run, split, inside⟩, rfl⟩
    exact ⟨run, rest, split, inside, rfl⟩
  · rintro ⟨run, rest, split, inside, rfl⟩
    exact ⟨rest, ⟨run, split, inside⟩, rfl⟩

theorem spans_reluctant (p : Char → Bool) : Spans (reluctant p) fun run => ∀ c ∈ run, p c = true := by
  intro caps s r
  rw [← spans_eager p caps s r, readings, readings, List.mem_map, List.mem_map]
  simp only [List.mem_reverse]

/-- The run of one character and more of a class. -/
theorem Spans.after_one {p : Char → Bool} (spans : Spans a fun run => ∀ c ∈ run, p c = true) :
    Spans (.seq (one p) a) (IsRun p) := by
  refine ((spans_one p).seq spans).congr fun run => ?_
  rw [isRun_iff_exists]
  constructor
  · rintro ⟨front, back, rfl, ⟨c, rfl, head⟩, tail⟩
    exact ⟨c, back, rfl, head, tail⟩
  · rintro ⟨c, rest, rfl, head, tail⟩
    exact ⟨[c], rest, rfl, ⟨c, rfl, head⟩, tail⟩

theorem spans_many (p : Char → Bool) : Spans (many p) (IsRun p) :=
  (spans_eager p).after_one

theorem spans_few (p : Char → Bool) : Spans (few p) (IsRun p) :=
  (spans_reluctant p).after_one

theorem spans_all_cons (first : Spans a A) {parts : List Pattern} (others : Spans (all parts) B) :
    Spans (all (a :: parts)) fun run => ∃ front back, run = front ++ back ∧ A front ∧ B back :=
  first.seq others

theorem Spans.last (spans : Spans a A) : Spans (all [a]) A := by
  refine (spans.seq spans_empty).congr fun run => ?_
  constructor
  · rintro ⟨front, back, rfl, inside, rfl⟩
    rwa [List.append_nil]
  · intro inside
    exact ⟨run, [], (List.append_nil run).symm, inside, rfl⟩

theorem spans_text (s : String) : Spans (text s) (· = s.toList) := by
  rw [text]
  induction s.toList with
  | nil => exact spans_empty
  | cons c chars ih =>
    refine (spans_all_cons (spans_one _) ih).congr fun run => ?_
    constructor
    · rintro ⟨front, back, rfl, ⟨d, rfl, same⟩, rfl⟩
      rw [beq_iff_eq.1 same, List.singleton_append]
    · rintro rfl
      exact ⟨[c], chars, rfl, ⟨c, rfl, beq_self_eq_true c⟩, rfl⟩

theorem spans_exactly (n : Nat) (p : Char → Bool) :
    Spans (exactly n p) fun run => run.length = n ∧ ∀ c ∈ run, p c = true := by
  rw [exactly]
  induction n with
  | zero =>
    refine spans_empty.congr fun run => ?_
    rw [List.length_eq_zero_iff]
    exact ⟨fun empty => ⟨empty, by simp [empty]⟩, And.left⟩
  | succ n ih =>
    rw [List.replicate_succ]
    refine (spans_all_cons (spans_one p) ih).congr fun run => ?_
    constructor
    · rintro ⟨front, back, rfl, ⟨c, rfl, head⟩, length, tail⟩
      exact ⟨by simpa using length, List.forall_mem_cons.2 ⟨head, tail⟩⟩
    · rintro ⟨length, inside⟩
      obtain ⟨c, rest, rfl⟩ := List.exists_cons_of_length_eq_add_one length
      obtain ⟨head, tail⟩ := List.forall_mem_cons.1 inside
      exact ⟨[c], rest, rfl, ⟨c, rfl, head⟩, by simpa using length, tail⟩

/-! ## Readings of a line -/

variable {caps : Captures} {s : List Char} {r : Captures × List Char}

theorem mem_readings_span (spans : Spans a A) : r ∈ (seq a b).readings (caps, s) ↔
    ∃ run rest, s = run ++ rest ∧ A run ∧ r ∈ b.readings (caps, rest) := by
  rw [readings, List.mem_flatMap]
  constructor
  · rintro ⟨between, before, after⟩
    obtain ⟨run, rest, split, inside, rfl⟩ := (spans _ _ _).1 before
    exact ⟨run, rest, split, inside, after⟩
  · rintro ⟨run, rest, split, inside, after⟩
    exact ⟨(caps, rest), (spans _ _ _).2 ⟨run, rest, split, inside, rfl⟩, after⟩

theorem mem_readings_group (spans : Spans a A) {n : Nat} : r ∈ (seq (group n a) b).readings (caps, s) ↔
    ∃ run rest, s = run ++ rest ∧ A run ∧ r ∈ b.readings (caps.keep n run rest, rest) := by
  rw [readings, List.mem_flatMap, readings_group]
  simp only [List.mem_map]
  constructor
  · rintro ⟨-, ⟨between, before, rfl⟩, after⟩
    obtain ⟨run, rest, rfl, inside, rfl⟩ := (spans _ _ _).1 before
    exact ⟨run, rest, rfl, inside, after⟩
  · rintro ⟨run, rest, rfl, inside, after⟩
    exact ⟨_, ⟨_, (spans _ _ _).2 ⟨run, rest, rfl, inside, rfl⟩, rfl⟩, after⟩

theorem mem_readings_optional : r ∈ (seq (optional a) b).readings (caps, s) ↔
    r ∈ (seq a b).readings (caps, s) ∨ r ∈ b.readings (caps, s) := by
  simp [optional, readings]

theorem readings_seq_assoc (a b c : Pattern) (x : Captures × List Char) :
    (seq (seq a b) c).readings x = (seq a (seq b c)).readings x := by
  simp only [readings, List.flatMap_assoc]

theorem mem_readings_end : r ∈ (seq atEnd empty).readings (caps, s) ↔ s = [] ∧ r = (caps, []) := by
  cases s <;> simp [readings]

/-! ## Preferred readings -/

/-- The preferred reading gives a value if all readings give one that fits, there is a reading whenever a
value fits, and no two values fit. -/
theorem map_match?_eq_some_iff {α : Type} {give : Captures → α} (Fits : α → Prop)
    (sound : ∀ r ∈ a.readings ([(.opening 0, s)], s), Fits (give ((.closing 0, r.2) :: r.1)))
    (complete : ∀ x, Fits x → ∃ r, r ∈ a.readings ([(.opening 0, s)], s))
    (unique : ∀ x y, Fits x → Fits y → x = y) {x : α} :
    (a.match? s).map give = some x ↔ Fits x := by
  rw [match?_eq_head?, Option.map_map, Option.map_eq_some_iff]
  constructor
  · rintro ⟨r, first, rfl⟩
    exact sound r (List.mem_of_mem_head? first)
  · intro fits
    obtain ⟨r, member⟩ := complete x fits
    obtain ⟨first, rest, readings⟩ := List.exists_cons_of_ne_nil (List.ne_nil_of_mem member)
    refine ⟨first, by rw [readings, List.head?_cons], unique _ _ (sound first ?_) fits⟩
    rw [readings]
    exact List.mem_cons_self

/-- Longer runs of a class come later. -/
theorem pairwise_ends (p : Char → Bool) (s : List Char) :
    (ends p s).Pairwise fun rest rest' => rest'.length < rest.length := by
  induction s with
  | nil => exact List.pairwise_singleton _ _
  | cons c s ih =>
    rw [ends, List.pairwise_cons]
    constructor
    · intro rest member
      split at member
      · have shorter := (suffix_of_mem_ends member).length_le
        rw [List.length_cons]
        omega
      · cases member
    · split
      · exact ih
      · exact .nil

/-- A reluctant group in front takes the shortest run after which the rest can be read. -/
theorem shortest_of_head? {n : Nat} {p : Char → Bool}
    (first : ((seq (group n (few p)) b).readings (caps, s)).head? = some r) :
    ∃ run rest, s = run ++ rest ∧ IsRun p run ∧ r ∈ b.readings (caps.keep n run rest, rest) ∧
      ∀ run' rest', s = run' ++ rest' → IsRun p run' →
        b.readings (caps.keep n run' rest', rest') ≠ [] → run.length ≤ run'.length := by
  cases s with
  | nil => simp [few, readings_group, readings] at first
  | cons c s =>
    by_cases head : p c = true
    · have kept : (group n (few p)).readings (caps, c :: s) = (ends p s).map fun rest =>
          ((.closing n, rest) :: (.opening n, c :: s) :: caps, rest) := by
        simp [few, readings_group, readings, head]
      rw [readings, kept, List.flatMap_map, List.head?_flatMap, List.findSome?_eq_some_iff] at first
      obtain ⟨before, rest, after, split, found, unread⟩ := first
      have member : rest ∈ ends p s := by simp [split]
      obtain ⟨run, rfl, inside⟩ := mem_ends_iff.1 member
      refine ⟨c :: run, rest, rfl, isRun_iff_exists.2 ⟨c, run, rfl, head, inside⟩,
        List.mem_of_mem_head? found, ?_⟩
      intro run' rest' split' isRun' read
      obtain ⟨d, run', rfl, -, inside'⟩ := isRun_iff_exists.1 isRun'
      obtain ⟨rfl, same⟩ : c = d ∧ run ++ rest = run' ++ rest' := List.cons.inj split'
      -- The longest rests come first: what was passed over goes with shorter runs, and cannot be read on.
      have shorter : rest'.length ≤ rest.length := by
        have member' : rest' ∈ ends p (run ++ rest) := mem_ends_iff.2 ⟨run', same, inside'⟩
        have ordered := pairwise_ends p (run ++ rest)
        rw [split] at member' ordered
        rcases List.mem_append.1 member' with early | late
        · rw [Captures.keep, ← split'] at read
          exact absurd (List.head?_eq_none_iff.1 (unread rest' early)) read
        · obtain rfl | later := List.mem_cons.1 late
          · exact Nat.le_refl _
          · have tail := (List.pairwise_append.1 ordered).2.1
            exact Nat.le_of_lt ((List.pairwise_cons.1 tail).1 rest' later)
      have lengths := congrArg List.length same
      simp only [List.length_append] at lengths
      simp only [List.length_cons]
      omega
    · simp [few, readings_group, readings, head] at first

end Pattern

end ItemAppraisal.Text
