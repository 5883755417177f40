/-!
# Patterns

The shapes a line may have, as data, with every reading of a shape in the order of preference: an
alternative prefers its left side, an eager repetition the longest run and a reluctant one the shortest.
Main statement: where the readings of a shape end does not depend on what groups kept before
(`map_snd_readings`).
-/

namespace ItemAppraisal.Text

/-! ## Groups -/

/-- A place that a group marks. -/
inductive Mark where
  | opening (n : Nat)
  | closing (n : Nat)
  deriving DecidableEq, Repr

/-- What follows each marked place, the place that was passed last first. -/
abbrev Captures := List (Mark × List Char)

namespace Captures

/-- The text a group kept last, `none` if the reading did not pass through it. -/
def get? (caps : Captures) (n : Nat) : Option (List Char) := do
  let start ← caps.lookup (.opening n)
  let stop ← caps.lookup (.closing n)
  return start.take (start.length - stop.length)

/-- The text a group kept last, empty if there is none. -/
def get (caps : Captures) (n : Nat) : List Char :=
  (caps.get? n).getD []

/-- The same as a string. -/
def text (caps : Captures) (n : Nat) : String :=
  String.ofList (caps.get n)

theorem get?_closing_opening (caps : Captures) (n : Nat) (s rest : List Char) :
    get? ((.closing n, rest) :: (.opening n, s ++ rest) :: caps) n = some s := by
  have h : (Mark.opening n == Mark.closing n) = false := rfl
  simp [get?, List.lookup_cons, h]

end Captures

/-! ## Shapes -/

/-- A shape of text. -/
inductive Pattern where
  /-- The empty text. -/
  | empty
  /-- One character of a class. -/
  | one (p : Char → Bool)
  /-- One shape after the other. -/
  | seq (a b : Pattern)
  /-- Either shape, the left one if both fit. -/
  | alt (a b : Pattern)
  /-- Any number of characters of a class, as many as possible. -/
  | eager (p : Char → Bool)
  /-- Any number of characters of a class, as few as possible. -/
  | reluctant (p : Char → Bool)
  /-- The empty text at a place that is marked. -/
  | mark (m : Mark)
  /-- The end of the text. -/
  | atEnd

namespace Pattern

/-- A shape whose text is kept under a number. -/
def group (n : Nat) (a : Pattern) : Pattern :=
  seq (mark (.opening n)) (seq a (mark (.closing n)))

/-- One shape after the other, in the order of the list. -/
def all (parts : List Pattern) : Pattern :=
  parts.foldr seq empty

/-- A shape that may be missing. -/
def optional (a : Pattern) : Pattern :=
  alt a empty

/-- A given text. -/
def text (s : String) : Pattern :=
  all (s.toList.map fun c => one (· == c))

/-- One or more characters of a class, as many as possible. -/
def many (p : Char → Bool) : Pattern :=
  seq (one p) (eager p)

/-- One or more characters of a class, as few as possible. -/
def few (p : Char → Bool) : Pattern :=
  seq (one p) (reluctant p)

/-- A given number of characters of a class. -/
def exactly (n : Nat) (p : Char → Bool) : Pattern :=
  all (List.replicate n (one p))

/-- The highest number of a group, 0 if there is none. -/
def groupCount : Pattern → Nat
  | seq a b | alt a b => max a.groupCount b.groupCount
  | mark (.opening n) => n
  | _ => 0

/-! ## Readings -/

/-- What may follow a run of characters of a class, the shortest run first. -/
def ends (p : Char → Bool) : List Char → List (List Char)
  | [] => [[]]
  | c :: rest => (c :: rest) :: if p c then ends p rest else []

/-- Every way to read a shape at the front of a text, the preferred one first: what the groups kept
and what follows. -/
def readings : Pattern → Captures × List Char → List (Captures × List Char)
  | empty, r => [r]
  | one _, (_, []) => []
  | one p, (caps, c :: rest) => if p c then [(caps, rest)] else []
  | seq a b, r => (a.readings r).flatMap b.readings
  | alt a b, r => a.readings r ++ b.readings r
  | eager p, (caps, s) => (ends p s).reverse.map (caps, ·)
  | reluctant p, (caps, s) => (ends p s).map (caps, ·)
  | mark m, (caps, s) => [((m, s) :: caps, s)]
  | atEnd, (caps, s) => if s.isEmpty then [(caps, s)] else []

theorem readings_group (n : Nat) (a : Pattern) (caps : Captures) (s : List Char) :
    (group n a).readings (caps, s) =
      (a.readings ((.opening n, s) :: caps, s)).map fun r => ((.closing n, r.2) :: r.1, r.2) := by
  simp only [group, readings, List.flatMap_cons, List.flatMap_nil, List.append_nil]
  rw [List.map_eq_flatMap]

theorem mem_ends_self (p : Char → Bool) (s : List Char) : s ∈ ends p s := by
  cases s <;> simp [ends]

theorem suffix_of_mem_ends {p : Char → Bool} {s rest : List Char} (h : rest ∈ ends p s) :
    rest <:+ s := by
  induction s with
  | nil => simp_all [ends]
  | cons c s ih =>
    by_cases hc : p c <;> simp only [ends, hc, ↓reduceIte, Bool.false_eq_true, List.mem_cons,
      List.not_mem_nil, or_false] at h
    · rcases h with rfl | h
      · exact List.suffix_refl _
      · exact (ih h).trans (List.suffix_cons c s)
    · subst h
      exact List.suffix_refl _

/-- The readings of a shape end at the same places whatever the groups kept before. -/
theorem map_snd_readings (a : Pattern) (caps caps' : Captures) (s : List Char) :
    (a.readings (caps, s)).map (·.2) = (a.readings (caps', s)).map (·.2) := by
  induction a generalizing caps caps' s with
  | one p => cases s <;> simp only [readings, List.map_nil]; split <;> rfl
  | seq a b iha ihb =>
    have same : ∀ l l' : List (Captures × List Char), l.map (·.2) = l'.map (·.2) →
        (l.flatMap b.readings).map (·.2) = (l'.flatMap b.readings).map (·.2) := by
      intro l l' h
      induction l generalizing l' with
      | nil => cases l' with
        | nil => rfl
        | cons r l' => simp at h
      | cons r l ih => cases l' with
        | nil => simp at h
        | cons r' l' =>
          obtain ⟨caps, s⟩ := r
          obtain ⟨caps', s'⟩ := r'
          simp only [List.map_cons, List.cons.injEq] at h
          obtain ⟨rfl, h⟩ := h
          simp only [List.flatMap_cons, List.map_append, ihb caps caps', ih l' h]
    exact same _ _ (iha caps caps' s)
  | alt a b iha ihb => simp only [readings, List.map_append, iha caps caps', ihb caps caps']
  | eager p => simp [readings, Function.comp_def]
  | reluctant p => simp [readings, Function.comp_def]
  | atEnd => simp only [readings]; split <;> rfl
  | _ => rfl

end Pattern

end ItemAppraisal.Text
