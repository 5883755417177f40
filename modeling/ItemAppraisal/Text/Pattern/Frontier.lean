import ItemAppraisal.Text.Pattern
import Std.Data.HashSet

/-!
# Reading with a pattern

The readings under way are kept as a list, the preferred one first. A pattern takes the whole list a
step on, and of the readings that stand at one place it follows the first alone: what comes later can
only fail where that one failed. So the work grows with the text and not with the number of readings.
Main statements: `match?` answers with the first of all readings (`match?_eq_head?`), and `search?` does so
at the leftmost place that has one (`search?_eq_findSome?`).
-/

namespace ItemAppraisal.Text.Pattern

/-- A reading under way: what its groups kept and what follows, with the number of characters that
follow. -/
structure Branch where
  caps : Captures
  rest : List Char
  left : Nat

namespace Branch

/-- A reading that starts with a text. -/
def start (s : List Char) : Branch :=
  ⟨[], s, s.length⟩

/-- The reading itself. -/
def reading (b : Branch) : Captures × List Char :=
  (b.caps, b.rest)

/-- The branch after one character of a class. -/
def step? (p : Char → Bool) (b : Branch) : Option Branch :=
  match b.rest with
  | [] => none
  | c :: rest => if p c then some ⟨b.caps, rest, b.left - 1⟩ else none

end Branch

/-- Places in a text, by the number of characters that follow. -/
abbrev Places := Std.HashSet Nat

/-- Notes the places of branches. -/
def note (seen : Places) (branches : List Branch) : Places :=
  branches.foldl (fun seen b => seen.insert b.left) seen

/-- Takes branches on one after the other, each with the places that earlier ones led to. `done` holds
what they became so far, the last one first. -/
def sweep (next : Places → Branch → List Branch) (seen : Places) (done : List Branch) :
    List Branch → List Branch
  | [] => done.reverse
  | b :: rest =>
    let found := next seen b
    sweep next (if rest.isEmpty then seen else note seen found) (found.reverseAux done) rest

/-- A branch unless an earlier one stands at its place. -/
def unlessSeen (seen : Places) (b : Branch) : List Branch :=
  if seen.contains b.left then [] else [b]

/-- The branches after runs of a class, up to the first place that is known: an earlier run led there and
on. The longest run comes first; `found` holds those that are longer still. -/
def runs (p : Char → Bool) (seen : Places) (caps : Captures) (found : List Branch) :
    List Char → Nat → List Branch
  | [], left => if seen.contains left then found else ⟨caps, [], left⟩ :: found
  | c :: rest, left =>
    if seen.contains left then found
    else if p c then runs p seen caps (⟨caps, c :: rest, left⟩ :: found) rest (left - 1)
    else ⟨caps, c :: rest, left⟩ :: found

/-- Takes branches through a pattern, the preferred ones first, and of those that end at one place
perhaps the first alone. -/
def advance : Pattern → List Branch → List Branch
  | empty, bs => bs
  | one p, bs => bs.filterMap (·.step? p)
  | seq a b, bs => b.advance (a.advance bs)
  | alt a b, bs => sweep unlessSeen ∅ [] (bs.flatMap fun x => a.advance [x] ++ b.advance [x])
  | eager p, bs => sweep (fun seen b => runs p seen b.caps [] b.rest b.left) ∅ [] bs
  | reluctant p, bs => sweep (fun seen b => (runs p seen b.caps [] b.rest b.left).reverse) ∅ [] bs
  | mark m, bs => bs.map fun b => ⟨(m, b.rest) :: b.caps, b.rest, b.left⟩
  | atEnd, bs => bs.filter (·.rest.isEmpty)

/-- What the groups of the preferred reading at the front of a text keep. -/
def first? (a : Pattern) (s : List Char) : Option Captures :=
  (a.advance [.start s]).head?.map (·.caps)

/-- What the groups of the preferred reading at the front of the text keep; group 0 is the reading as a
whole. -/
def match? (a : Pattern) (s : List Char) : Option Captures :=
  (group 0 a).first? s

/-- The same for the leftmost place in the text where the shape can be read. -/
def search? (a : Pattern) (s : List Char) : Option Captures :=
  (seq (reluctant fun _ => true) (group 0 a)).first? s

/-- Whether the shape can be read at the front of the text. -/
def fits (a : Pattern) (s : List Char) : Bool :=
  (a.match? s).isSome

/-! ## Places -/

/-- A branch stands in a text where it says. -/
def Placed (text : List Char) (b : Branch) : Prop :=
  b.left = b.rest.length ∧ b.rest <:+ text

theorem eq_of_suffix {text s s' : List Char} (h : s <:+ text) (h' : s' <:+ text)
    (hl : s.length = s'.length) : s = s' :=
  (List.suffix_of_suffix_length_le h h' (Nat.le_of_eq hl)).eq_of_length hl

theorem contains_note (seen : Places) (bs : List Branch) (n : Nat) :
    (note seen bs).contains n = (seen.contains n || bs.any (·.left == n)) := by
  induction bs generalizing seen with
  | nil => simp [note]
  | cons b bs ih =>
    rw [note, List.foldl_cons, ← note, ih]
    simp only [Std.HashSet.contains_insert, List.any_cons]
    cases seen.contains n <;> simp

section Answers
variable {α : Type}

/-- Whether an answer is given depends on the place alone. -/
def Uniform (k : Captures × List Char → Option α) : Prop :=
  ∀ caps caps' s, k (caps, s) = none → k (caps', s) = none

/-- At the places that are known there is no answer. -/
def Dead (text : List Char) (seen : Places) (k : Captures × List Char → Option α) : Prop :=
  ∀ s, s <:+ text → seen.contains s.length = true → ∀ caps, k (caps, s) = none

theorem findSome?_flatMap {β γ : Type} (l : List β) (f : β → List γ) (k : γ → Option α) :
    (l.flatMap f).findSome? k = l.findSome? fun x => (f x).findSome? k := by
  induction l with
  | nil => rfl
  | cons x l ih =>
    rw [List.flatMap_cons, List.findSome?_append, List.findSome?_cons, ih]
    cases (f x).findSome? k <;> rfl

theorem findSome?_filterMap {β γ : Type} (l : List β) (f : β → Option γ) (k : γ → Option α) :
    (l.filterMap f).findSome? k = l.findSome? fun x => (f x).bind k := by
  induction l with
  | nil => rfl
  | cons x l ih => cases h : f x <;> simp [List.findSome?_cons, h, ih]

theorem findSome?_filter {β : Type} (l : List β) (p : β → Bool) (k : β → Option α) :
    (l.filter p).findSome? k = l.findSome? fun x => if p x then k x else none := by
  induction l with
  | nil => rfl
  | cons x l ih => by_cases h : p x <;> simp [List.findSome?_cons, h, ih]

theorem findSome?_congr {β : Type} {l : List β} {f g : β → Option α} (h : ∀ x ∈ l, f x = g x) :
    l.findSome? f = l.findSome? g := by
  induction l with
  | nil => rfl
  | cons x l ih =>
    rw [List.findSome?_cons, List.findSome?_cons, h x List.mem_cons_self,
      ih fun y hy => h y (List.mem_cons_of_mem _ hy)]

theorem findSome?_one {β : Type} (x : β) (k : β → Option α) : [x].findSome? k = k x := by
  rw [List.findSome?_cons]
  cases k x <;> rfl

theorem findSome?_eq_none_congr {k : Captures × List Char → Option α} (hk : Uniform k)
    {l l' : List (Captures × List Char)} (h : l.map (·.2) = l'.map (·.2))
    (hl : l.findSome? k = none) : l'.findSome? k = none := by
  rw [List.findSome?_eq_none_iff] at hl ⊢
  rintro ⟨caps', s⟩ hr
  obtain ⟨⟨caps, _⟩, hm, rfl⟩ := List.mem_map.1 (h ▸ List.mem_map_of_mem hr)
  exact hk caps caps' _ (hl _ hm)

theorem uniform_readings (a : Pattern) {k : Captures × List Char → Option α} (hk : Uniform k) :
    Uniform fun r => (a.readings r).findSome? k :=
  fun caps caps' s => findSome?_eq_none_congr hk (map_snd_readings a caps caps' s)

theorem dead_empty (text : List Char) (k : Captures × List Char → Option α) : Dead text ∅ k := by
  intro s _ h
  simp at h

theorem dead_note {text : List Char} {seen : Places} {found : List Branch}
    {k : Captures × List Char → Option α} (hk : Uniform k) (hd : Dead text seen k)
    (hp : ∀ b ∈ found, Placed text b) (hf : (found.findSome? fun b => k b.reading) = none) :
    Dead text (note seen found) k := by
  intro s hs h caps
  rw [contains_note, Bool.or_eq_true, List.any_eq_true] at h
  rcases h with h | ⟨b, hb, h⟩
  · exact hd s hs h caps
  · obtain ⟨hl, hr⟩ := hp b hb
    have : b.rest = s := eq_of_suffix hr hs (by rw [← hl]; simpa using h)
    exact hk b.caps caps s (this ▸ List.findSome?_eq_none_iff.1 hf b hb)

end Answers

/-! ## Sweeps -/

/-- `next` takes a branch on as `f` takes its reading on, save for branches at known places. What it needs
to know of those is `Known`. -/
structure Sound (text : List Char) (Known : Places → Prop) (next : Places → Branch → List Branch)
    (f : Captures × List Char → List (Captures × List Char)) : Prop where
  placed : ∀ seen b, Placed text b → ∀ x ∈ next seen b, Placed text x
  known : ∀ seen b, Known seen → Placed text b → Known (note seen (next seen b))
  same : ∀ (α : Type) (k : Captures × List Char → Option α) seen b, Known seen → Placed text b →
    Dead text seen k → ((next seen b).findSome? fun x => k x.reading) = (f b.reading).findSome? k

theorem sweep_eq_append (next : Places → Branch → List Branch) (seen : Places)
    (done bs : List Branch) : sweep next seen done bs = done.reverse ++ sweep next seen [] bs := by
  induction bs generalizing seen done with
  | nil => simp [sweep]
  | cons b bs ih =>
    rw [sweep, ih, sweep, ih _ ((next seen b).reverseAux [])]
    simp [List.reverseAux_eq]

theorem sweep_cons (next : Places → Branch → List Branch) (seen : Places) (b : Branch)
    (bs : List Branch) :
    sweep next seen [] (b :: bs) = next seen b ++ sweep next (note seen (next seen b)) [] bs := by
  rw [sweep, sweep_eq_append]
  cases bs <;> simp [List.reverseAux_eq, sweep]

namespace Sound
variable {text : List Char} {Known : Places → Prop} {next : Places → Branch → List Branch}
  {f : Captures × List Char → List (Captures × List Char)}

theorem placed_sweep (h : Sound text Known next f) {bs : List Branch} {seen : Places}
    (hp : ∀ b ∈ bs, Placed text b) : ∀ b ∈ sweep next seen [] bs, Placed text b := by
  induction bs generalizing seen with
  | nil => simp [sweep]
  | cons b bs ih =>
    intro x hx
    rw [sweep_cons, List.mem_append] at hx
    rcases hx with hx | hx
    · exact h.placed seen b (hp b List.mem_cons_self) x hx
    · exact ih (fun b hb => hp b (List.mem_cons_of_mem _ hb)) x hx

theorem findSome?_sweep (h : Sound text Known next f) {α : Type}
    {k : Captures × List Char → Option α} (hk : Uniform k) {bs : List Branch} {seen : Places}
    (hs : Known seen) (hd : Dead text seen k) (hp : ∀ b ∈ bs, Placed text b) :
    ((sweep next seen [] bs).findSome? fun b => k b.reading) =
      bs.findSome? fun b => (f b.reading).findSome? k := by
  induction bs generalizing seen with
  | nil => simp [sweep]
  | cons b bs ih =>
    have hb := hp b List.mem_cons_self
    have same := h.same α k seen b hs hb hd
    rw [sweep_cons, List.findSome?_append, List.findSome?_cons, same]
    cases hf : (f b.reading).findSome? k with
    | some x => rfl
    | none =>
      exact ih (h.known seen b hs hb) (dead_note hk hd (h.placed seen b hb) (same.trans hf))
        fun b hb => hp b (List.mem_cons_of_mem _ hb)

end Sound

theorem sound_unlessSeen (text : List Char) :
    Sound text (fun _ => True) unlessSeen fun r => [r] where
  placed seen b hb x hx := by
    simp only [unlessSeen] at hx
    split at hx <;> simp_all
  known _ _ _ _ := trivial
  same α k seen b _ hb hd := by
    simp only [unlessSeen]
    split
    · have hl : seen.contains b.rest.length = true := by rwa [← hb.1]
      simp [Branch.reading, hd b.rest hb.2 hl b.caps]
    · simp

/-! ## Runs -/

/-- A branch at a place of a text. -/
def Branch.at (caps : Captures) (s : List Char) : Branch :=
  ⟨caps, s, s.length⟩

/-- From a known place on, every place that a run of the class leads to is known. -/
def Closed (p : Char → Bool) (text : List Char) (seen : Places) : Prop :=
  ∀ c s, c :: s <:+ text → p c = true → seen.contains (c :: s).length = true →
    seen.contains s.length = true

/-- The ends of the runs from a place on, up to the first known one. -/
def fresh (p : Char → Bool) (seen : Places) (s : List Char) : List (List Char) :=
  (ends p s).takeWhile fun e => !seen.contains e.length

theorem runs_eq (p : Char → Bool) (seen : Places) (caps : Captures) (found : List Branch)
    (s : List Char) :
    runs p seen caps found s s.length = ((fresh p seen s).map (.at caps)).reverse ++ found := by
  induction s generalizing found with
  | nil =>
    by_cases h : seen.contains 0 = true <;> simp [runs, fresh, ends, Branch.at, h]
  | cons c s ih =>
    by_cases h : seen.contains (s.length + 1) = true <;> by_cases hc : p c = true <;>
      simp [runs, fresh, ends, Branch.at, h, hc, ih]

theorem contains_of_mem_ends {p : Char → Bool} {text : List Char} {seen : Places}
    (hc : Closed p text seen) {s e : List Char} (hs : s <:+ text)
    (hk : seen.contains s.length = true) (he : e ∈ ends p s) : seen.contains e.length = true := by
  induction s with
  | nil => simp_all [ends]
  | cons c s ih =>
    rw [ends, List.mem_cons] at he
    rcases he with rfl | he
    · exact hk
    · split at he
      · exact ih ((List.suffix_cons c s).trans hs) (hc c s hs ‹_› hk) he
      · simp at he

/-- Past the first known place every end of a run is known. -/
theorem ends_eq_fresh_append {p : Char → Bool} {text : List Char} {seen : Places}
    (hc : Closed p text seen) {s : List Char} (hs : s <:+ text) :
    ∃ known, ends p s = fresh p seen s ++ known ∧ ∀ e ∈ known, seen.contains e.length = true := by
  induction s with
  | nil =>
    by_cases h : seen.contains 0 = true
    · exact ⟨[[]], by simp [fresh, ends, h], by simpa using h⟩
    · exact ⟨[], by simp [fresh, ends, h], by simp⟩
  | cons c s ih =>
    by_cases h : seen.contains (c :: s).length = true
    · refine ⟨ends p (c :: s), ?_, fun e => contains_of_mem_ends hc hs h⟩
      simp only [fresh, ends, List.takeWhile_cons, h, Bool.not_true, Bool.false_eq_true, ↓reduceIte,
        List.nil_append]
    · obtain ⟨known, he, hk⟩ := ih ((List.suffix_cons c s).trans hs)
      refine ⟨if p c then known else [], ?_, fun e he => hk e ?_⟩
      · simp only [fresh, ends, List.takeWhile_cons, h, Bool.not_false, ↓reduceIte]
        split
        · simpa [fresh] using he
        · rfl
      · split at he <;> simp_all

theorem mem_ends_tail {p : Char → Bool} {s rest : List Char} {c : Char} (hc : p c = true)
    (h : c :: rest ∈ ends p s) : rest ∈ ends p s := by
  induction s with
  | nil => simp [ends] at h
  | cons d s ih =>
    rw [ends, List.mem_cons] at h ⊢
    rcases h with h | h
    · cases h
      simp [hc, mem_ends_self]
    · split at h
      · exact Or.inr (by simp [*])
      · simp at h

theorem closed_empty (p : Char → Bool) (text : List Char) : Closed p text ∅ := by
  intro c s _ _ h
  simp at h

theorem placed_at {text : List Char} {caps : Captures} {s : List Char} (h : s <:+ text) :
    Placed text (.at caps s) :=
  ⟨rfl, h⟩

theorem mem_fresh {p : Char → Bool} {seen : Places} {s e : List Char} (h : e ∈ fresh p seen s) :
    e ∈ ends p s :=
  (List.takeWhile_prefix _).subset h

theorem closed_note {p : Char → Bool} {text : List Char} {seen : Places}
    (hc : Closed p text seen) {caps : Captures} {s : List Char} (hs : s <:+ text)
    {found : List Branch} (hf : ∀ b, b ∈ found ↔ b ∈ (fresh p seen s).map (.at caps)) :
    Closed p text (note seen found) := by
  obtain ⟨known, hends, hknown⟩ := ends_eq_fresh_append hc hs
  intro c rest hr hp h
  rw [contains_note, Bool.or_eq_true, List.any_eq_true] at h ⊢
  rcases h with h | ⟨b, hb, h⟩
  · exact Or.inl (hc c rest hr hp h)
  · obtain ⟨e, he, rfl⟩ := List.mem_map.1 ((hf b).1 hb)
    have hl : e.length = (c :: rest).length := by simpa [Branch.at] using h
    have : e = c :: rest := eq_of_suffix ((suffix_of_mem_ends (mem_fresh he)).trans hs) hr hl
    subst this
    have hm := mem_ends_tail hp (mem_fresh he)
    rw [hends, List.mem_append] at hm
    rcases hm with hm | hm
    · exact Or.inr ⟨_, (hf _).2 (List.mem_map_of_mem hm), by simp [Branch.at]⟩
    · exact Or.inl (hknown _ hm)

/-- The branches after runs of a class do for all readings of the runs, in either order. -/
theorem sound_runs (p : Char → Bool) (text : List Char) :
    Sound text (Closed p text) (fun seen b => runs p seen b.caps [] b.rest b.left)
      (eager p).readings ∧
    Sound text (Closed p text) (fun seen b => (runs p seen b.caps [] b.rest b.left).reverse)
      (reluctant p).readings := by
  have hruns (seen : Places) {b : Branch} (hb : Placed text b) :
      runs p seen b.caps [] b.rest b.left = ((fresh p seen b.rest).map (.at b.caps)).reverse := by
    rw [hb.1, runs_eq, List.append_nil]
  have hplaced (seen : Places) {b : Branch} (hb : Placed text b) {x : Branch}
      (hx : x ∈ (fresh p seen b.rest).map (.at b.caps)) : Placed text x := by
    obtain ⟨e, he, rfl⟩ := List.mem_map.1 hx
    exact placed_at ((suffix_of_mem_ends (mem_fresh he)).trans hb.2)
  have hdead {α : Type} {k : Captures × List Char → Option α} {seen : Places} {b : Branch}
      {known : List (List Char)} (hb : Placed text b) (hd : Dead text seen k)
      (hends : ends p b.rest = fresh p seen b.rest ++ known)
      (hknown : ∀ e ∈ known, seen.contains e.length = true) :
      ∀ e ∈ known, k (b.caps, e) = none := fun e he =>
    hd e ((suffix_of_mem_ends (hends ▸ List.mem_append_right _ he)).trans hb.2) (hknown e he) b.caps
  refine ⟨⟨fun seen b hb x hx => ?_, fun seen b hc hb => ?_, fun α k seen b hc hb hd => ?_⟩,
    ⟨fun seen b hb x hx => ?_, fun seen b hc hb => ?_, fun α k seen b hc hb hd => ?_⟩⟩
  · rw [hruns seen hb, List.mem_reverse] at hx
    exact hplaced seen hb hx
  · rw [hruns seen hb]
    exact closed_note hc hb.2 fun x => List.mem_reverse
  · obtain ⟨known, hends, hknown⟩ := ends_eq_fresh_append hc hb.2
    have hnone := hdead hb hd hends hknown
    have hold : (known.reverse.findSome? fun e => k (b.caps, e)) = none := by
      rw [List.findSome?_eq_none_iff]
      exact fun e he => hnone e (List.mem_reverse.1 he)
    simp only [hruns seen hb, readings, Branch.reading, hends, List.reverse_append, List.map_append,
      List.findSome?_append, ← List.map_reverse, List.findSome?_map, Function.comp_def, hold,
      Option.none_or, Branch.at]
  · rw [hruns seen hb, List.reverse_reverse] at hx
    exact hplaced seen hb hx
  · rw [hruns seen hb, List.reverse_reverse]
    exact closed_note hc hb.2 fun x => Iff.rfl
  · obtain ⟨known, hends, hknown⟩ := ends_eq_fresh_append hc hb.2
    have hnone := hdead hb hd hends hknown
    have hold : (known.findSome? fun e => k (b.caps, e)) = none :=
      List.findSome?_eq_none_iff.2 hnone
    simp only [hruns seen hb, readings, Branch.reading, hends, List.reverse_reverse, List.map_append,
      List.findSome?_append, List.findSome?_map, Function.comp_def, hold, Option.or_none, Branch.at]

/-! ## The first reading -/

theorem placed_step? {text : List Char} {p : Char → Bool} {b x : Branch} (hb : Placed text b)
    (hx : b.step? p = some x) : Placed text x := by
  obtain ⟨hl, hr⟩ := hb
  simp only [Branch.step?] at hx
  split at hx
  · simp at hx
  · rename_i c rest h
    split at hx
    · cases hx
      rw [h] at hl hr
      exact ⟨by simp [hl], (List.suffix_cons c rest).trans hr⟩
    · simp at hx

theorem placed_advance (a : Pattern) {text : List Char} {bs : List Branch}
    (hp : ∀ b ∈ bs, Placed text b) : ∀ b ∈ a.advance bs, Placed text b := by
  induction a generalizing bs with
  | empty => exact hp
  | one p =>
    intro x hx
    obtain ⟨b, hb, hx⟩ := List.mem_filterMap.1 hx
    exact placed_step? (hp b hb) hx
  | seq a b iha ihb => exact ihb (iha hp)
  | alt a b iha ihb =>
    refine (sound_unlessSeen text).placed_sweep fun x hx => ?_
    obtain ⟨y, hy, hx⟩ := List.mem_flatMap.1 hx
    have hone : ∀ b ∈ [y], Placed text b := by simpa using hp y hy
    rcases List.mem_append.1 hx with hx | hx
    · exact iha hone x hx
    · exact ihb hone x hx
  | eager p => exact (sound_runs p text).1.placed_sweep hp
  | reluctant p => exact (sound_runs p text).2.placed_sweep hp
  | mark m =>
    intro x hx
    obtain ⟨b, hb, rfl⟩ := List.mem_map.1 hx
    exact hp b hb
  | atEnd => exact fun x hx => hp x (List.mem_filter.1 hx).1

/-- An answer that depends on the place alone is the same for the branches that a pattern leaves as for
all its readings. -/
theorem findSome?_advance (a : Pattern) {text : List Char} {α : Type}
    {k : Captures × List Char → Option α} (hk : Uniform k) {bs : List Branch}
    (hp : ∀ b ∈ bs, Placed text b) :
    ((a.advance bs).findSome? fun b => k b.reading) =
      bs.findSome? fun b => (a.readings b.reading).findSome? k := by
  induction a generalizing bs k with
  | empty => simp only [advance, readings, findSome?_one]
  | one p =>
    rw [advance, findSome?_filterMap]
    congr 1
    funext b
    obtain ⟨caps, rest, left⟩ := b
    cases rest with
    | nil => rfl
    | cons c rest =>
      by_cases hc : p c = true <;>
        simp [Branch.step?, Branch.reading, readings, hc, List.findSome?_cons]
      cases k (caps, rest) <;> rfl
  | seq a b iha ihb =>
    simp only [advance, readings, findSome?_flatMap]
    rw [ihb hk (placed_advance a hp), iha (uniform_readings b hk) hp]
  | alt a b iha ihb =>
    have hq : ∀ x ∈ bs.flatMap fun x => a.advance [x] ++ b.advance [x], Placed text x := by
      intro x hx
      obtain ⟨y, hy, hx⟩ := List.mem_flatMap.1 hx
      have hone : ∀ b ∈ [y], Placed text b := by simpa using hp y hy
      rcases List.mem_append.1 hx with hx | hx
      · exact placed_advance a hone x hx
      · exact placed_advance b hone x hx
    rw [advance, (sound_unlessSeen text).findSome?_sweep hk trivial (dead_empty text k) hq]
    simp only [findSome?_one, findSome?_flatMap, List.findSome?_append, readings]
    exact findSome?_congr fun x hx => by
      have hone : ∀ b ∈ [x], Placed text b := by simpa using hp x hx
      rw [iha hk hone, ihb hk hone, findSome?_one, findSome?_one]
  | eager p =>
    exact (sound_runs p text).1.findSome?_sweep hk (closed_empty p text) (dead_empty text k) hp
  | reluctant p =>
    exact (sound_runs p text).2.findSome?_sweep hk (closed_empty p text) (dead_empty text k) hp
  | mark m =>
    simp only [advance, readings, List.findSome?_map, Function.comp_def, Branch.reading,
      findSome?_one]
  | atEnd =>
    rw [advance, findSome?_filter]
    congr 1
    funext b
    obtain ⟨caps, rest, left⟩ := b
    cases rest with
    | nil => simp only [List.isEmpty_nil, ↓reduceIte, readings, Branch.reading, findSome?_one]
    | cons c rest => rfl

theorem map_head? {β γ : Type} (l : List β) (f : β → γ) :
    l.head?.map f = l.findSome? fun x => some (f x) := by
  cases l <;> rfl

/-- The answer is the first of all readings. -/
theorem first?_eq_head? (a : Pattern) (s : List Char) :
    a.first? s = (a.readings ([], s)).head?.map (·.1) := by
  have hk : Uniform fun r : Captures × List Char => some r.1 := fun _ _ _ h => by simp at h
  have hp : ∀ b ∈ [Branch.start s], Placed s b := by
    intro b hb
    rw [List.mem_singleton.1 hb]
    exact placed_at (List.suffix_refl s)
  have := findSome?_advance a hk hp
  rw [findSome?_one] at this
  rw [first?, map_head?, map_head?]
  exact this

/-- What `match?` keeps is what the first of all readings of the shape keeps, and the whole text of it. -/
theorem match?_eq_head? (a : Pattern) (s : List Char) :
    a.match? s = (a.readings ([(.opening 0, s)], s)).head?.map fun r => (.closing 0, r.2) :: r.1 := by
  rw [match?, first?_eq_head?, readings_group, List.head?_map, Option.map_map]
  rfl

/-- The places where runs of any characters end are all places of a text from left to right. -/
theorem search?_eq_findSome? (a : Pattern) (s : List Char) :
    a.search? s = (ends (fun _ => true) s).findSome? a.match? := by
  simp only [search?, first?_eq_head?, map_head?, readings, findSome?_flatMap, List.findSome?_map]
  congr 1
  funext e
  rw [match?, first?_eq_head?, map_head?]
  rfl

theorem fits_iff (a : Pattern) (s : List Char) : a.fits s = true ↔ a.readings ([], s) ≠ [] := by
  have h := map_snd_readings a [(.opening 0, s)] [] s
  rw [fits, match?_eq_head?]
  cases ha : a.readings ([(.opening 0, s)], s) <;> cases hb : a.readings ([], s) <;> simp_all

theorem fits_eq_false_iff (a : Pattern) (s : List Char) : a.fits s = false ↔ a.readings ([], s) = [] := by
  rw [← Bool.not_eq_true, fits_iff, Decidable.not_not]

end ItemAppraisal.Text.Pattern
