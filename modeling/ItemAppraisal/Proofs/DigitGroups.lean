import ItemAppraisal.Proofs.IntegerDoubles
import ItemAppraisal.Proofs.PatternReadings
import ItemAppraisal.Proofs.Trimming

/-!
# Groups of digits

The same digits may be written plainly or in groups of three with marks between them. Commas and apostrophes
are dropped, and points are recognised as marks of groups (`isPointGrouped_grouped`), so each way of writing
gives the same quantity up to the end of the range. Beyond it a number with points alone is zero. Main
statement: `Quantity.read_grouped`.
-/

namespace ItemAppraisal

/-! ## Digits -/

theorem Text.isBlank_of_isDigit {c : Char} (digit : c.isDigit = true) : Text.isBlank c = false := by
  rw [← Bool.not_eq_true]
  intro blank
  have other := Text.forall_isBlank (Q := fun d => d.isDigit = false) (by decide +kernel) blank
  rw [digit] at other
  cases other

theorem isDigit_of_natural? {numeral : List Char} {n : Nat} (spelled : Decimal.natural? numeral = some n) :
    Text.IsRun Char.isDigit numeral := by
  obtain ⟨filled, digits, -⟩ := Decimal.natural?_eq_some_iff.1 spelled
  exact ⟨filled, digits⟩

namespace Quantity

theorem not_isDroppedSeparator_of_isDigit {c : Char} (digit : c.isDigit = true) :
    isDroppedSeparator c = false := by
  rw [← Bool.not_eq_true, isDroppedSeparator, Bool.or_eq_true, beq_iff_eq, beq_iff_eq]
  rintro (rfl | rfl) <;> cases digit

theorem ne_point_of_isDigit {c : Char} (digit : c.isDigit = true) : (c == '.') = false := by
  rw [beq_eq_false_iff_ne]
  rintro rfl
  cases digit

theorem splitSign_of_isDigit {row : List Char} (digits : ∀ c ∈ row, c.isDigit = true) :
    Decimal.splitSign row = (false, row) := by
  unfold Decimal.splitSign
  split
  · have minus := digits '-' List.mem_cons_self
    cases minus
  · have plus := digits '+' List.mem_cons_self
    cases plus
  · rfl

theorem integer?_of_natural? {numeral : List Char} {n : Nat} (spelled : Decimal.natural? numeral = some n) :
    Decimal.integer? numeral = some (n : Int) := by
  simp [Decimal.integer?, splitSign_of_isDigit (isDigit_of_natural? spelled).2, spelled]

theorem readPlain_of_natural? {numeral : List Char} {n : Nat}
    (spelled : Decimal.natural? numeral = some n) : readPlain numeral = min (n : Int) greatest := by
  rw [readPlain_eq, integer?_of_natural? spelled]
  simp only [saturate, least, greatest]
  omega

/-! ## Writing in groups -/

/-- Digits with a mark in front of every group of three that follows another. -/
def grouped (mark : List Char) : List Char → List Char
  | [] => []
  | c :: rest =>
    if rest.length % 3 = 0 ∧ rest ≠ [] then c :: (mark ++ grouped mark rest) else c :: grouped mark rest

/-- The commas in a displayed amount are the marks of its groups. -/
theorem groupThousands_eq_grouped (row : List Char) : Amount.groupThousands row = grouped [','] row := by
  induction row with
  | nil => rfl
  | cons c rest ih =>
    rw [Amount.groupThousands, grouped, ih]
    rfl

theorem grouped_short (mark : List Char) {row : List Char} (short : row.length ≤ 3) :
    grouped mark row = row := by
  induction row with
  | nil => rfl
  | cons c rest ih =>
    rw [List.length_cons] at short
    have inside : ¬(rest.length % 3 = 0 ∧ rest ≠ []) := by
      rintro ⟨border, filled⟩
      have some := List.length_pos_iff.2 filled
      omega
    rw [grouped, if_neg inside, ih (by omega)]

theorem mem_grouped {mark row : List Char} {c : Char} (member : c ∈ grouped mark row) :
    c ∈ mark ∨ c ∈ row := by
  induction row with
  | nil => cases member
  | cons d rest ih =>
    rw [grouped] at member
    split at member <;> simp only [List.mem_cons, List.mem_append] at member ⊢
    · rcases member with own | inMark | later
      · exact .inr (.inl own)
      · exact .inl inMark
      · exact (ih later).imp_right .inr
    · rcases member with own | later
      · exact .inr (.inl own)
      · exact (ih later).imp_right .inr

/-- Marks that are dropped leave the digits. -/
theorem filter_grouped {p : Char → Bool} {mark row : List Char} (dropped : ∀ c ∈ mark, p c = false)
    (kept : ∀ c ∈ row, p c = true) : (grouped mark row).filter p = row := by
  have gone : mark.filter p = [] := List.filter_eq_nil_iff.2 fun c member => by simp [dropped c member]
  induction row with
  | nil => rfl
  | cons c rest ih =>
    obtain ⟨head, tail⟩ := List.forall_mem_cons.1 kept
    rw [grouped]
    split
    · rw [List.filter_cons_of_pos head, List.filter_append, gone, List.nil_append, ih tail]
    · rw [List.filter_cons_of_pos head, ih tail]

/-- The first character of digits in groups is their first one, and so is the last. -/
theorem endsKept_grouped {p : Char → Bool} {mark row : List Char} (kept : ∀ c ∈ row, p c = false) :
    Text.EndsKept p (grouped mark row) := by
  induction row with
  | nil => exact ⟨by simp [grouped], by simp [grouped]⟩
  | cons c rest ih =>
    obtain ⟨head, tail⟩ := List.forall_mem_cons.1 kept
    have last := (ih tail).2
    rw [grouped]
    constructor
    · intro d first
      split at first <;> obtain rfl := Option.some.inj first <;> exact head
    · intro d back
      cases rest with
      | nil =>
        simp only [List.length_nil, Nat.zero_mod, ne_eq, not_true, and_false, if_false] at back
        obtain rfl := Option.some.inj back
        exact head
      | cons e rest =>
        have filled : grouped mark (e :: rest) ≠ [] := by
          rw [grouped]
          split <;> simp
        split at back
        · rw [List.getLast?_cons_of_ne_nil (by simp [filled]), List.getLast?_append_of_ne_nil _ filled] at back
          exact last d back
        · rw [List.getLast?_cons_of_ne_nil filled] at back
          exact last d back

/-! ## The groups -/

/-- Pieces that are groups: one to three characters in the first piece and three in every other. -/
structure AreGroups (first : List Char) (others : List (List Char)) (size : Nat) : Prop where
  front : first.length = (size - 1) % 3 + 1
  threes : ∀ piece ∈ others, piece.length = 3
  several : others = [] ↔ size ≤ 3

theorem exists_groups (mark : List Char) {row : List Char} (filled : row ≠ []) :
    ∃ first others, AreGroups first others row.length ∧ row = (first :: others).flatten ∧
      grouped mark row = mark.intercalate (first :: others) := by
  induction row with
  | nil => exact absurd rfl filled
  | cons c rest ih =>
    by_cases empty : rest = []
    · subst empty
      refine ⟨[c], [], ⟨rfl, by simp, by simp⟩, rfl, ?_⟩
      rw [grouped, if_neg (by simp), grouped, List.intercalate_singleton]
    · obtain ⟨first, others, groups, joined, marked⟩ := ih empty
      have some : 0 < rest.length := List.length_pos_iff.2 empty
      have front := groups.front
      have several := groups.several
      by_cases border : rest.length % 3 = 0
      · refine ⟨[c], first :: others, ⟨?_, ?_, ?_⟩, ?_, ?_⟩
        · simp only [List.length_cons, List.length_nil]
          omega
        · refine List.forall_mem_cons.2 ⟨?_, groups.threes⟩
          omega
        · simp only [List.length_cons, reduceCtorEq, false_iff]
          omega
        · rw [joined]
          rfl
        · rw [grouped, if_pos ⟨border, empty⟩, marked, List.intercalate_cons_cons, List.append_assoc]
          rfl
      · refine ⟨c :: first, others, ⟨?_, groups.threes, ?_⟩, ?_, ?_⟩
        · simp only [List.length_cons]
          omega
        · rw [several, List.length_cons]
          omega
        · rw [joined]
          rfl
        · rw [grouped, if_neg (by simp [border]), marked]
          cases others with
          | nil => rw [List.intercalate_singleton, List.intercalate_singleton]
          | cons second more => rw [List.intercalate_cons_cons, List.intercalate_cons_cons]; rfl

/-! ## Points -/

theorem splitAt_grouped {row : List Char} (digits : ∀ c ∈ row, c.isDigit = true) (filled : row ≠ []) :
    ∃ first others, Text.splitAt (· == '.') (grouped ['.'] row) = first :: others ∧
      AreGroups first others row.length := by
  obtain ⟨first, others, groups, joined, marked⟩ := exists_groups ['.'] filled
  have unmarked : ∀ piece ∈ first :: others, ∀ c ∈ piece, (c == '.') = false := fun piece member c inside =>
    ne_point_of_isDigit (digits c (joined ▸ List.mem_flatten.2 ⟨piece, member, inside⟩))
  exact ⟨first, others, marked ▸ Text.splitAt_intercalate rfl unmarked, groups⟩

/-- Points between groups are recognised as such as soon as there is one. -/
theorem isPointGrouped_grouped {row : List Char} (digits : ∀ c ∈ row, c.isDigit = true) (filled : row ≠ []) :
    isPointGrouped (grouped ['.'] row) = decide (3 < row.length) := by
  obtain ⟨first, others, pieces, groups⟩ := splitAt_grouped digits filled
  have inside : ∀ piece ∈ first :: others, piece.all Text.isDigit = true := by
    intro piece member
    refine List.all_eq_true.2 fun c inPiece => ?_
    rw [← pieces] at member
    have known : ∀ d ∈ grouped ['.'] row, (d == '.') = true ∨ Text.isDigit d = true := fun d inText =>
      (mem_grouped inText).imp (by simp) fun own => Text.isDigit_of_ascii (digits d own)
    exact Text.forall_mem_splitAt_iff.2 known piece member c inPiece
  obtain ⟨front, later⟩ := List.forall_mem_cons.1 inside
  rw [isPointGrouped, pieces]
  cases others with
  | nil =>
    have few := groups.several.1 rfl
    simp only [Bool.false_eq, decide_eq_false_iff_not]
    omega
  | cons second more =>
    have many : 3 < row.length := by
      have several := groups.several
      simp only [reduceCtorEq, false_iff] at several
      omega
    have size := groups.front
    have threes : (second :: more).all (isGroup (· == 3)) = true := by
      refine List.all_eq_true.2 fun piece member => ?_
      rw [isGroup, groups.threes piece member, later piece member]
      rfl
    have short : isGroup (fun n => 1 ≤ n && n ≤ 3) first = true := by
      rw [isGroup, front, size]
      simp
      omega
    simp [short, threes, many]

/-! ## Reading -/

/-- A way of writing the digits of a number. -/
inductive Grouping where
  | plain
  | comma
  | apostrophe
  | point
  deriving DecidableEq

/-- What stands between two groups. -/
def Grouping.mark : Grouping → List Char
  | plain => []
  | comma => [',']
  | apostrophe => [Char.ofNat 39]
  | point => ['.']

theorem Grouping.dropped_of_mem_mark {g : Grouping} (other : g ≠ .point) {c : Char} (member : c ∈ g.mark) :
    isDroppedSeparator c = true := by
  cases g with
  | plain => cases member
  | comma => exact List.mem_singleton.1 member ▸ rfl
  | apostrophe => exact List.mem_singleton.1 member ▸ rfl
  | point => exact absurd rfl other

theorem isPointGrouped_of_digits {row : List Char} (digits : ∀ c ∈ row, c.isDigit = true) :
    isPointGrouped row = false := by
  rw [isPointGrouped, Text.splitAt_of_unmarked fun c member => ne_point_of_isDigit (digits c member)]

theorem read_padded {before token after : List Char} (front : ∀ c ∈ before, Text.isBlank c = true)
    (back : ∀ c ∈ after, Text.isBlank c = true) (kept : Text.EndsKept Text.isBlank token) :
    read (before ++ (token ++ after)) =
      let s := token.filter (!isDroppedSeparator ·)
      if isPointGrouped s then readGroups s else readPlain s := by
  have trimmed : Text.trimBy Text.isBlank (before ++ (token ++ after)) = token := by
    rw [Text.trimBy_append front back, Text.trimBy_eq_self_iff.2 kept]
  rw [read, trimmed]

/-- What is a numeral once its marks are dropped is read as its number, or as the end of the range. -/
theorem read_of_filter {numeral before token after : List Char} {n : Nat}
    (spelled : Decimal.natural? numeral = some n) (front : ∀ c ∈ before, Text.isBlank c = true)
    (back : ∀ c ∈ after, Text.isBlank c = true) (kept : Text.EndsKept Text.isBlank token)
    (left : token.filter (!isDroppedSeparator ·) = numeral) :
    read (before ++ (token ++ after)) = min (n : Int) greatest := by
  have plain := isPointGrouped_of_digits (isDigit_of_natural? spelled).2
  simp [read_padded front back kept, left, plain, readPlain_of_natural? spelled]

/-- A numeral without separators is read as its number. -/
theorem read_of_natural? {numeral : List Char} {n : Nat} (spelled : Decimal.natural? numeral = some n)
    (small : (n : Int) ≤ greatest) : read numeral = n := by
  have digits := (isDigit_of_natural? spelled).2
  have kept : Text.EndsKept Text.isBlank numeral := by
    constructor
    · intro c first
      exact Text.isBlank_of_isDigit (digits c (List.mem_of_mem_head? first))
    · intro c last
      exact Text.isBlank_of_isDigit (digits c (List.mem_of_getLast? last))
  have left : numeral.filter (!isDroppedSeparator ·) = numeral :=
    List.filter_eq_self.2 fun c member => by simp [not_isDroppedSeparator_of_isDigit (digits c member)]
  have whole : read ([] ++ (numeral ++ [])) = min (n : Int) greatest :=
    read_of_filter spelled (by simp) (by simp) kept left
  rw [List.nil_append, List.append_nil] at whole
  omega

/-- A point is no digit, so a numeral in groups with points is no integer until they are taken out. -/
theorem readGroups_grouped {numeral : List Char} {n : Nat} (spelled : Decimal.natural? numeral = some n) :
    readGroups (grouped ['.'] numeral) = if greatest < n then 0 else (n : Int) := by
  have digits := (isDigit_of_natural? spelled).2
  have joined : (grouped ['.'] numeral).filter (· != '.') = numeral :=
    filter_grouped (by simp) fun c member => by simp [bne, ne_point_of_isDigit (digits c member)]
  have inRange : InRange (n : Int) ↔ ¬greatest < n := by
    simp only [InRange, least]
    omega
  rw [readGroups, joined, integer?, integer?_of_natural? spelled]
  by_cases large : greatest < (n : Int)
  · simp [Option.filter, inRange, large]
  · simp [Option.filter, inRange, large]

theorem value_lt {row : List Char} (digits : ∀ c ∈ row, c.isDigit = true) :
    Decimal.value row < 10 ^ row.length := by
  induction row using List.reverseRecOn with
  | nil => decide
  | append_singleton row c ih =>
    have digit := digits c (by simp)
    simp only [Char.isDigit, Bool.and_eq_true, decide_eq_true_eq] at digit
    have high : c.toNat ≤ 57 := digit.2
    have shorter := ih fun d member => digits d (by simp [member])
    have value : Decimal.value (row ++ [c]) = 10 * Decimal.value row + (c.toNat - 48) := by
      rw [Decimal.value, List.foldl_append]
      rfl
    rw [value, List.length_append, List.length_singleton, Nat.pow_succ]
    omega

theorem le_greatest_of_short {numeral : List Char} {n : Nat} (spelled : Decimal.natural? numeral = some n)
    (short : numeral.length ≤ 3) : (n : Int) ≤ greatest := by
  obtain ⟨-, digits, rfl⟩ := Decimal.natural?_eq_some_iff.1 spelled
  have few : Decimal.value numeral < 10 ^ 3 :=
    Nat.lt_of_lt_of_le (value_lt digits) (Nat.pow_le_pow_right (by decide) short)
  rw [greatest]
  omega

/-- Digits in groups, with any white space around them, are read as their number, or the end of the range
beyond it, however the groups are marked; only a number with points is zero beyond the range. -/
theorem read_grouped (g : Grouping) {numeral before after : List Char} {n : Nat}
    (spelled : Decimal.natural? numeral = some n) (front : ∀ c ∈ before, Text.isBlank c = true)
    (back : ∀ c ∈ after, Text.isBlank c = true) :
    read (before ++ (grouped g.mark numeral ++ after)) =
      if g = .point ∧ greatest < n then 0 else min (n : Int) greatest := by
  obtain ⟨filled, digits⟩ := isDigit_of_natural? spelled
  have ends : Text.EndsKept Text.isBlank (grouped g.mark numeral) :=
    endsKept_grouped fun c member => Text.isBlank_of_isDigit (digits c member)
  have ordinary : ∀ c ∈ numeral, (!isDroppedSeparator c) = true := fun c member => by
    simp [not_isDroppedSeparator_of_isDigit (digits c member)]
  by_cases points : g = .point
  · subst points
    have kept : (grouped ['.'] numeral).filter (!isDroppedSeparator ·) = grouped ['.'] numeral := by
      refine List.filter_eq_self.2 fun c member => ?_
      rcases mem_grouped member with inMark | own
      · obtain rfl := List.mem_singleton.1 inMark
        rfl
      · exact ordinary c own
    rw [read_padded front back ends]
    simp only [Grouping.mark, kept, isPointGrouped_grouped digits filled, true_and]
    by_cases several : 3 < numeral.length
    · rw [if_pos (by simpa using several), readGroups_grouped spelled]
      split <;> omega
    · have short : numeral.length ≤ 3 := Nat.le_of_not_lt several
      have small := le_greatest_of_short spelled short
      rw [if_neg (by simpa using several), grouped_short _ short, readPlain_of_natural? spelled]
      split <;> omega
  · have kept : (grouped g.mark numeral).filter (!isDroppedSeparator ·) = numeral :=
      filter_grouped (fun c member => by simp [Grouping.dropped_of_mem_mark points member]) ordinary
    rw [if_neg (by simp [points])]
    exact read_of_filter spelled front back ends kept

theorem read_grouped_of_millions :
    grouped Grouping.point.mark "1234567".toList = "1.234.567".toList ∧
      ∀ g : Grouping, read ([' '] ++ (grouped g.mark "1234567".toList ++ ['\t'])) = 1234567 := by
  constructor
  · decide
  · intro g
    have spelled : Decimal.natural? "1234567".toList = some 1234567 := by decide
    rw [read_grouped g spelled (List.all_eq_true.1 (by decide)) (List.all_eq_true.1 (by decide))]
    cases g <;> decide

/-- The first number beyond the range is the end of the range with commas and zero with points. -/
theorem read_grouped_differs :
    read (grouped Grouping.comma.mark (Decimal.digits 9223372036854775808)) = greatest ∧
      read (grouped Grouping.point.mark (Decimal.digits 9223372036854775808)) = 0 := by
  decide +kernel

end Quantity

end ItemAppraisal
