import ItemAppraisal.Proofs.PatternReadings
import Mathlib.Logic.Function.Basic

/-!
# Patterns of columns

A line falls into columns at its tabs. The patterns of such lines are put together column by column: each
column is of a kind whose runs hold no tab (`ReadsKind`), and what the groups keep of a line is then a
relation on its columns (`ReadsColumns`), to which every column adds one step (`ReadsColumns.column`). Main
statement: if every reading gives what the columns say, the preferred one gives it exactly when the columns
are as they should be (`ReadsColumns.map_match?_eq_some_iff`).
-/

namespace ItemAppraisal

open Text (Pattern IsRun Captures)
open Text.Pattern

/-! ## Columns -/

/-- The columns of a line, given without padding. -/
def columnsOf (s : List Char) : List (List Char) :=
  Text.splitAt (· == '\t') s

section Columns
variable {s column first second : List Char}

theorem columnsOf_eq_singleton_iff : columnsOf s = [column] ↔ s = column ∧ '\t' ∉ column := by
  rw [columnsOf, Text.splitAt_eq_singleton_iff]
  refine and_congr_right fun _ => ?_
  simp [List.forall_mem_ne']

theorem columnsOf_eq_cons_cons_iff {more : List (List Char)} :
    columnsOf s = first :: second :: more ↔
      ∃ rest, s = first ++ '\t' :: rest ∧ '\t' ∉ first ∧ columnsOf rest = second :: more := by
  rw [columnsOf, Text.splitAt_eq_cons_cons_iff]
  simp [List.forall_mem_ne', columnsOf]

theorem columnsOf_eq_cons_iff {more : List (List Char)} (some : more ≠ []) : columnsOf s = first :: more ↔
    ∃ rest, s = first ++ '\t' :: rest ∧ '\t' ∉ first ∧ columnsOf rest = more := by
  obtain ⟨second, more, rfl⟩ := List.exists_cons_of_ne_nil some
  exact columnsOf_eq_cons_cons_iff

theorem columnsOf_of_untabbed (untabbed : '\t' ∉ column) : columnsOf column = [column] :=
  columnsOf_eq_singleton_iff.2 ⟨rfl, untabbed⟩

theorem columnsOf_append_tab (untabbed : '\t' ∉ column) (rest : List Char) :
    columnsOf (column ++ '\t' :: rest) = column :: columnsOf rest := by
  have parted := Text.splitAt_append_cons (p := (· == '\t')) (c := '\t') rfl column rest
  rw [columnsOf, parted, ← columnsOf, ← columnsOf, columnsOf_of_untabbed untabbed, List.singleton_append]

theorem columnsOf_ne_nil (s : List Char) : columnsOf s ≠ [] :=
  Text.splitAt_ne_nil _ s

/-- A line is its first column and the others, each with the tab in front of it. -/
theorem eq_append_of_columnsOf {more : List (List Char)}
    (split : columnsOf s = column :: more) : s = column ++ more.flatMap ('\t' :: ·) := by
  induction more generalizing s column with
  | nil => simpa using (columnsOf_eq_singleton_iff.1 split).1
  | cons second more ih =>
    obtain ⟨rest, rfl, -, later⟩ := columnsOf_eq_cons_cons_iff.1 split
    rw [ih later, List.flatMap_cons, List.cons_append]

theorem columnsOf_append_flatMap {more : List (List Char)} (untabbed : '\t' ∉ column)
    (others : ∀ column ∈ more, '\t' ∉ column) :
    columnsOf (column ++ more.flatMap ('\t' :: ·)) = column :: more := by
  induction more generalizing column with
  | nil => simpa using columnsOf_of_untabbed untabbed
  | cons second more ih =>
    obtain ⟨head, tail⟩ := List.forall_mem_cons.1 others
    rw [List.flatMap_cons, List.cons_append, columnsOf_append_tab untabbed, ih head tail]

end Columns

/-! ## Kinds of columns -/

open Format (isVisible isNumeric)

/-- A pattern reads the columns of a kind, and these hold no tab. -/
structure ReadsKind (a : Pattern) (A : List Char → Prop) : Prop where
  spans : Spans a A
  untabbed : ∀ column, A column → '\t' ∉ column

section Kinds
variable {column : List Char}

theorem untabbed_of_class {p : Char → Bool} (other : p '\t' = false) (inside : ∀ c ∈ column, p c = true) :
    '\t' ∉ column := by
  intro member
  rw [inside _ member] at other
  cases other

theorem readsKind_many {p : Char → Bool} (other : p '\t' = false) : ReadsKind (.many p) (IsRun p) where
  spans := spans_many p
  untabbed _ inside := untabbed_of_class other inside.2

theorem readsKind_eager {p : Char → Bool} (other : p '\t' = false) :
    ReadsKind (.eager p) fun column => ∀ c ∈ column, p c = true where
  spans := spans_eager p
  untabbed _ inside := untabbed_of_class other inside

theorem readsKind_text : ReadsKind (.eager isVisible) fun column => ∀ c ∈ column, isVisible c = true :=
  readsKind_eager (by decide)

theorem readsKind_visible : ReadsKind Format.visible (IsRun isVisible) :=
  readsKind_many (by decide)

theorem readsKind_number : ReadsKind Format.number (IsRun isNumeric) :=
  readsKind_many (by decide)

/-- A column of a number and a unit. -/
def IsAmount (unit : String) (number column : List Char) : Prop :=
  IsRun isNumeric number ∧ column = number ++ unit.toList

/-- A unit stands behind one number only. -/
theorem IsAmount.unique {unit : String} {number number' : List Char} (amount : IsAmount unit number column)
    (amount' : IsAmount unit number' column) : number = number' :=
  List.append_cancel_right (amount.2.symm.trans amount'.2)

theorem readsKind_amount (unit : String) (untabbed : '\t' ∉ unit.toList) :
    ReadsKind (.all [Format.number, .text unit]) fun column => ∃ number, IsAmount unit number column where
  spans := by
    refine (spans_all_cons (spans_many isNumeric) (spans_text unit).last).congr fun column => ?_
    constructor
    · rintro ⟨number, -, rfl, isNumber, rfl⟩
      exact ⟨number, isNumber, rfl⟩
    · rintro ⟨number, isNumber, rfl⟩
      exact ⟨number, _, rfl, isNumber, rfl⟩
  untabbed := by
    rintro column ⟨number, isNumber, rfl⟩
    simp [readsKind_number.untabbed _ isNumber, untabbed]

/-- A number, perhaps with a minus in front. -/
def IsSigned (number column : List Char) : Prop :=
  IsRun isNumeric number ∧ (column = number ∨ column = '-' :: number)

theorem readsKind_signed :
    ReadsKind Format.signedNumber fun column => ∃ number, IsSigned number column where
  spans := by
    have whole := spans_all_cons (spans_one (· == '-')).optional (spans_many isNumeric).last
    refine whole.congr fun column => ?_
    constructor
    · rintro ⟨-, number, rfl, ⟨c, rfl, minus⟩ | rfl, isNumber⟩
      · exact ⟨number, isNumber, .inr (by rw [beq_iff_eq.1 minus]; rfl)⟩
      · exact ⟨number, isNumber, .inl rfl⟩
    · rintro ⟨number, isNumber, rfl | rfl⟩
      · exact ⟨[], _, rfl, .inr rfl, isNumber⟩
      · exact ⟨['-'], _, rfl, .inl ⟨'-', rfl, rfl⟩, isNumber⟩
  untabbed := by
    rintro column ⟨number, isNumber, rfl | rfl⟩
    · exact readsKind_number.untabbed _ isNumber
    · simp [readsKind_number.untabbed _ isNumber]

/-- Without its minus the column is the number. -/
theorem dropWhile_minus {number : List Char} (signed : IsSigned number column) :
    column.dropWhile (· == '-') = number := by
  obtain ⟨isNumber, sign⟩ := signed
  have bare : number.dropWhile (· == '-') = number := by
    obtain ⟨c, rest, rfl, numeric, -⟩ := Text.isRun_iff_exists.1 isNumber
    have other : c ≠ '-' := by
      rintro rfl
      revert numeric
      decide
    simp [other]
  obtain rfl | rfl := sign
  · exact bare
  · simpa using bare

/-- A given number of digits. -/
def IsDigits (n : Nat) (run : List Char) : Prop :=
  run.length = n ∧ ∀ c ∈ run, Text.isDigit c = true

theorem readsKind_digits (n : Nat) : ReadsKind (Format.digits n) (IsDigits n) where
  spans := spans_exactly n _
  untabbed _ digits := untabbed_of_class (by decide) digits.2

/-- A date such as `2024.05.01`. -/
def IsDate (column : List Char) : Prop :=
  ∃ year month day, column = year ++ '.' :: (month ++ '.' :: day) ∧ IsDigits 4 year ∧ IsDigits 2 month ∧
    IsDigits 2 day

theorem readsKind_date : ReadsKind Format.date IsDate where
  spans := by
    have digits (n : Nat) := (readsKind_digits n).spans
    have point := spans_text "."
    have whole := spans_all_cons (digits 4)
      (spans_all_cons point (spans_all_cons (digits 2) (spans_all_cons point (digits 2).last)))
    refine whole.congr fun column => ?_
    constructor
    · rintro ⟨year, -, rfl, ofYear, -, -, rfl, rfl, month, -, rfl, ofMonth, -, day, rfl, rfl, ofDay⟩
      exact ⟨year, month, day, rfl, ofYear, ofMonth, ofDay⟩
    · rintro ⟨year, month, day, rfl, ofYear, ofMonth, ofDay⟩
      exact ⟨year, _, rfl, ofYear, _, _, rfl, rfl, month, _, rfl, ofMonth, _, day, rfl, rfl, ofDay⟩
  untabbed := by
    rintro column ⟨year, month, day, rfl, ofYear, ofMonth, ofDay⟩
    have untabbed {n : Nat} {run : List Char} := (readsKind_digits n).untabbed run
    simp [untabbed ofYear, untabbed ofMonth, untabbed ofDay]

/-- A date and a time of day, with or without seconds. -/
def IsDateTime (column : List Char) : Prop :=
  ∃ date hour minute seconds, column = date ++ ' ' :: (hour ++ ':' :: (minute ++ seconds)) ∧
    IsDate date ∧ IsDigits 2 hour ∧ IsDigits 2 minute ∧
    (seconds = [] ∨ ∃ second, seconds = ':' :: second ∧ IsDigits 2 second)

theorem readsKind_dateTime : ReadsKind Format.dateTime IsDateTime where
  spans := by
    have digits := (readsKind_digits 2).spans
    have colon := spans_text ":"
    have seconds := (spans_all_cons colon digits.last).optional
    have whole := spans_all_cons readsKind_date.spans (spans_all_cons (spans_text " ")
      (spans_all_cons digits (spans_all_cons colon (spans_all_cons digits seconds.last))))
    refine whole.congr fun column => ?_
    constructor
    · rintro ⟨date, -, rfl, ofDate, -, -, rfl, rfl, hour, -, rfl, ofHour, -, -, rfl, rfl, minute, seconds,
        rfl, ofMinute, ofSeconds⟩
      refine ⟨date, hour, minute, seconds, rfl, ofDate, ofHour, ofMinute, ?_⟩
      obtain ⟨-, second, rfl, rfl, ofSecond⟩ | rfl := ofSeconds
      · exact .inr ⟨second, rfl, ofSecond⟩
      · exact .inl rfl
    · rintro ⟨date, hour, minute, seconds, rfl, ofDate, ofHour, ofMinute, ofSeconds⟩
      refine ⟨date, _, rfl, ofDate, _, _, rfl, rfl, hour, _, rfl, ofHour, _, _, rfl, rfl, minute, seconds,
        rfl, ofMinute, ?_⟩
      obtain rfl | ⟨second, rfl, ofSecond⟩ := ofSeconds
      · exact .inr rfl
      · exact .inl ⟨_, second, rfl, rfl, ofSecond⟩
  untabbed := by
    rintro column ⟨date, hour, minute, seconds, rfl, ofDate, ofHour, ofMinute, ofSeconds⟩
    have untabbed {run : List Char} := (readsKind_digits 2).untabbed run
    have ofEnd : '\t' ∉ seconds := by
      obtain rfl | ⟨second, rfl, ofSecond⟩ := ofSeconds
      · exact List.not_mem_nil
      · simp [untabbed ofSecond]
    simp [readsKind_date.untabbed _ ofDate, untabbed ofHour, untabbed ofMinute, ofEnd]

/-- A distance: a number and one of three units. -/
def IsDistance (column : List Char) : Prop :=
  ∃ number unit, column = number ++ ' ' :: unit ∧ IsRun isNumeric number ∧
    (unit = "m".toList ∨ unit = "km".toList ∨ unit = "AU".toList)

theorem readsKind_distance : ReadsKind Format.distance IsDistance where
  spans := by
    have unit := (spans_text "m").alt ((spans_text "km").alt (spans_text "AU"))
    have whole := spans_all_cons (spans_many isNumeric) (spans_all_cons (spans_text " ") unit.last)
    refine whole.congr fun column => ?_
    constructor
    · rintro ⟨number, -, rfl, isNumber, -, unit, rfl, rfl, isUnit⟩
      exact ⟨number, unit, rfl, isNumber, isUnit⟩
    · rintro ⟨number, unit, rfl, isNumber, isUnit⟩
      exact ⟨number, _, rfl, isNumber, _, unit, rfl, rfl, isUnit⟩
  untabbed := by
    rintro column ⟨number, unit, rfl, isNumber, isUnit⟩
    have untabbed : '\t' ∉ unit := by
      rcases isUnit with rfl | rfl | rfl <;> decide
    simp [readsKind_number.untabbed _ isNumber, untabbed]

/-- One of a list of texts. -/
theorem readsKind_oneOf {texts : List String} (untabbed : ∀ text ∈ texts, '\t' ∉ text.toList) :
    ReadsKind ((texts.map Pattern.text).foldr .alt (.one fun _ => false))
      fun column => ∃ text ∈ texts, column = text.toList where
  spans := by
    clear untabbed
    induction texts with
    | nil => exact (spans_one _).congr fun column => by simp
    | cons text texts ih => exact ((spans_text text).alt ih).congr fun column => by simp
  untabbed := by
    rintro column ⟨text, member, rfl⟩
    exact untabbed text member

end Kinds

/-! ## Patterns of columns -/

/-- What groups kept. -/
abbrev Fields := Nat → Option (List Char)

/-- A pattern reads all of a text if and only if its columns are related to what groups kept before and
keep then. -/
def ReadsColumns (b : Pattern) (R : Fields → List (List Char) → Fields → Prop) : Prop :=
  ∀ caps s fields, (∃ r ∈ b.readings (caps, s), Captures.get? r.1 = fields) ↔
    R (Captures.get? caps) (columnsOf s) fields

section Patterns
variable {a b b' c : Pattern} {A : List Char → Prop} {R R' : Fields → List (List Char) → Fields → Prop}

theorem get?_keep_eq_update (n : Nat) (run rest : List Char) (caps : Captures) :
    Captures.get? (caps.keep n run rest) = Function.update (Captures.get? caps) n (some run) := by
  funext m
  rw [Captures.get?_keep, Function.update_apply]

/-- A last column that is kept. -/
theorem readsColumns_last (n : Nat) (kind : ReadsKind a A) :
    ReadsColumns (.seq (.group n a) (.seq .atEnd .empty)) fun fields columns fields' =>
      ∃ column, columns = [column] ∧ A column ∧ fields' = Function.update fields n (some column) := by
  intro caps s fields
  simp only [mem_readings_group kind.spans, mem_readings_end]
  constructor
  · rintro ⟨-, ⟨column, -, rfl, inside, rfl, rfl⟩, rfl⟩
    rw [List.append_nil]
    exact ⟨column, columnsOf_of_untabbed (kind.untabbed _ inside), inside,
      get?_keep_eq_update n column _ caps⟩
  · rintro ⟨column, single, inside, rfl⟩
    obtain ⟨rfl, -⟩ := columnsOf_eq_singleton_iff.1 single
    exact ⟨_, ⟨s, [], (List.append_nil s).symm, inside, rfl, rfl⟩, get?_keep_eq_update n s _ caps⟩

/-- A last column that is kept without its unit. -/
theorem readsColumns_last_unit (n : Nat) (unit : String) (kind : ReadsKind a A)
    (untabbed : '\t' ∉ unit.toList) :
    ReadsColumns (.seq (.group n a) (.seq (.text unit) (.seq .atEnd .empty)))
      fun fields columns fields' => ∃ kept, columns = [kept ++ unit.toList] ∧ A kept ∧
        fields' = Function.update fields n (some kept) := by
  intro caps s fields
  simp only [mem_readings_group kind.spans, mem_readings_span (spans_text unit), mem_readings_end]
  constructor
  · rintro ⟨-, ⟨kept, -, rfl, inside, -, -, rfl, rfl, rfl, rfl⟩, rfl⟩
    have whole : '\t' ∉ kept ++ unit.toList := by simp [kind.untabbed _ inside, untabbed]
    rw [List.append_nil]
    exact ⟨kept, columnsOf_of_untabbed whole, inside, get?_keep_eq_update n kept _ caps⟩
  · rintro ⟨kept, single, inside, rfl⟩
    obtain ⟨rfl, -⟩ := columnsOf_eq_singleton_iff.1 single
    exact ⟨_, ⟨kept, _, rfl, inside, _, [], (List.append_nil _).symm, rfl, rfl, rfl⟩,
      get?_keep_eq_update n kept _ caps⟩

theorem mem_readings_tab {caps : Captures} {s : List Char} {r : Captures × List Char} :
    r ∈ (Pattern.seq Format.tab b).readings (caps, s) ↔
      ∃ rest, s = '\t' :: rest ∧ r ∈ b.readings (caps, rest) := by
  rw [Format.tab, mem_readings_span (spans_one _)]
  simp

/-- A column that is kept, and those behind it. -/
theorem ReadsColumns.column (reads : ReadsColumns b R) (n : Nat) (kind : ReadsKind a A) :
    ReadsColumns (.seq (.group n a) (.seq Format.tab b)) fun fields columns fields' =>
      ∃ column more, columns = column :: more ∧ more ≠ [] ∧ A column ∧
        R (Function.update fields n (some column)) more fields' := by
  intro caps s fields
  simp only [mem_readings_group kind.spans, mem_readings_tab]
  constructor
  · rintro ⟨r, ⟨column, -, rfl, inside, rest, rfl, member⟩, kept⟩
    refine ⟨column, columnsOf rest, columnsOf_append_tab (kind.untabbed _ inside) rest,
      columnsOf_ne_nil rest, inside, ?_⟩
    rw [← get?_keep_eq_update n column ('\t' :: rest)]
    exact (reads _ _ _).1 ⟨r, member, kept⟩
  · rintro ⟨column, more, split, some, inside, related⟩
    obtain ⟨rest, rfl, -, rfl⟩ := (columnsOf_eq_cons_iff some).1 split
    rw [← get?_keep_eq_update n column ('\t' :: rest)] at related
    obtain ⟨r, member, kept⟩ := (reads _ _ _).2 related
    exact ⟨r, ⟨column, _, rfl, inside, rest, rfl, member⟩, kept⟩

/-- A column that is kept without its unit, and those behind it. -/
theorem ReadsColumns.column_unit (reads : ReadsColumns b R) (n : Nat) (unit : String) (kind : ReadsKind a A)
    (untabbed : '\t' ∉ unit.toList) :
    ReadsColumns (.seq (.group n a) (.seq (.text unit) (.seq Format.tab b))) fun fields columns fields' =>
      ∃ kept more, columns = (kept ++ unit.toList) :: more ∧ more ≠ [] ∧ A kept ∧
        R (Function.update fields n (some kept)) more fields' := by
  intro caps s fields
  simp only [mem_readings_group kind.spans, mem_readings_span (spans_text unit), mem_readings_tab]
  constructor
  · rintro ⟨r, ⟨column, -, rfl, inside, -, -, rfl, rfl, rest, rfl, member⟩, kept⟩
    have whole : '\t' ∉ column ++ unit.toList := by simp [kind.untabbed _ inside, untabbed]
    refine ⟨column, columnsOf rest, ?_, columnsOf_ne_nil rest, inside, ?_⟩
    · rw [← List.append_assoc, columnsOf_append_tab whole]
    · rw [← get?_keep_eq_update n column (unit.toList ++ '\t' :: rest)]
      exact (reads _ _ _).1 ⟨r, member, kept⟩
  · rintro ⟨column, more, split, some, inside, related⟩
    obtain ⟨rest, rfl, -, rfl⟩ := (columnsOf_eq_cons_iff some).1 split
    rw [← get?_keep_eq_update n column (unit.toList ++ '\t' :: rest)] at related
    obtain ⟨r, member, kept⟩ := (reads _ _ _).2 related
    exact ⟨r, ⟨column, _, List.append_assoc _ _ _, inside, _, _, rfl, rfl, rest, rfl, member⟩, kept⟩

/-- Two patterns together. -/
theorem ReadsColumns.or (reads : ReadsColumns b R) (reads' : ReadsColumns b' R')
    (both : ∀ x r, r ∈ c.readings x ↔ r ∈ b.readings x ∨ r ∈ b'.readings x) :
    ReadsColumns c fun fields columns fields' => R fields columns fields' ∨ R' fields columns fields' := by
  intro caps s fields
  simp only [both, or_and_right, exists_or]
  exact or_congr (reads caps s fields) (reads' caps s fields)

theorem ReadsColumns.of_readings_eq (reads : ReadsColumns b R) (same : ∀ x, c.readings x = b.readings x) :
    ReadsColumns c R := by
  intro caps s fields
  rw [same]
  exact reads caps s fields

/-- A part that may be missing. -/
theorem ReadsColumns.optional (reads : ReadsColumns (.seq a (.seq b c)) R)
    (without : ReadsColumns (.seq a c) R') : ReadsColumns (.seq a (.seq (.optional b) c))
      fun fields columns fields' => R fields columns fields' ∨ R' fields columns fields' := by
  refine reads.or without fun x r => ?_
  have split (y : Captures × List Char) : r ∈ (Pattern.seq (.optional b) c).readings y ↔
      r ∈ (Pattern.seq b c).readings y ∨ r ∈ c.readings y := mem_readings_optional
  rw [readings, readings, readings]
  simp only [List.mem_flatMap, split, and_or_left, exists_or]

/-- A column that may be missing. -/
theorem ReadsColumns.optional_column (reads : ReadsColumns (.seq a (.seq Format.tab (.seq b c))) R)
    (without : ReadsColumns (.seq a c) R') : ReadsColumns (.seq a (.seq (.optional (.seq Format.tab b)) c))
      fun fields columns fields' => R fields columns fields' ∨ R' fields columns fields' := by
  refine (reads.of_readings_eq fun x => ?_).optional without
  simp only [readings, List.flatMap_assoc]

/-- The preferred reading of a line gives a value if and only if its columns say so. -/
theorem ReadsColumns.map_match?_eq_some_iff {α : Type} (reads : ReadsColumns b R)
    {Row : List (List Char) → α → Prop} {give : Captures → α}
    (sound : ∀ caps s columns, R (fun _ => none) columns (Captures.get? caps) →
      Row columns (give ((.closing 0, s) :: caps)))
    (complete : ∀ columns x, Row columns x → ∃ fields, R (fun _ => none) columns fields)
    (unique : ∀ columns x y, Row columns x → Row columns y → x = y) {s : List Char} {x : α} :
    (b.match? s).map give = some x ↔ Row (columnsOf s) x := by
  have start : Captures.get? [(.opening 0, s)] = fun _ => none := funext fun n => Captures.get?_opening s
  refine Pattern.map_match?_eq_some_iff (Row (columnsOf s)) ?_ ?_ (unique (columnsOf s))
  · intro r member
    refine sound r.1 r.2 _ ?_
    rw [← start]
    exact (reads _ _ _).1 ⟨r, member, rfl⟩
  · intro x fits
    obtain ⟨fields, related⟩ := complete _ _ fits
    rw [← start] at related
    obtain ⟨r, member, -⟩ := (reads _ _ _).2 related
    exact ⟨r, member⟩

end Patterns

end ItemAppraisal
