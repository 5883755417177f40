import ItemAppraisal.Timestamp
import Mathlib.Algebra.Ring.Nat
import Mathlib.Data.List.TakeDrop
import Mathlib.Data.List.TakeWhile

/-!
# Points in time read back

A date is found again from the days that it is away from 1970 (`toDays_ofDays`), and a point in time from its
text (`read?_documentText`), leap seconds included.
-/

namespace ItemAppraisal.Timestamp

/-! ## The calendar -/

/-- The year within 400 years and the day of the year for a day within them. The centuries are told apart
since all but the first lack a leap day. -/
theorem year_bounds {day year : Int} (first : 0 ≤ day) (last : day < 146097)
    (counted : year = (day - day / 1460 + day / 36524 - day / 146096) / 365) :
    (0 ≤ year ∧ year ≤ 399) ∧
    0 ≤ day - (365 * year + year / 4 - year / 100) ∧
    day - (365 * year + year / 4 - year / 100) ≤ 365 := by
  refine ⟨by omega, ?_⟩
  have within (c : Int) (century : day / 36524 = c) (least : 0 ≤ c) (most : c ≤ 3) :
      0 ≤ day - (365 * year + year / 4 - year / 100) ∧
      day - (365 * year + year / 4 - year / 100) ≤ 365 := by
    have whole : day / 146096 = 0 := by omega
    have hundreds : year / 100 = c := by omega
    rw [century, whole] at counted
    rw [hundreds]
    omega
  by_cases leapDay : day = 146096
  · subst leapDay
    omega
  · exact within _ rfl (by omega) (by omega)

/-- The days of a date whose year is counted from March. -/
theorem toDays_fromMarch (era : Int) {year march day : Int} (years : 0 ≤ year ∧ year ≤ 399)
    (months : 0 ≤ march ∧ march ≤ 11) (positive : 1 ≤ day) :
    let month := if march < 10 then march + 3 else march - 9
    Date.toDays ⟨year + era * 400 + (if month ≤ 2 then 1 else 0), month.toNat, day.toNat⟩ =
      era * 146097 + (year * 365 + year / 4 - year / 100 + ((153 * march + 2) / 5 + day - 1)) - 719468 := by
  intro month
  have era400 : (year + era * 400).fdiv 400 = era := by
    rw [Int.fdiv_eq_ediv_of_nonneg _ (by decide)]
    omega
  have inYear : year + era * 400 - era * 400 = year := by omega
  have ofDay : (day.toNat : Int) = day := by omega
  by_cases early : march < 10
  · have monthOf : month = march + 3 := if_pos early
    have late : ¬ march + 3 ≤ 2 := by omega
    have late' : ¬ (march + 3).toNat ≤ 2 := by omega
    have back : ((march + 3).toNat + 9 : Int) % 12 = march := by omega
    rw [monthOf, if_neg late, Date.toDays]
    simp only [if_neg late', Int.add_zero, era400, inYear, back, ofDay]
  · have monthOf : month = march - 9 := if_neg early
    have next : march - 9 ≤ 2 := by omega
    have next' : (march - 9).toNat ≤ 2 := by omega
    have back : ((march - 9).toNat + 9 : Int) % 12 = march := by omega
    rw [monthOf, if_pos next, Date.toDays]
    simp only [if_pos next', Int.add_sub_cancel, era400, inYear, back, ofDay]

theorem toDays_ofDays (days : Int) : (Date.ofDays days).toDays = days := by
  obtain ⟨era, eraOf⟩ : ∃ era, era = (days + 719468).fdiv 146097 := ⟨_, rfl⟩
  obtain ⟨day, dayOf⟩ : ∃ day, day = days + 719468 - era * 146097 := ⟨_, rfl⟩
  obtain ⟨year, yearOf⟩ : ∃ year, year = (day - day / 1460 + day / 36524 - day / 146096) / 365 := ⟨_, rfl⟩
  obtain ⟨yearDay, yearDayOf⟩ : ∃ yearDay, yearDay = day - (365 * year + year / 4 - year / 100) := ⟨_, rfl⟩
  obtain ⟨march, marchOf⟩ : ∃ march, march = (5 * yearDay + 2) / 153 := ⟨_, rfl⟩
  have bounds : 0 ≤ day ∧ day < 146097 := by
    rw [Int.fdiv_eq_ediv_of_nonneg _ (by decide)] at eraOf
    omega
  obtain ⟨years, least, most⟩ := year_bounds bounds.1 bounds.2 yearOf
  rw [← yearDayOf] at least most
  have months : 0 ≤ march ∧ march ≤ 11 := by omega
  have positive : 1 ≤ yearDay - (153 * march + 2) / 5 + 1 := by omega
  have shape := toDays_fromMarch era years months positive
  have same : Date.ofDays days = ⟨year + era * 400 + (if (if march < 10 then march + 3 else march - 9) ≤ 2 then 1 else 0),
      (if march < 10 then march + 3 else march - 9).toNat, (yearDay - (153 * march + 2) / 5 + 1).toNat⟩ := by
    rw [marchOf, yearDayOf, yearOf, dayOf, eraOf]
    rfl
  rw [same, shape]
  omega

/-! ## Numbers in digits -/

theorem isBlank_of_isDigit {c : Char} (digit : c.isDigit = true) : Text.isBlank c = false := by
  have bounds : 48 ≤ c.toNat ∧ c.toNat ≤ 57 := Char.isDigit_iff_toNat.1 digit
  simp [Text.isBlank, Text.inRanges, Text.blankRanges]
  omega

theorem skip_of_not_blank {c : Char} (filled : Text.isBlank c = false) (rest : List Char) :
    skip (c :: rest) = c :: rest := by
  simp [skip, filled]

theorem mark?_cons {c : Char} (filled : Text.isBlank c = false) (rest : List Char) :
    mark? c (c :: rest) = some rest := by
  simp [mark?, skip_of_not_blank filled]

theorem span_digits {row : List Char} (digits : ∀ c ∈ row, c.isDigit = true) {c : Char}
    (stop : c.isDigit = false) (rest : List Char) :
    (row ++ c :: rest).span Char.isDigit = (row, c :: rest) := by
  rw [List.span_eq_takeWhile_dropWhile, List.takeWhile_append_of_pos digits,
    List.dropWhile_append_of_pos digits]
  simp [stop]

section

variable {width n : Nat}

theorem value_padded : Decimal.value (padded width n) = n := by
  rw [padded, Decimal.value_zeros_append, Decimal.value_digits]

theorem isDigit_of_mem_padded {c : Char} (member : c ∈ padded width n) : c.isDigit = true := by
  rcases List.mem_append.1 member with zero | digit
  · rw [List.eq_of_mem_replicate zero]
    rfl
  · exact Decimal.isDigit_of_mem_digits digit

theorem padded_ne_nil : padded width n ≠ [] :=
  List.append_ne_nil_of_right_ne_nil _ (Decimal.digits_ne_nil n)

theorem length_padded (positive : 0 < width) (fits : n < 10 ^ width) :
    (padded width n).length = width := by
  have short : (Decimal.digits n).length ≤ width := (Nat.length_toDigits_le_iff (by decide) positive).2 fits
  rw [padded, List.length_append, List.length_replicate]
  omega

theorem padded_eq_cons (width n : Nat) : ∃ c row, c.isDigit = true ∧ padded width n = c :: row := by
  obtain ⟨c, row, same⟩ := List.exists_cons_of_ne_nil (padded_ne_nil : padded width n ≠ [])
  exact ⟨c, row, isDigit_of_mem_padded (same ▸ List.mem_cons_self), same⟩

theorem skip_padded (rest : List Char) : skip (padded width n ++ rest) = padded width n ++ rest := by
  obtain ⟨c, row, digit, same⟩ := padded_eq_cons width n
  rw [same]
  exact skip_of_not_blank (isBlank_of_isDigit digit) _

theorem padded_append_ne_cons {c : Char} (other : c.isDigit = false) (rest rest' : List Char) :
    padded width n ++ rest ≠ c :: rest' := by
  obtain ⟨d, row, digit, same⟩ := padded_eq_cons width n
  rw [same]
  intro equal
  cases equal
  rw [digit] at other
  cases other

theorem number?_padded (positive : 0 < width) (fits : n < 10 ^ width) (rest : List Char) :
    number? width (padded width n ++ rest) = some (n, rest) := by
  have length := length_padded positive fits
  have row : (padded width n).takeWhile Char.isDigit = padded width n :=
    List.takeWhile_eq_self_iff.2 fun _ => isDigit_of_mem_padded
  rw [number?, skip_padded, List.take_left' length]
  simp only [row]
  rw [if_neg (by simp [padded_ne_nil]), value_padded, List.drop_left]

theorem signedYear_padded {c : Char} (stop : c.isDigit = false) (rest : List Char) (f : Int → Int) :
    year?.signedYear (padded width n ++ c :: rest) f = some (f n, c :: rest) := by
  rw [year?.signedYear, span_digits (fun _ => isDigit_of_mem_padded) stop]
  simp only
  rw [if_neg (by simp [padded_ne_nil]), value_padded]

end

theorem year?_yearText (year : Int) {c : Char} (stop : c.isDigit = false) (rest : List Char) :
    year? (yearText year ++ c :: rest) = some (year, c :: rest) := by
  rw [yearText]
  split
  · rename_i short
    simp only [Bool.and_eq_true, decide_eq_true_eq] at short
    have fits : year.toNat < 10 ^ 4 := by omega
    have value : (year.toNat : Int) = year := by omega
    have number := number?_padded (by decide) fits (c :: rest)
    rw [year?, skip_padded]
    split
    · rename_i same
      exact absurd same (padded_append_ne_cons (by decide) _ _)
    · rename_i same
      exact absurd same (padded_append_ne_cons (by decide) _ _)
    · rw [number, Option.map_some]
      simp only [value]
  · by_cases negative : year < 0
    · have value : -(year.natAbs : Int) = year := by omega
      rw [if_pos negative, List.cons_append, year?, skip_of_not_blank (by decide)]
      simp only
      rw [signedYear_padded stop, value]
    · have value : (year.natAbs : Int) = year := by omega
      rw [if_neg negative, List.cons_append, year?, skip_of_not_blank (by decide)]
      simp only
      rw [signedYear_padded stop, value]

/-! ## Times -/

/-- The fraction of a second as a text shows it. -/
def fractionText (nanos : Nat) : List Char :=
  if nanos == 0 then []
  else if nanos % 1000000 == 0 then '.' :: padded 3 (nanos / 1000000)
  else if nanos % 1000 == 0 then '.' :: padded 6 (nanos / 1000)
  else '.' :: padded 9 nanos

theorem fraction?_digits {width n : Nat} (positive : 0 < width) (most : width ≤ 9)
    (fits : n < 10 ^ width) {c : Char} (stop : c.isDigit = false) (rest : List Char) :
    fraction? ('.' :: padded width n ++ c :: rest) = some (n * 10 ^ (9 - width), c :: rest) := by
  have length := length_padded positive fits
  rw [List.cons_append, fraction?, span_digits (fun _ => isDigit_of_mem_padded) stop]
  simp only
  rw [if_neg (by simp [padded_ne_nil]), List.take_of_length_le (by omega), value_padded, length]
  rfl

theorem fraction?_fractionText {nanos : Nat} (fits : nanos < 1000000000) (rest : List Char) :
    fraction? (fractionText nanos ++ 'Z' :: rest) = some (nanos, 'Z' :: rest) := by
  rw [fractionText]
  split
  · rename_i zero
    rw [beq_iff_eq.1 zero]
    rfl
  · split
    · rename_i millis
      have whole : nanos / 1000000 * 10 ^ (9 - 3) = nanos := by
        have := beq_iff_eq.1 millis
        omega
      rw [fraction?_digits (by decide) (by decide) (by omega) (by decide), whole]
    · split
      · rename_i micros
        have whole : nanos / 1000 * 10 ^ (9 - 6) = nanos := by
          have := beq_iff_eq.1 micros
          omega
        rw [fraction?_digits (by decide) (by decide) (by omega) (by decide), whole]
      · rw [fraction?_digits (by decide) (by decide) (by omega) (by decide)]
        simp

/-- A point in time within the calendar. A leap second follows the last second of a minute. -/
structure IsValid (t : Timestamp) : Prop where
  date : t.date.isValid = true
  nanos : t.nanos < 1000000000 ∨ t.nanos < 2000000000 ∧ t.seconds % 60 = 59

theorem isValid_bounds {d : Date} (valid : d.isValid = true) : d.month < 10 ^ 2 ∧ d.day < 10 ^ 2 := by
  simp only [Date.isValid, Bool.and_eq_true, decide_eq_true_eq] at valid
  have longest : daysInMonth d.year d.month ≤ 31 := by
    simp only [daysInMonth]
    split
    · split <;> decide
    all_goals decide
  omega

/-- What is written for a point in time, its parts before each other. -/
theorem toList_documentText (t : Timestamp) {ofDay : Nat}
    (clock : ofDay = (t.seconds - t.seconds.fdiv daySeconds * daySeconds).toNat) :
    t.documentText.toList = yearText t.date.year ++ '-' :: (padded 2 t.date.month ++ '-' ::
      (padded 2 t.date.day ++ 'T' :: (padded 2 (ofDay / 3600) ++ ':' :: (padded 2 (ofDay / 60 % 60) ++ ':' ::
        (padded 2 (ofDay % 60 + t.nanos / 1000000000) ++
          (fractionText (t.nanos % 1000000000) ++ ['Z'])))))) := by
  rw [documentText, String.toList_ofList, timeText, dateText, fractionText, ← clock]
  simp only [List.append_assoc, List.cons_append]

theorem read?_documentText {t : Timestamp} (valid : t.IsValid) : read? t.documentText = some t := by
  obtain ⟨inCalendar, fractions⟩ := valid
  obtain ⟨months, days⟩ := isValid_bounds inCalendar
  obtain ⟨ofDay, clock⟩ : ∃ n, n = (t.seconds - t.seconds.fdiv daySeconds * daySeconds).toNat := ⟨_, rfl⟩
  obtain ⟨whole, short⟩ : t.date.toDays * daySeconds + ofDay = t.seconds ∧ ofDay < 86400 := by
    rw [date, toDays_ofDays, clock, daySeconds, Int.fdiv_eq_ediv_of_nonneg _ (by decide)]
    omega
  rw [daySeconds] at whole
  -- The second 60 is written exactly for a leap second, since that stands after a second 59.
  obtain ⟨second, secondOf⟩ : ∃ n, n = ofDay % 60 + t.nanos / 1000000000 := ⟨_, rfl⟩
  have leap : second / 60 = t.nanos / 1000000000 := by omega
  have most : second ≤ 60 := by omega
  have dash : Text.isBlank '-' = false := by decide
  have colon : Text.isBlank ':' = false := by decide
  have year := year?_yearText t.date.year (c := '-') (by decide)
  have month := number?_padded (by decide) months
  have day := number?_padded (by decide) days
  have hour : ofDay / 3600 < 10 ^ 2 := by omega
  have minute : ofDay / 60 % 60 < 10 ^ 2 := by omega
  have fraction := fraction?_fractionText (Nat.mod_lt t.nanos (by decide : 0 < 1000000000)) []
  have zone : offset? (skip ['Z']) = some (0, []) := by decide
  have clockBack : t.date.toDays * daySeconds + (ofDay / 3600 : Nat) * 3600 + (ofDay / 60 % 60 : Nat) * 60 +
      (second - second / 60 : Nat) - 0 = t.seconds := by
    rw [daySeconds]
    omega
  have nanosBack : t.nanos % 1000000000 + second / 60 * 1000000000 = t.nanos := by omega
  have hours : ofDay / 3600 ≤ 23 := by omega
  have minutes : ofDay / 60 % 60 ≤ 59 := by omega
  rw [read?, toList_documentText t clock, ← secondOf]
  refine Option.bind_eq_some_iff.2 ⟨_, year _, ?_⟩
  refine Option.bind_eq_some_iff.2 ⟨_, mark?_cons dash _, ?_⟩
  refine Option.bind_eq_some_iff.2 ⟨_, month _, ?_⟩
  refine Option.bind_eq_some_iff.2 ⟨_, mark?_cons dash _, ?_⟩
  refine Option.bind_eq_some_iff.2 ⟨_, day _, ?_⟩
  refine Option.bind_eq_some_iff.2 ⟨_, rfl, ?_⟩
  refine Option.bind_eq_some_iff.2 ⟨_, number?_padded (by decide) hour _, ?_⟩
  refine Option.bind_eq_some_iff.2 ⟨_, mark?_cons colon _, ?_⟩
  refine Option.bind_eq_some_iff.2 ⟨_, number?_padded (by decide) minute _, ?_⟩
  refine Option.bind_eq_some_iff.2 ⟨_, mark?_cons colon _, ?_⟩
  refine Option.bind_eq_some_iff.2 ⟨_, number?_padded (by decide) (by omega : second < 10 ^ 2) _, ?_⟩
  refine Option.bind_eq_some_iff.2 ⟨_, fraction, ?_⟩
  refine Option.bind_eq_some_iff.2 ⟨_, zone, ?_⟩
  simp only [clockBack, nanosBack, inCalendar, decide_eq_true hours, decide_eq_true minutes,
    decide_eq_true most]
  rfl

end ItemAppraisal.Timestamp
