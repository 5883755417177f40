import ItemAppraisal.Proofs.ItemAccounting
import ItemAppraisal.Proofs.ListingLayouts

/-!
# The block of a fitting

A block that is written out row by row reads back: the opening line gives the ship and the name, and each row
what was written in it. The name of a module takes the shortest run that works, and the digits behind it may
take the comma in front of the charge. A shorter name would have to end where the rest of it is a count
(`eq_nil_of_isTail`), and behind a comma that was taken stands a space, which begins no charge
(`eq_nil_of_numeric`). Main statement: `read_fitting`.
-/

namespace ItemAppraisal

open Format (Kind isNumeric)
open Text (IsRun Captures EndsKept)

/-! ## Lines -/

namespace Line

/-- A line that shows a text, with any padding around it. -/
def Shows (line : Line) (s : List Char) : Prop :=
  ∃ before after, line.text.toList = before ++ (s ++ after) ∧ (∀ c ∈ before, isPadding c = true) ∧
    ∀ c ∈ after, isPadding c = true

theorem clean_of_shows {line : Line} {s : List Char} (shows : line.Shows s)
    (kept : EndsKept Text.isBlank s) : line.clean = s := by
  obtain ⟨before, after, text, front, back⟩ := shows
  have other {c : Char} (filled : Text.isBlank c = false) : isPadding c = false := by
    rw [← Bool.not_eq_true] at filled ⊢
    exact fun padding => filled (isBlank_of_isPadding padding)
  rw [clean, text, Text.trimBy_append front back, Text.trimBy_eq_self_iff]
  exact ⟨fun c first => other (kept.1 c first), fun c last => other (kept.2 c last)⟩

end Line

/-- The lines with other numbers than those in front are the lines after them. -/
theorem Paste.lines_without_front {paste : Paste} {front later : List Line}
    (whole : paste.lines = front ++ later) :
    (paste.without (front.map (·.number))).lines = later := by
  have ascending := paste.ascending
  rw [whole, List.pairwise_append] at ascending
  obtain ⟨-, -, apart⟩ := ascending
  have taken : front.filter (fun line => line.number ∉ front.map (·.number)) = [] := by
    refine List.filter_eq_nil_iff.2 fun line member => ?_
    simpa using ⟨line, member, rfl⟩
  have left : later.filter (fun line => line.number ∉ front.map (·.number)) = later := by
    refine List.filter_eq_self.2 fun line member => ?_
    have greater : ∀ other ∈ front, other.number ≠ line.number := fun other inFront =>
      Nat.ne_of_lt (apart other inFront line member)
    simpa using greater
  rw [Paste.lines_without, whole, List.filter_append, taken, left, List.nil_append]

namespace Fitting

open Text.Pattern

/-! ## Rows -/

/-- A character of a name in a row. -/
def isPlain : Char → Bool :=
  Format.noneOf ",\t[]"

theorem noneOf_of_subset {few many : String} (fewer : few.toList ⊆ many.toList) {c : Char}
    (other : Format.noneOf many c = true) : Format.noneOf few c = true := by
  simp only [Format.noneOf, Bool.not_eq_true', List.contains_eq_mem, decide_eq_false_iff_not] at other ⊢
  exact fun member => other (fewer member)

/-- The name of a ship, a module or a charge. -/
structure IsName (s : List Char) : Prop where
  filled : s ≠ []
  plain : ∀ c ∈ s, isPlain c = true
  ends : EndsKept Text.isBlank s

instance (s : List Char) : Decidable (IsName s) :=
  decidable_of_iff (s ≠ [] ∧ s.all isPlain = true ∧ Text.trimBy Text.isBlank s = s)
    ⟨fun ⟨filled, plain, trimmed⟩ => ⟨filled, List.all_eq_true.1 plain, Text.trimBy_eq_self_iff.1 trimmed⟩,
      fun ⟨filled, plain, ends⟩ => ⟨filled, List.all_eq_true.2 plain, Text.trimBy_eq_self_iff.2 ends⟩⟩

theorem IsName.isRun {s : List Char} (isName : IsName s) : IsRun isPlain s :=
  ⟨isName.filled, isName.plain⟩

/-- A module as a row shows it: its name, the digits of its count, its charge and whether it is switched
off. -/
structure Module where
  name : List Char
  count : Option (List Char) := none
  charge : Option (List Char) := none
  offline : Bool := false

namespace Module

/-- The part of a row that holds the count. -/
def countText : Option (List Char) → List Char
  | none => []
  | some numeral => ' ' :: 'x' :: numeral

/-- The part of a row that holds the charge. -/
def chargeText : Option (List Char) → List Char
  | none => []
  | some charge => ',' :: ' ' :: charge

/-- What stands behind the name. -/
def tail (m : Module) : List Char :=
  countText m.count ++ chargeText m.charge

/-- The row of a module that is switched off is that of one that is not, with the mark behind it. -/
def text (m : Module) : List Char :=
  (m.name ++ m.tail) ++ if m.offline then offlineMark else []

/-- What a row stands for: as many of the module as are counted or one, and one charge. -/
def items (m : Module) : List Stack :=
  ⟨String.ofList m.name, (m.count.map fun numeral => (Decimal.value numeral : Int)).getD 1⟩ ::
    m.charge.toList.map fun charge => ⟨String.ofList charge, 1⟩

/-- A module that can be written in a row. The name does not end in what could be a count, neither the name
nor the charge ends in the mark, and only with the mark behind it a charge is spelled like the mark. -/
structure IsWritten (m : Module) : Prop where
  name : IsName m.name
  unmarked : ¬offlineMark <:+ m.name
  uncounted : ∀ front numeral, IsRun isNumeric numeral → m.name ≠ front ++ ' ' :: 'x' :: numeral
  count : ∀ numeral ∈ m.count, ∃ n, Decimal.natural? numeral = some n ∧ (n : Int) ≤ Quantity.greatest
  charge : ∀ charge ∈ m.charge, IsName charge ∧ ¬offlineMark <:+ charge ∧
    (charge = "/OFFLINE".toList → m.offline = true)

end Module

/-- A row below the opening line. -/
inductive Row where
  | blank
  | emptySlot (letter : Char) (label : List Char)
  | fitted (m : Module)

namespace Row

/-- The text of a row. -/
def text : Row → List Char
  | blank => []
  | emptySlot letter label => '[' :: letter :: ("mpty ".toList ++ (label ++ [']']))
  | fitted m => m.text

/-- What a row stands for. -/
def items : Row → List Stack
  | fitted m => m.items
  | _ => []

/-- A row that can be written. -/
def IsWritten : Row → Prop
  | blank => True
  | emptySlot letter label => (letter = 'E' ∨ letter = 'e') ∧ IsRun (Format.noneOf ",]") label
  | fitted m => m.IsWritten

end Row

/-- The text of an opening line. -/
def openingText (ship name : List Char) : List Char :=
  '[' :: (ship ++ (',' :: ' ' :: (name ++ [']'])))

/-! ## What stands behind the name of a module -/

/-- The charge behind a module as the shape of a row takes it. -/
def IsCharge (s : List Char) : Option (List Char) → Prop
  | none => s = []
  | some charge => ∃ blanks, s = ',' :: (blanks ++ charge) ∧ (∀ c ∈ blanks, Text.isBlank c = true) ∧
      IsRun isPlain charge

/-- The count and the charge behind a module as the shape of a row takes them. -/
def IsTail (s : List Char) : Option (List Char) → Option (List Char) → Prop
  | none, charge => IsCharge s charge
  | some numeral, charge => ∃ rest, s = ' ' :: 'x' :: (numeral ++ rest) ∧ IsRun isNumeric numeral ∧
      IsCharge rest charge

/-- The shape of a charge and the end of the row. -/
def behindCount : Text.Pattern :=
  .seq (.optional (.all [.text ",", .eager Text.isBlank, .group 3 (.few isPlain)])) (.seq .atEnd .empty)

/-- The shape of what stands behind the name of a module. -/
def behindModule : Text.Pattern :=
  .seq (.optional (.seq (.text " x") (.group 2 Format.number))) behindCount

theorem moduleShape_eq : moduleShape = .seq (.group 1 (.few isPlain)) behindModule := rfl

variable {caps : Captures} {s rest run : List Char} {r : Captures × List Char}
  {count charge count' charge' : Option (List Char)}

theorem mem_readings_behindCount : r ∈ behindCount.readings (caps, s) ↔
    s = [] ∧ r = (caps, []) ∨
      ∃ blanks word, s = ',' :: (blanks ++ word) ∧ (∀ c ∈ blanks, Text.isBlank c = true) ∧
        IsRun isPlain word ∧ r = (caps.keep 3 word [], []) := by
  have present : r ∈ (Text.Pattern.seq (.all [.text ",", .eager Text.isBlank, .group 3 (.few isPlain)])
      (.seq .atEnd .empty)).readings (caps, s) ↔
        ∃ blanks word, s = ',' :: (blanks ++ word) ∧ (∀ c ∈ blanks, Text.isBlank c = true) ∧
          IsRun isPlain word ∧ r = (caps.keep 3 word [], []) := by
    simp only [all, List.foldr_cons, List.foldr_nil, readings_seq_assoc, mem_readings_span (spans_text _),
      mem_readings_span (spans_eager _), mem_readings_group (spans_few _), mem_readings_span spans_empty,
      mem_readings_end]
    constructor
    · rintro ⟨-, -, rfl, rfl, blanks, -, rfl, blank, word, -, rfl, plain, -, -, rfl, rfl, rfl, rfl⟩
      exact ⟨blanks, word, by simp, blank, plain, rfl⟩
    · rintro ⟨blanks, word, rfl, blank, plain, rfl⟩
      exact ⟨_, _, rfl, rfl, blanks, _, rfl, blank, word, [], by simp, plain, [], [], rfl, rfl, rfl, rfl⟩
  rw [behindCount, mem_readings_optional, present, mem_readings_end, or_comm]

theorem mem_readings_behindModule : r ∈ behindModule.readings (caps, s) ↔
    r ∈ behindCount.readings (caps, s) ∨
      ∃ numeral rest, s = ' ' :: 'x' :: (numeral ++ rest) ∧ IsRun isNumeric numeral ∧
        r ∈ behindCount.readings (caps.keep 2 numeral rest, rest) := by
  rw [behindModule, mem_readings_optional, or_comm, readings_seq_assoc]
  simp only [mem_readings_span (spans_text _), Format.number, mem_readings_group (spans_many _)]
  refine or_congr Iff.rfl ?_
  constructor
  · rintro ⟨-, -, rfl, rfl, numeral, rest, rfl, counted, member⟩
    exact ⟨numeral, rest, by simp, counted, member⟩
  · rintro ⟨numeral, rest, rfl, counted, member⟩
    exact ⟨_, _, rfl, rfl, numeral, rest, rfl, counted, member⟩

/-- A reading keeps the charge and leaves the other groups as they are. -/
theorem charge_of_mem_readings (member : r ∈ behindCount.readings (caps, s)) (unkept : caps.get? 3 = none) :
    ∃ charge, IsCharge s charge ∧ r.1.get? 3 = charge ∧ ∀ n, n ≠ 3 → r.1.get? n = caps.get? n := by
  rcases mem_readings_behindCount.1 member with ⟨rfl, rfl⟩ | ⟨blanks, word, rfl, blank, plain, rfl⟩
  · exact ⟨none, rfl, unkept, fun _ _ => rfl⟩
  · refine ⟨some word, ⟨blanks, rfl, blank, plain⟩, by simp [Captures.get?_keep], fun n other => ?_⟩
    rw [Captures.get?_keep, if_neg other]

/-- A reading keeps the count and the charge that stand behind the name. -/
theorem tail_of_mem_readings (member : r ∈ behindModule.readings (caps, s)) (unkept : caps.get? 2 = none)
    (unkept' : caps.get? 3 = none) :
    IsTail s (r.1.get? 2) (r.1.get? 3) ∧ r.1.get? 1 = caps.get? 1 := by
  rcases mem_readings_behindModule.1 member with plain | ⟨numeral, rest, rfl, counted, member⟩
  · obtain ⟨charge, isCharge, kept, others⟩ := charge_of_mem_readings plain unkept'
    rw [others 2 (by decide), others 1 (by decide), unkept, kept]
    exact ⟨isCharge, rfl⟩
  · obtain ⟨charge, isCharge, kept, others⟩ :=
      charge_of_mem_readings member (by simpa [Captures.get?_keep] using unkept')
    rw [others 2 (by decide), others 1 (by decide), kept]
    simp only [Captures.get?_keep]
    exact ⟨⟨rest, rfl, counted, isCharge⟩, rfl⟩

theorem readings_behindCount_ne_nil (caps : Captures) (isCharge : IsCharge s charge) :
    behindCount.readings (caps, s) ≠ [] := by
  cases charge with
  | none => exact List.ne_nil_of_mem (mem_readings_behindCount.2 (.inl ⟨isCharge, rfl⟩))
  | some word =>
    obtain ⟨blanks, rfl, blank, plain⟩ := isCharge
    exact List.ne_nil_of_mem (mem_readings_behindCount.2 (.inr ⟨blanks, word, rfl, blank, plain, rfl⟩))

theorem readings_behindModule_ne_nil (caps : Captures) (isTail : IsTail s count charge) :
    behindModule.readings (caps, s) ≠ [] := by
  cases count with
  | none =>
    obtain ⟨r, member⟩ := List.exists_mem_of_ne_nil _ (readings_behindCount_ne_nil caps isTail)
    exact List.ne_nil_of_mem (mem_readings_behindModule.2 (.inl member))
  | some numeral =>
    obtain ⟨rest, rfl, counted, isCharge⟩ := isTail
    obtain ⟨r, member⟩ := List.exists_mem_of_ne_nil _ (readings_behindCount_ne_nil _ isCharge)
    exact List.ne_nil_of_mem (mem_readings_behindModule.2 (.inr ⟨numeral, rest, rfl, counted, member⟩))

/-! ## One way to read a row -/

theorem isBlank_of_mem_space : ∀ c ∈ [' '], Text.isBlank c = true :=
  List.all_eq_true.1 (by decide)

theorem comma_of_isCharge (isCharge : IsCharge s charge) : ∀ c ∈ s.head?, c = ',' := by
  cases charge with
  | none =>
    obtain rfl : s = [] := isCharge
    simp
  | some word =>
    obtain ⟨blanks, rfl, -⟩ := isCharge
    simp

/-- Nothing, or what begins with a space or with a comma and a space. -/
def IsSpaced (s : List Char) : Prop :=
  s = [] ∨ (∃ rest, s = ' ' :: rest) ∨ ∃ rest, s = ',' :: ' ' :: rest

/-- No digits or separators stand in front of a charge where a space follows the comma. -/
theorem eq_nil_of_numeric (spaced : IsSpaced (run ++ rest)) (numeric : ∀ c ∈ run, isNumeric c = true)
    (isCharge : IsCharge rest charge) : run = [] := by
  have noSpace : ' ' ∉ run := by
    intro member
    cases numeric ' ' member
  cases run with
  | nil => rfl
  | cons c run =>
    rcases spaced with empty | ⟨more, same⟩ | ⟨more, same⟩
    · cases empty
    · obtain ⟨rfl, -⟩ := List.cons.inj same
      simp at noSpace
    · obtain ⟨-, behind⟩ := List.cons.inj same
      cases run with
      | nil =>
        obtain rfl : rest = ' ' :: more := behind
        cases comma_of_isCharge isCharge ' ' rfl
      | cons d run =>
        obtain ⟨rfl, -⟩ := List.cons.inj behind
        simp at noSpace

/-- A count is followed by a charge in one way only where a space follows the comma. -/
theorem count_unique {numeral numeral' : List Char} (same : numeral ++ s = numeral' ++ rest)
    (spaced : IsSpaced s) (commaless : ',' ∉ numeral) (numeric : ∀ c ∈ numeral', isNumeric c = true)
    (isCharge : IsCharge rest charge) : numeral = numeral' ∧ s = rest := by
  rcases List.append_eq_append_iff.1 same with ⟨more, rfl, rfl⟩ | ⟨more, rfl, rfl⟩
  · obtain rfl := eq_nil_of_numeric spaced (fun c member => numeric c (List.mem_append_right _ member)) isCharge
    simp
  · cases more with
    | nil => simp
    | cons c more =>
      obtain rfl := comma_of_isCharge isCharge c rfl
      simp at commaless

theorem isSpaced_chargeText (charge : Option (List Char)) : IsSpaced (Module.chargeText charge) := by
  cases charge with
  | none => exact .inl rfl
  | some word => exact .inr (.inr ⟨word, rfl⟩)

theorem Module.isSpaced_tail (m : Module) : IsSpaced m.tail := by
  rw [Module.tail]
  cases m.count with
  | none => exact isSpaced_chargeText m.charge
  | some numeral => exact .inr (.inl ⟨'x' :: (numeral ++ chargeText m.charge), rfl⟩)

namespace Module.IsWritten

variable {m : Module}

theorem isCharge (written : m.IsWritten) : IsCharge (chargeText m.charge) m.charge := by
  cases loaded : m.charge with
  | none => rfl
  | some word => exact ⟨[' '], rfl, isBlank_of_mem_space, (written.charge word loaded).1.isRun⟩

theorem isTail (written : m.IsWritten) : IsTail m.tail m.count m.charge := by
  rw [Module.tail]
  cases listed : m.count with
  | none => exact written.isCharge
  | some numeral =>
    obtain ⟨n, spelled, -⟩ := written.count numeral listed
    have digits := isDigit_of_natural? spelled
    refine ⟨chargeText m.charge, by simp [countText], ⟨digits.1, fun c member => ?_⟩, written.isCharge⟩
    exact isNumeric_of_isDigit (digits.2 c member)

/-- No end of a name can be taken for the front of what stands behind it. -/
theorem eq_nil_of_isTail (written : m.IsWritten) {front part : List Char} (split : m.name = front ++ part)
    (isTail : IsTail (part ++ m.tail) count charge) : part = [] := by
  have inName {c : Char} (member : c ∈ part) : c ≠ ',' := by
    have plain := written.name.plain c (by simp [split, member])
    rintro rfl
    cases plain
  cases count with
  | none =>
    cases part with
    | nil => rfl
    | cons c part => exact absurd (comma_of_isCharge isTail c (by simp)) (inName List.mem_cons_self)
  | some numeral =>
    obtain ⟨rest, same, counted, isCharge⟩ := isTail
    cases part with
    | nil => rfl
    | cons c part =>
      obtain ⟨rfl, behind⟩ := List.cons.inj same
      cases part with
      | nil =>
        have filled := written.name.ends.2 ' ' (by simp [split])
        cases filled
      | cons d part =>
        obtain ⟨rfl, later⟩ := List.cons.inj behind
        have commaless : ',' ∉ part := fun member => inName (by simp [member]) rfl
        obtain ⟨rfl, -⟩ := count_unique later m.isSpaced_tail commaless counted.2 isCharge
        exact absurd split (written.uncounted front _ counted)

end Module.IsWritten

theorem trimBy_of_isCharge {word word' : List Char} (same : IsCharge s (some word))
    (same' : IsCharge s (some word')) : Text.trimBy Text.isBlank word = Text.trimBy Text.isBlank word' := by
  obtain ⟨blanks, rfl, blank, -⟩ := same
  obtain ⟨blanks', split, blank', -⟩ := same'
  calc Text.trimBy Text.isBlank word
      = Text.trimBy Text.isBlank (blanks ++ word) := (Text.trimBy_append_left blank word).symm
    _ = Text.trimBy Text.isBlank (blanks' ++ word') := by rw [(List.cons.inj split).2]
    _ = Text.trimBy Text.isBlank word' := Text.trimBy_append_left blank' word'

theorem map_trimBy_of_isCharge (same : IsCharge s charge) (same' : IsCharge s charge') :
    charge.map (Text.trimBy Text.isBlank) = charge'.map (Text.trimBy Text.isBlank) := by
  cases charge with
  | none =>
    obtain rfl : s = [] := same
    cases charge' with
    | none => rfl
    | some word =>
      obtain ⟨blanks, split, -⟩ := same'
      cases split
  | some word =>
    cases charge' with
    | none =>
      obtain rfl : s = [] := same'
      obtain ⟨blanks, split, -⟩ := same
      cases split
    | some word' => rw [Option.map_some, Option.map_some, trimBy_of_isCharge same same']

namespace Module.IsWritten

variable {m : Module}

theorem trimmed_charge (written : m.IsWritten) :
    m.charge.map (Text.trimBy Text.isBlank) = m.charge := by
  cases loaded : m.charge with
  | none => rfl
  | some word =>
    rw [Option.map_some, Text.trimBy_eq_self_iff.2 (written.charge word loaded).1.ends]

/-- The count and the charge are the ones that were written, but for white space around the charge. -/
theorem tail_unique (written : m.IsWritten) (isTail : IsTail m.tail count charge) :
    count = m.count ∧ charge.map (Text.trimBy Text.isBlank) = m.charge := by
  have isCharge := written.isCharge
  rw [← written.trimmed_charge]
  rw [tail] at isTail
  cases listed : m.count with
  | none =>
    rw [listed] at isTail
    cases count with
    | none => exact ⟨rfl, map_trimBy_of_isCharge isTail isCharge⟩
    | some numeral =>
      obtain ⟨rest, split, -⟩ := isTail
      obtain split : chargeText m.charge = _ := split
      cases comma_of_isCharge isCharge ' ' (by simp [split])
  | some numeral =>
    obtain ⟨n, spelled, -⟩ := written.count numeral listed
    have digits := isDigit_of_natural? spelled
    rw [listed] at isTail
    cases count with
    | none => cases comma_of_isCharge isTail ' ' rfl
    | some numeral' =>
      obtain ⟨rest, split, counted, isCharge'⟩ := isTail
      have same : numeral ++ chargeText m.charge = numeral' ++ rest :=
        (List.cons.inj (List.cons.inj split).2).2
      have commaless : ',' ∉ numeral := fun member => by cases digits.2 ',' member
      obtain ⟨rfl, left⟩ := count_unique same (isSpaced_chargeText _) commaless counted.2 isCharge'
      rw [left] at isCharge
      exact ⟨rfl, map_trimBy_of_isCharge isCharge' isCharge⟩

theorem read_count (written : m.IsWritten) :
    m.count.map Quantity.read = m.count.map fun numeral => (Decimal.value numeral : Int) := by
  refine Option.map_congr fun numeral listed => ?_
  obtain ⟨n, spelled, small⟩ := written.count numeral listed
  obtain ⟨-, -, rfl⟩ := Decimal.natural?_eq_some_iff.1 spelled
  exact Quantity.read_of_natural? spelled small

/-- The reading that is preferred keeps the name, the digits and the charge. -/
theorem moduleShape_match? (written : m.IsWritten) :
    ∃ caps, moduleShape.match? (m.name ++ m.tail) = some caps ∧ caps.get? 1 = some m.name ∧
      caps.get? 2 = m.count ∧ (caps.get? 3).map (Text.trimBy Text.isBlank) = m.charge := by
  rw [match?_eq_head?, moduleShape_eq]
  generalize start : [(Text.Mark.opening 0, m.name ++ m.tail)] = caps
  have read := readings_behindModule_ne_nil (Captures.keep 1 m.name m.tail caps) written.isTail
  obtain ⟨r, member⟩ := List.exists_mem_of_ne_nil _ read
  have intended : r ∈ (Text.Pattern.seq (.group 1 (.few isPlain)) behindModule).readings
      (caps, m.name ++ m.tail) :=
    (mem_readings_group (spans_few isPlain)).2 ⟨m.name, m.tail, rfl, written.name.isRun, member⟩
  obtain ⟨r, others, readings⟩ := List.exists_cons_of_ne_nil (List.ne_nil_of_mem intended)
  rw [readings, List.head?_cons]
  obtain ⟨front, rest, split, -, member, shortest⟩ := shortest_of_head? (congrArg List.head? readings)
  obtain ⟨isTail, named⟩ := tail_of_mem_readings member (by rw [← start]; rfl) (by rw [← start]; rfl)
  have short : front.length ≤ m.name.length := shortest m.name m.tail rfl written.name.isRun read
  -- The reading takes no more than the name; if it took less, the end of the name would be a count.
  obtain ⟨part, name⟩ : front <+: m.name := List.prefix_of_prefix_length_le ⟨_, split.symm⟩ ⟨_, rfl⟩ short
  obtain rfl : rest = part ++ m.tail := by
    rw [← name, List.append_assoc] at split
    exact (List.append_cancel_left split).symm
  obtain rfl := written.eq_nil_of_isTail name.symm isTail
  rw [List.append_nil] at name
  rw [Captures.get?_keep, if_pos rfl, name] at named
  obtain ⟨count, charge⟩ := written.tail_unique isTail
  refine ⟨_, rfl, ?_, ?_, ?_⟩ <;> rw [Captures.get?_cons_of_ne (by simp) (by simp)]
  · exact named
  · exact count
  · exact charge

/-- A row without the mark is read as what was written in it. -/
theorem stacks?_unmarked (written : m.IsWritten) : stacks? (m.name ++ m.tail) = some m.items := by
  obtain ⟨caps, found, name, count, charge⟩ := written.moduleShape_match?
  have kept := Text.trimBy_eq_self_iff.2 written.name.ends
  rw [stacks?, found, Option.map_some, items, ← written.read_count, ← charge]
  cases caps.get? 3 <;> simp [Captures.get, name, count, kept]

/-! ## The mark of a module that is switched off -/

theorem getLast?_offlineMark : offlineMark.getLast? = some 'E' := by
  decide

/-- Behind a space a text ends in the mark only if it is the mark without its space. -/
theorem eq_of_isSuffix {front word : List Char} (ends : offlineMark <:+ (front ++ [' ']) ++ word)
    (unmarked : ¬offlineMark <:+ word) : word = "/OFFLINE".toList := by
  obtain ⟨before, same⟩ := ends
  rcases List.append_eq_append_iff.1 same with ⟨more, spaced, mark⟩ | ⟨more, -, word⟩
  · cases more with
    | nil => exact absurd ⟨[], mark⟩ unmarked
    | cons c more =>
      obtain ⟨-, rest⟩ : ' ' = c ∧ "/OFFLINE".toList = more ++ word := List.cons.inj mark
      rcases List.eq_nil_or_concat' more with rfl | ⟨init, d, rfl⟩
      · exact rest.symm
      · have ending : front ++ [' '] = (before ++ c :: init) ++ [d] := by simp [spaced]
        obtain rfl : ' ' = d := List.singleton_inj.1 (List.append_inj_right' ending rfl)
        have spaceless : ' ' ∉ "/OFFLINE".toList := by decide
        simp [rest] at spaceless
  · exact absurd ⟨more, word.symm⟩ unmarked

theorem getLast?_count (written : m.IsWritten) {numeral : List Char} (listed : m.count = some numeral) :
    ∃ d, (m.name ++ countText m.count).getLast? = some d ∧ d.isDigit = true := by
  obtain ⟨n, spelled, -⟩ := written.count numeral listed
  have digits := isDigit_of_natural? spelled
  obtain ⟨init, d, rfl⟩ := (List.eq_nil_or_concat' numeral).resolve_left digits.1
  have split : m.name ++ countText m.count = (m.name ++ ' ' :: 'x' :: init) ++ [d] := by
    simp [listed, countText]
  exact ⟨d, by rw [split, List.getLast?_concat], digits.2 d (by simp)⟩

/-- A row without the mark ends in it in no other way. -/
theorem not_isSuffix (written : m.IsWritten) (on : m.offline = false) : ¬offlineMark <:+ m.name ++ m.tail := by
  intro ends
  rw [tail] at ends
  cases loaded : m.charge with
  | some word =>
    obtain ⟨-, unmarked, spelled⟩ := written.charge word loaded
    have spaced : m.name ++ (countText m.count ++ chargeText m.charge) =
        (m.name ++ (countText m.count ++ [',']) ++ [' ']) ++ word := by simp [loaded, chargeText]
    rw [spaced] at ends
    have off := spelled (eq_of_isSuffix ends unmarked)
    rw [on] at off
    cases off
  | none =>
    rw [loaded, chargeText, List.append_nil] at ends
    cases listed : m.count with
    | none =>
      rw [listed, countText, List.append_nil] at ends
      exact written.unmarked ends
    | some numeral =>
      obtain ⟨d, last, digit⟩ := written.getLast?_count listed
      obtain ⟨before, same⟩ := ends
      have mark : (before ++ offlineMark).getLast? = some 'E' := by
        rw [List.getLast?_append_of_ne_nil _ (by decide), getLast?_offlineMark]
      rw [same, last] at mark
      rw [Option.some.inj mark] at digit
      cases digit

theorem withoutEnding_text (written : m.IsWritten) :
    Text.withoutEnding offlineMark m.text = m.name ++ m.tail := by
  cases off : m.offline with
  | true =>
    have ending := Text.beforeEnding?_eq_some_iff.2 (Eq.refl ((m.name ++ m.tail) ++ offlineMark))
    rw [text, off, if_pos rfl, Text.withoutEnding, ending, Option.getD_some]
  | false =>
    have unmarked : offlineMark.isSuffixOf (m.name ++ m.tail) = false := by
      rw [← Bool.not_eq_true, List.isSuffixOf_iff_suffix]
      exact written.not_isSuffix off
    rw [text, off, if_neg Bool.false_ne_true, List.append_nil, Text.withoutEnding, Text.beforeEnding?, unmarked]
    rfl

/-! ## The ends of a row -/

theorem head?_text (written : m.IsWritten) : m.text.head? = m.name.head? := by
  rw [text, List.append_assoc, List.head?_append_of_ne_nil _ written.name.filled]

theorem ne_bracket (written : m.IsWritten) : ∀ c ∈ m.text.head?, c ≠ '[' := by
  intro c first
  rw [written.head?_text] at first
  have plain := written.name.plain c (List.mem_of_mem_head? first)
  rintro rfl
  cases plain

theorem endsKept_text (written : m.IsWritten) : EndsKept Text.isBlank m.text := by
  constructor
  · rw [written.head?_text]
    exact written.name.ends.1
  · cases off : m.offline with
    | true =>
      rw [text, off, if_pos rfl, List.getLast?_append_of_ne_nil _ (by decide), getLast?_offlineMark]
      intro c same
      rw [← Option.some.inj same]
      decide
    | false =>
      rw [text, off, if_neg Bool.false_ne_true, List.append_nil, tail]
      cases loaded : m.charge with
      | some word =>
        have isName := (written.charge word loaded).1
        rw [chargeText, ← List.append_assoc, List.getLast?_append_of_ne_nil _ (by simp),
          List.getLast?_cons_of_ne_nil (by simp), List.getLast?_cons_of_ne_nil isName.filled]
        exact isName.ends.2
      | none =>
        rw [chargeText, List.append_nil]
        cases listed : m.count with
        | none =>
          rw [countText, List.append_nil]
          exact written.name.ends.2
        | some numeral =>
          obtain ⟨d, last, digit⟩ := written.getLast?_count listed
          rw [← listed, last]
          intro c same
          rw [← Option.some.inj same]
          exact Text.isBlank_of_isDigit digit

end Module.IsWritten

/-! ## Rows and opening lines -/

/-- A shape that starts with a bracket fits no other text. -/
theorem fits_eq_false_of_head? {a : Text.Pattern} (other : ∀ c ∈ s.head?, c ≠ '[') :
    (Text.Pattern.seq (.text "[") a).fits s = false := by
  rw [fits_eq_false_iff, List.eq_nil_iff_forall_not_mem]
  intro r member
  obtain ⟨-, rest, rfl, rfl, -⟩ := (mem_readings_span (spans_text "[")).1 member
  exact other '[' rfl rfl

/-- An opening line is a ship in front of the first comma and a name behind the white space after it. -/
theorem mem_readings_header : r ∈ headerShape.readings (caps, s) ↔
    ∃ ship blanks name, s = '[' :: (ship ++ ',' :: (blanks ++ (name ++ [']']))) ∧
      IsRun (Format.noneOf ",]") ship ∧ (∀ c ∈ blanks, Text.isBlank c = true) ∧
      (∀ c ∈ name, Format.noneOf "]" c = true) ∧
      r = (Captures.keep 2 name [']'] (Captures.keep 1 ship (',' :: (blanks ++ (name ++ [']']))) caps), []) := by
  simp only [headerShape, Format.line, List.cons_append, List.nil_append, all, List.foldr_cons,
    List.foldr_nil, mem_readings_span (spans_text _), mem_readings_group (spans_many _),
    mem_readings_span (spans_eager _), mem_readings_group (spans_eager _), mem_readings_end]
  constructor
  · rintro ⟨-, -, rfl, rfl, ship, -, rfl, isShip, -, -, rfl, rfl, blanks, -, rfl, blank, name, -, rfl, inside, -, -,
      rfl, rfl, rfl, rfl⟩
    exact ⟨ship, blanks, name, by simp, isShip, blank, inside, rfl⟩
  · rintro ⟨ship, blanks, name, rfl, isShip, blank, inside, rfl⟩
    exact ⟨_, _, rfl, rfl, ship, _, rfl, isShip, _, _, rfl, rfl, blanks, _, rfl, blank, name, _, rfl, inside, _, _,
      rfl, rfl, rfl, rfl⟩

theorem headerShape_fits_eq_false (commaless : ',' ∉ s) : headerShape.fits s = false := by
  rw [fits_eq_false_iff, List.eq_nil_iff_forall_not_mem]
  intro r member
  obtain ⟨ship, blanks, name, rfl, -⟩ := mem_readings_header.1 member
  simp at commaless

theorem endsKept_of_brackets (s : List Char) : EndsKept Text.isBlank ('[' :: (s ++ [']'])) := by
  constructor
  · intro c first
    obtain rfl : '[' = c := Option.some.inj first
    decide
  · intro c last
    rw [← List.cons_append, List.getLast?_concat] at last
    rw [← Option.some.inj last]
    decide

theorem endsKept_openingText (ship name : List Char) : EndsKept Text.isBlank (openingText ship name) := by
  have closed : openingText ship name = '[' :: ((ship ++ ',' :: ' ' :: name) ++ [']']) := by
    simp [openingText]
  rw [closed]
  exact endsKept_of_brackets _

theorem emptySlotShape_fits {letter : Char} {label : List Char} (capital : letter = 'E' ∨ letter = 'e')
    (labelled : IsRun (Format.noneOf "]") label) :
    emptySlotShape.fits (Row.emptySlot letter label).text = true := by
  have read : ∃ r, r ∈ emptySlotShape.readings ([], (Row.emptySlot letter label).text) := by
    simp only [emptySlotShape, Format.line, List.cons_append, List.nil_append, all, List.foldr_cons,
      List.foldr_nil, mem_readings_span (spans_text _), mem_readings_span (spans_one _),
      mem_readings_span (spans_many _), mem_readings_end]
    exact ⟨_, _, _, rfl, rfl, [letter], _, rfl, ⟨letter, rfl, by simpa using capital⟩, _, _, rfl, rfl, label, _,
      rfl, labelled, [']'], [], rfl, rfl, rfl, rfl⟩
  obtain ⟨r, member⟩ := read
  exact (fits_iff _ _).2 (List.ne_nil_of_mem member)

namespace Row

variable {row : Row}

/-- No row opens another block. -/
theorem headerShape_fits (written : row.IsWritten) : headerShape.fits row.text = false := by
  cases row with
  | blank => exact fits_eq_false_of_head? (by simp [text])
  | emptySlot letter label =>
    obtain ⟨capital, labelled⟩ := written
    refine headerShape_fits_eq_false fun member => ?_
    have inLabel : ',' ∈ label := by
      rcases capital with rfl | rfl <;> simpa [text] using member
    cases labelled.2 ',' inLabel
  | fitted m => exact fits_eq_false_of_head? (Module.IsWritten.ne_bracket written)

/-- Every row is read as what it stands for. -/
theorem read?_text (written : row.IsWritten) : read? row.text = some row.items := by
  cases row with
  | blank => rfl
  | emptySlot letter label =>
    obtain ⟨capital, labelled⟩ := written
    have unclosed : IsRun (Format.noneOf "]") label :=
      ⟨labelled.1, fun c member => noneOf_of_subset (by decide) (labelled.2 c member)⟩
    rw [read?, emptySlotShape_fits capital unclosed, Bool.or_true, if_pos rfl]
    rfl
  | fitted m =>
    have filled : m.text.isEmpty = false := by
      simp [Module.text, (Module.IsWritten.name written).filled]
    have other : emptySlotShape.fits m.text = false :=
      fits_eq_false_of_head? (Module.IsWritten.ne_bracket written)
    rw [text, read?, filled, other, Bool.or_false, if_neg Bool.false_ne_true,
      Module.IsWritten.withoutEnding_text written, Module.IsWritten.stacks?_unmarked written]
    rfl

theorem endsKept_text (written : row.IsWritten) : EndsKept Text.isBlank row.text := by
  cases row with
  | blank => exact ⟨by simp [text], by simp [text]⟩
  | emptySlot letter label =>
    have closed : text (emptySlot letter label) = '[' :: ((letter :: ("mpty ".toList ++ label)) ++ [']']) := by
      simp [text]
    rw [closed]
    exact endsKept_of_brackets _
  | fitted m => exact Module.IsWritten.endsKept_text written

/-- A line with a row that can be written. -/
structure IsOn (line : Line) (row : Row) : Prop where
  written : row.IsWritten
  shown : line.Shows row.text

theorem IsOn.clean {line : Line} (isOn : IsOn line row) : line.clean = row.text :=
  Line.clean_of_shows isOn.shown (endsKept_text isOn.written)

end Row

theorem unopened_of_rows {lines : List Line} {rows : List Row} (shown : List.Forall₂ Row.IsOn lines rows) :
    ∀ line ∈ lines, headerShape.fits line.clean = false := by
  induction shown with
  | nil => simp
  | cons isOn _ ih =>
    refine List.forall_mem_cons.2 ⟨?_, ih⟩
    rw [isOn.clean, Row.headerShape_fits isOn.written]

/-- Lines with rows are all taken, and give what the rows stand for. -/
theorem entries_of_rows {lines : List Line} {rows : List Row} (shown : List.Forall₂ Row.IsOn lines rows) :
    (entries lines).map (·.1) = lines.map (·.number) ∧
      (entries lines).flatMap (·.2) = rows.flatMap Row.items := by
  induction shown with
  | nil => exact ⟨rfl, rfl⟩
  | @cons line row lines rows isOn _ ih =>
    have read : entries (line :: lines) = (line.number, row.items) :: entries lines := by
      rw [entries, List.filterMap_cons, isOn.clean, Row.read?_text isOn.written]
      rfl
    rw [read]
    exact ⟨congrArg (line.number :: ·) ih.1, congrArg (row.items ++ ·) ih.2⟩

theorem header?_openingText {ship name : List Char} (isShip : IsName ship) (kept : EndsKept Text.isBlank name)
    (closed : ']' ∉ name) :
    header? (openingText ship name) = some (String.ofList ship, String.ofList name) := by
  have plain : ∀ c ∈ ship, Format.noneOf ",]" c = true := fun c member =>
    noneOf_of_subset (by decide) (isShip.plain c member)
  rw [header?, map_match?_eq_some_iff (· = (String.ofList ship, String.ofList name))]
  · intro r member
    obtain ⟨ship', blanks, name', same, isShip', blank, inside, rfl⟩ := mem_readings_header.1 member
    obtain ⟨rfl, behind⟩ := append_inj_of_front (List.cons.inj same).2 plain isShip'.2
      (by simp [Format.noneOf]) (by simp [Format.noneOf])
    have spaced : ' ' :: name = blanks ++ name' := by
      have closed := (List.cons.inj behind).2
      rw [← List.cons_append, ← List.append_assoc] at closed
      exact List.append_cancel_right closed
    have trimmed : Text.trimBy Text.isBlank name' = name := by
      rw [← Text.trimBy_append_left blank, ← spaced, ← List.singleton_append, Text.trimBy_append_left isBlank_of_mem_space,
        Text.trimBy_eq_self_iff.2 kept]
    simp [Captures.get, Captures.get?_cons_of_ne, Captures.get?_keep, trimmed,
      Text.trimBy_eq_self_iff.2 isShip.ends]
  · rintro - rfl
    have inside : ∀ c ∈ name, Format.noneOf "]" c = true := by
      intro c member
      have other : c ≠ ']' := fun same => closed (same ▸ member)
      simpa [Format.noneOf] using other
    exact ⟨_, mem_readings_header.2 ⟨ship, [' '], name, rfl, ⟨isShip.filled, plain⟩, isBlank_of_mem_space, inside, rfl⟩⟩
  · rintro _ _ rfl rfl
    rfl

end Fitting

open Fitting

/-- A block reads back: it takes the opening line and every row below it up to the next opening line, and gives
the ship, the name and what the rows stand for, in their order. -/
theorem read_fitting (types : TypeCatalog) (paste : Paste) {opening : Line} {lines later : List Line}
    {ship name : List Char} {rows : List Row} (whole : paste.lines = opening :: (lines ++ later))
    (isShip : IsName ship) (kept : EndsKept Text.isBlank name) (closed : ']' ∉ name)
    (opens : opening.Shows (openingText ship name)) (shown : List.Forall₂ Row.IsOn lines rows)
    (next : ∀ line ∈ later.head?, headerShape.fits line.clean = true) :
    let taken := (opening :: lines).map (·.number)
    Kind.fitting.read types paste =
        ⟨.fitting ⟨String.ofList ship, String.ofList name, rows.flatMap Row.items⟩, taken⟩ ∧
      (paste.without taken).lines = later := by
  intro taken
  have header : header? opening.clean = some (String.ofList ship, String.ofList name) := by
    rw [Line.clean_of_shows opens (endsKept_openingText ship name), header?_openingText isShip kept closed]
  have opened : headerShape.fits opening.clean = true := by
    rw [← isSome_header?, header, Option.isSome_some]
  have unopened := unopened_of_rows shown
  have block : block paste = opening :: lines := by
    have rest : (lines ++ later).takeWhile (fun line => !headerShape.fits line.clean) = lines := by
      rw [List.takeWhile_append_of_pos fun line member => by rw [unopened line member]; rfl]
      cases later with
      | nil => exact List.append_nil lines
      | cons line later => simp [next line rfl]
    rw [block, whole, List.dropWhile_cons, opened]
    simp [rest]
  obtain ⟨numbers, items⟩ := entries_of_rows shown
  constructor
  · rw [Kind.read, readBlock, block]
    simp only [header, Option.map_some, numbers, items]
    rfl
  · rw [← List.cons_append] at whole
    exact Paste.lines_without_front whole

/-! ## A fitting with every kind of row -/

namespace Fitting

/-- A name whose last character is neither a digit nor a separator does not end in a count. -/
theorem uncounted_of_getLast? {name : List Char} {c : Char} (last : name.getLast? = some c)
    (other : isNumeric c = false) (front numeral : List Char) (counted : IsRun isNumeric numeral) :
    name ≠ front ++ ' ' :: 'x' :: numeral := by
  rintro rfl
  obtain ⟨init, d, rfl⟩ := (List.eq_nil_or_concat' numeral).resolve_left counted.1
  have ending : front ++ ' ' :: 'x' :: (init ++ [d]) = (front ++ ' ' :: 'x' :: init) ++ [d] := by simp
  rw [ending, List.getLast?_concat] at last
  rw [← Option.some.inj last, counted.2 d (by simp)] at other
  cases other

/-- A module that can be written, from what can be checked of it and the last character of its name. -/
theorem Module.isWritten_of_getLast? {m : Module} {c : Char} (name : IsName m.name)
    (unmarked : ¬offlineMark <:+ m.name) (last : m.name.getLast? = some c) (other : isNumeric c = false)
    (count : ∀ numeral ∈ m.count, ∃ n, Decimal.natural? numeral = some n ∧ (n : Int) ≤ Quantity.greatest)
    (charge : ∀ charge ∈ m.charge, IsName charge ∧ ¬offlineMark <:+ charge ∧
      (charge = "/OFFLINE".toList → m.offline = true)) : m.IsWritten where
  name := name
  unmarked := unmarked
  uncounted := uncounted_of_getLast? last other
  count := count
  charge := charge

namespace Rifter

/-- The lines below the opening line. -/
def lines : List Line :=
  [⟨2, " "⟩, ⟨3, "[Empty Low slot]"⟩, ⟨4, "Gun II /OFFLINE"⟩, ⟨5, "Drone x5"⟩, ⟨6, "Gun x, EMP"⟩,
    ⟨7, "Rack x2, Cap 5 /OFFLINE"⟩]

/-- The rows that they show. -/
def rows : List Row :=
  [.blank, .emptySlot 'E' "Low slot".toList,
    .fitted { name := "Gun II".toList, offline := true },
    .fitted { name := "Drone".toList, count := some "5".toList },
    .fitted { name := "Gun x".toList, charge := some "EMP".toList },
    .fitted { name := "Rack".toList, count := some "2".toList, charge := some "Cap 5".toList, offline := true }]

/-- A fitting with rows of every layout, and the opening line of another one. -/
def paste : Paste where
  lines := ⟨1, "[Rifter, Main]"⟩ :: (lines ++ [⟨8, "[Rifter, Two]"⟩, ⟨9, "Tritanium"⟩])
  ascending := by decide

theorem isOn : List.Forall₂ Row.IsOn lines rows := by
  have plain {n : Nat} {s : String} {row : Row} (same : s.toList = row.text) : Line.Shows ⟨n, s⟩ row.text :=
    ⟨[], [], by simpa using same, by simp, by simp⟩
  refine .cons ⟨trivial, [' '], [], rfl, List.all_eq_true.1 (by decide), by simp⟩ <| .cons ⟨?_, plain (by decide)⟩ <|
    .cons ⟨?_, plain (by decide)⟩ <| .cons ⟨?_, plain (by decide)⟩ <| .cons ⟨?_, plain (by decide)⟩ <|
    .cons ⟨?_, plain (by decide)⟩ .nil
  · exact ⟨.inl rfl, by decide⟩
  · exact Module.isWritten_of_getLast? (by decide) (by decide) rfl (by decide) (by simp) (by simp)
  · exact Module.isWritten_of_getLast? (by decide) (by decide) rfl (by decide)
      (fun _ listed => Option.some.inj listed ▸ ⟨5, by decide, by decide⟩) (by simp)
  · exact Module.isWritten_of_getLast? (by decide) (by decide) rfl (by decide) (by simp)
      (fun _ loaded => Option.some.inj loaded ▸ by decide)
  · exact Module.isWritten_of_getLast? (by decide) (by decide) rfl (by decide)
      (fun _ listed => Option.some.inj listed ▸ ⟨2, by decide, by decide⟩)
      (fun _ loaded => Option.some.inj loaded ▸ by decide)

end Rifter

end Fitting

theorem read_fitting_of_rifter :
    Kind.fitting.read (.ofEntries [] .nil) Rifter.paste = ⟨.fitting ⟨"Rifter", "Main",
        [⟨"Gun II", 1⟩, ⟨"Drone", 5⟩, ⟨"Gun x", 1⟩, ⟨"EMP", 1⟩, ⟨"Rack", 2⟩, ⟨"Cap 5", 1⟩]⟩,
      [1, 2, 3, 4, 5, 6, 7]⟩ ∧
    (Rifter.paste.without [1, 2, 3, 4, 5, 6, 7]).lines = [⟨8, "[Rifter, Two]"⟩, ⟨9, "Tritanium"⟩] := by
  have opens : Line.Shows ⟨1, "[Rifter, Main]"⟩ (openingText "Rifter".toList "Main".toList) :=
    ⟨[], [], by decide, by simp, by simp⟩
  have next : headerShape.fits (Line.clean ⟨8, "[Rifter, Two]"⟩) = true := by
    rw [Text.Pattern.fits_iff]
    decide +kernel
  have kept : EndsKept Text.isBlank "Main".toList := Text.trimBy_eq_self_iff.1 (by decide)
  exact read_fitting _ Rifter.paste rfl (by decide) kept (by decide) opens Rifter.isOn
    (fun _ first => Option.some.inj first ▸ next)

/-- A charge that is spelled like the mark is lost where the mark does not follow it, and a line that holds
only a tab is left over. -/
theorem read_fitting_differs :
    (IsName "Gun".toList ∧ IsName "/OFFLINE".toList ∧ ¬offlineMark <:+ "/OFFLINE".toList ∧
      Module.text { name := "Gun".toList, charge := some "/OFFLINE".toList } = "Gun, /OFFLINE".toList) ∧
    Kind.fitting.read (.ofEntries [] .nil) (Paste.ofText "[Rifter, F]\nGun, /OFFLINE") =
      ⟨.fitting ⟨"Rifter", "F", []⟩, [1]⟩ ∧
    Kind.fitting.read (.ofEntries [] .nil) (Paste.ofText "[Rifter, F]\n\t\nGun") =
      ⟨.fitting ⟨"Rifter", "F", [⟨"Gun", 1⟩]⟩, [1, 3]⟩ := by
  have marked : readBlock (Paste.ofText "[Rifter, F]\nGun, /OFFLINE") = some (⟨"Rifter", "F", []⟩, [1]) := by
    simp only [readBlock, block, header?, entries, read?, stacks?, Text.Pattern.fits,
      Text.Pattern.match?_eq_head?]
    decide +kernel
  have tabbed : readBlock (Paste.ofText "[Rifter, F]\n\t\nGun") =
      some (⟨"Rifter", "F", [⟨"Gun", 1⟩]⟩, [1, 3]) := by
    simp only [readBlock, block, header?, entries, read?, stacks?, Text.Pattern.fits,
      Text.Pattern.match?_eq_head?]
    decide +kernel
  refine ⟨by decide, ?_, ?_⟩
  · rw [Kind.read, marked]
  · rw [Kind.read, tabbed]

end ItemAppraisal
