import ItemAppraisal.Format.Listing
import ItemAppraisal.Proofs.DigitGroups

/-!
# Names and quantities of a listing

A line that is a quantity and a name, or a name and a quantity, is read as that name and that quantity,
whatever digits the name holds. The first layout has one reading (`quantityFirst_match?`). In the second the
name takes the shortest run that works: a shorter one would have to end inside the name, and what follows it
there is neither a separator nor a number (`eq_name_of_shortest`). Main statement: `read?_layouts`.
-/

namespace ItemAppraisal

open Text (IsRun Captures EndsKept)

/-! ## Runs at an end of a text -/

/-- A run of a class is followed by no character of it in one way only. -/
theorem append_inj_of_front {p : Char → Bool} {run run' rest rest' : List Char}
    (same : run ++ rest = run' ++ rest') (inside : ∀ c ∈ run, p c = true) (inside' : ∀ c ∈ run', p c = true)
    (stop : ∀ c ∈ rest.head?, p c = false) (stop' : ∀ c ∈ rest'.head?, p c = false) :
    run = run' ∧ rest = rest' := by
  rcases List.append_eq_append_iff.1 same with ⟨more, rfl, rfl⟩ | ⟨more, rfl, rfl⟩
  · cases more with
    | nil => simp
    | cons c more => simp [inside' c (by simp)] at stop
  · cases more with
    | nil => simp
    | cons c more => simp [inside c (by simp)] at stop'

/-- A run of a class stands behind no character of it in one way only. -/
theorem append_inj_of_back {p : Char → Bool} {run run' front front' : List Char}
    (same : front ++ run = front' ++ run') (inside : ∀ c ∈ run, p c = true)
    (inside' : ∀ c ∈ run', p c = true)
    (stop : ∀ c ∈ front.getLast?, p c = false) (stop' : ∀ c ∈ front'.getLast?, p c = false) :
    front = front' ∧ run = run' := by
  rcases List.append_eq_append_iff.1 same with ⟨more, rfl, rfl⟩ | ⟨more, rfl, rfl⟩
  · rcases List.eq_nil_or_concat' more with rfl | ⟨init, c, rfl⟩
    · simp
    · simp [inside c (by simp)] at stop'
  · rcases List.eq_nil_or_concat' more with rfl | ⟨init, c, rfl⟩
    · simp
    · simp [inside' c (by simp)] at stop

/-! ## Numerals -/

open Format (isVisible isNumeric)

theorem isNumeric_of_isDigit {c : Char} (digit : c.isDigit = true) : isNumeric c = true := by
  simp [isNumeric, Text.isDigit_of_ascii digit]

theorem isNumeric_of_isBlank {c : Char} (blank : Text.isBlank c = true) : isNumeric c = false :=
  Text.forall_isBlank (Q := fun d => isNumeric d = false) (by decide +kernel) blank

theorem isBlank_of_isNumeric {c : Char} (numeric : isNumeric c = true) : Text.isBlank c = false := by
  rw [← Bool.not_eq_true]
  intro blank
  rw [isNumeric_of_isBlank blank] at numeric
  cases numeric

theorem Line.isBlank_of_isPadding {c : Char} (padding : isPadding c = true) : Text.isBlank c = true := by
  simp only [isPadding, Bool.or_eq_true, beq_iff_eq] at padding
  rcases padding with (rfl | rfl) | rfl <;> decide

theorem Line.isBlank_of_isSpacing {c : Char} (spacing : isSpacing c = true) : Text.isBlank c = true := by
  simp only [isSpacing, Bool.or_eq_true, beq_iff_eq] at spacing
  rcases spacing with (rfl | rfl) | rfl <;> decide

namespace Format.Listing
open Text.Pattern

variable {types : TypeCatalog} {name numeral : List Char} {s : List Char}

/-- A name as listings can hold it: visible characters, with no space at an end. -/
structure IsSpelled (name : List Char) : Prop where
  nonempty : name ≠ []
  shown : ∀ c ∈ name, isVisible c = true
  ends : EndsKept Text.isBlank name

/-- The letter that may stand between a number and a name. -/
def IsTimes (mark : List Char) : Prop :=
  mark = [] ∨ mark = ['x'] ∨ mark = ['X']

theorem spans_times : Spans times IsTimes := by
  refine (spans_one _).optional.congr fun mark => ?_
  constructor
  · rintro (⟨c, rfl, isTimes⟩ | rfl)
    · simpa [IsTimes] using isTimes
    · exact .inl rfl
  · rintro (rfl | rfl | rfl)
    · exact .inr rfl
    · exact .inl ⟨'x', rfl, rfl⟩
    · exact .inl ⟨'X', rfl, rfl⟩

theorem isNumeric_of_mem_isTimes {mark : List Char} (isTimes : IsTimes mark) {c : Char} (member : c ∈ mark) :
    isNumeric c = false := by
  rcases isTimes with rfl | rfl | rfl
  · cases member
  · obtain rfl := List.mem_singleton.1 member
    decide
  · obtain rfl := List.mem_singleton.1 member
    decide

/-! ## The quantity in front -/

/-- What stands between a quantity and the name behind it. -/
def IsGap (gap : List Char) : Prop :=
  ∃ blanks mark more, gap = blanks ++ (mark ++ more) ∧ (∀ c ∈ blanks, Text.isBlank c = true) ∧
    IsTimes mark ∧ IsRun Text.isBlank more

theorem not_isNumeric_of_isGap {gap : List Char} (isGap : IsGap gap) (rest : List Char) :
    ∀ c ∈ (gap ++ rest).head?, isNumeric c = false := by
  obtain ⟨blanks, mark, more, rfl, blank, isTimes, space⟩ := isGap
  obtain ⟨d, more, rfl, first, -⟩ := Text.isRun_iff_exists.1 space
  cases blanks with
  | nil =>
    rcases isTimes with rfl | rfl | rfl
    · simpa using isNumeric_of_isBlank first
    · simp [isNumeric, Text.isDigit]
    · simp [isNumeric, Text.isDigit]
  | cons e blanks => simpa using isNumeric_of_isBlank (blank e List.mem_cons_self)

/-- A space is the only gap in front of a name that does not start with the letter and another one. -/
theorem eq_name_of_isGap {gap shown : List Char} (spelled : IsSpelled name)
    (unmarked : ∀ c rest, name = c :: ' ' :: rest → c ≠ 'x' ∧ c ≠ 'X') (isGap : IsGap gap)
    (same : ' ' :: name = gap ++ shown) : shown = name := by
  obtain ⟨blanks, mark, more, rfl, blank, isTimes, space⟩ := isGap
  obtain ⟨d, more, rfl, first, later⟩ := Text.isRun_iff_exists.1 space
  -- The first character of the name is no white space, so it cannot stand in a run of it.
  have front {c : Char} {rest : List Char} (starts : name = c :: rest) : Text.isBlank c ≠ true := by
    simp [spelled.ends.1 c (by simp [starts])]
  cases blanks with
  | nil =>
    rcases isTimes with rfl | rfl | rfl
    · obtain ⟨-, same⟩ := List.cons.inj same
      cases more with
      | nil => exact same.symm
      | cons e more => exact absurd (later e List.mem_cons_self) (front same)
    · cases (List.cons.inj same).1
    · cases (List.cons.inj same).1
  | cons e blanks =>
    obtain ⟨-, same⟩ := List.cons.inj same
    obtain ⟨-, blank⟩ := List.forall_mem_cons.1 blank
    cases blanks with
    | cons e blanks => exact absurd (blank e List.mem_cons_self) (front same)
    | nil =>
      have spaced {letter : Char} (starts : name = letter :: d :: (more ++ shown)) : d = ' ' := by
        have visible := spelled.shown d (by simp [starts])
        simpa [isVisible, first] using visible
      rcases isTimes with rfl | rfl | rfl
      · exact absurd first (front same)
      · obtain rfl := spaced same
        exact absurd rfl (unmarked _ _ same).1
      · obtain rfl := spaced same
        exact absurd rfl (unmarked _ _ same).2

theorem quantityFirst_match? (spelled : IsSpelled name) (counted : IsRun isNumeric numeral)
    (unmarked : ∀ c rest, name = c :: ' ' :: rest → c ≠ 'x' ∧ c ≠ 'X') :
    (quantityFirst.match? (numeral ++ ' ' :: name)).map (fun caps => (caps.get 1, caps.get 2)) =
      some (numeral, name) := by
  rw [map_match?_eq_some_iff (· = (numeral, name))]
  · intro r member
    simp only [quantityFirst, line, List.cons_append, List.nil_append, all, List.foldr_cons, List.foldr_nil,
      number, visible, mem_readings_group (spans_many _), mem_readings_span (spans_many _),
      mem_readings_span (spans_eager _), mem_readings_span spans_times, mem_readings_end] at member
    obtain ⟨number, -, split, numeric, blanks, -, rfl, blank, mark, -, rfl, isTimes, more, -, rfl, space,
      shown, -, rfl, visible, rfl, rfl⟩ := member
    rw [List.append_nil] at split
    have isGap : IsGap (blanks ++ (mark ++ more)) := ⟨blanks, mark, more, rfl, blank, isTimes, space⟩
    have parted : numeral ++ ' ' :: name = number ++ (blanks ++ (mark ++ more) ++ shown) := by
      simpa using split
    obtain ⟨rfl, behind⟩ := append_inj_of_front parted counted.2 numeric.2
      (by simpa using isNumeric_of_isBlank rfl) (not_isNumeric_of_isGap isGap shown)
    obtain rfl := eq_name_of_isGap spelled unmarked isGap behind
    simp [Captures.get, Captures.get?_cons_of_ne, Captures.get?_keep]
  · rintro - rfl
    simp only [quantityFirst, line, List.cons_append, List.nil_append, all, List.foldr_cons, List.foldr_nil,
      number, visible, mem_readings_group (spans_many _), mem_readings_span (spans_many _),
      mem_readings_span (spans_eager _), mem_readings_span spans_times, mem_readings_end]
    exact ⟨_, numeral, _, rfl, counted, [], _, rfl, by simp, [], _, rfl, .inl rfl, [' '], _, rfl,
      by decide, name, [], by simp, ⟨spelled.nonempty, spelled.shown⟩, rfl, rfl⟩
  · rintro _ _ rfl rfl
    rfl

/-! ## The quantity at the end -/

/-- A mark between a name and a quantity. -/
def isSeparator (c : Char) : Bool :=
  Text.isBlank c || c == ':'

/-- What stands between a name and the quantity behind it. -/
def IsJoint (joint : List Char) : Prop :=
  ∃ marks mark blanks, joint = marks ++ (mark ++ blanks) ∧ IsRun isSeparator marks ∧ IsTimes mark ∧
    ∀ c ∈ blanks, Text.isBlank c = true

/-- What may end a name that stands in front of a joint and a quantity. -/
structure IsClosed (name : List Char) : Prop where
  colon : name.getLast? ≠ some ':'
  times : ∀ front separator letter, name = front ++ [separator, letter] →
    separator = ' ' ∨ separator = ':' → letter ≠ 'x' ∧ letter ≠ 'X'

theorem isNumeric_of_mem_isJoint {joint : List Char} (isJoint : IsJoint joint) {c : Char}
    (member : c ∈ joint) : isNumeric c = false := by
  obtain ⟨marks, mark, blanks, rfl, separators, isTimes, blank⟩ := isJoint
  simp only [List.mem_append] at member
  rcases member with inMarks | inMark | inBlanks
  · have separator := separators.2 c inMarks
    rw [isSeparator, Bool.or_eq_true, beq_iff_eq] at separator
    rcases separator with blank | rfl
    · exact isNumeric_of_isBlank blank
    · decide
  · exact isNumeric_of_mem_isTimes isTimes inMark
  · exact isNumeric_of_isBlank (blank c inBlanks)

/-- A character that is neither white space nor a separator stands in a joint as its mark. -/
theorem eq_marks_of_isTimes {marks mark blanks init joint : List Char} {c : Char} (letter : isSeparator c = false)
    (separators : ∀ d ∈ marks, isSeparator d = true) (isTimes : IsTimes mark)
    (blank : ∀ d ∈ blanks, Text.isBlank d = true) (same : init ++ c :: joint = marks ++ (mark ++ blanks)) :
    init = marks ∧ mark = [c] := by
  have outside (before after : List Char) : blanks ≠ before ++ c :: after := by
    rintro rfl
    have white := blank c (by simp)
    simp [isSeparator, white] at letter
  rcases List.append_eq_append_iff.1 same with ⟨more, rfl, rest⟩ | ⟨more, rfl, rest⟩
  · cases more with
    | nil =>
      rcases isTimes with rfl | rfl | rfl
      · exact absurd rest.symm (outside [] joint)
      · exact ⟨(List.append_nil _).symm, by rw [(List.cons.inj rest).1]⟩
      · exact ⟨(List.append_nil _).symm, by rw [(List.cons.inj rest).1]⟩
    | cons d more =>
      obtain ⟨rfl, -⟩ := List.cons.inj rest
      rw [separators c (by simp)] at letter
      cases letter
  · cases more with
    | nil =>
      rcases isTimes with rfl | rfl | rfl
      · exact absurd rest (outside [] joint)
      · exact ⟨List.append_nil _, by rw [(List.cons.inj rest).1]⟩
      · exact ⟨List.append_nil _, by rw [(List.cons.inj rest).1]⟩
    | cons d more =>
      rcases isTimes with rfl | rfl | rfl
      · exact absurd rest (outside (d :: more) joint)
      · exact absurd (List.cons.inj rest).2 (outside more joint)
      · exact absurd (List.cons.inj rest).2 (outside more joint)

/-- No end of a name can be taken for the front of what stands between it and the quantity. -/
theorem eq_nil_of_isJoint {front part joint joint' : List Char} (spelled : IsSpelled (front ++ part))
    (closed : IsClosed (front ++ part)) (isJoint : IsJoint joint') (same : part ++ joint = joint') :
    part = [] := by
  obtain ⟨marks, mark, blanks, rfl, separators, isTimes, blank⟩ := isJoint
  rcases List.eq_nil_or_concat' part with rfl | ⟨init, c, rfl⟩
  · rfl
  have letter : isSeparator c = false := by
    have filled : Text.isBlank c = false := spelled.ends.2 c (by simp)
    have other : c ≠ ':' := by
      rintro rfl
      exact closed.colon (by simp)
    simp [isSeparator, filled, other]
  -- The last character of the name is the letter, and what stands before it is the separators.
  rw [List.append_assoc, List.singleton_append] at same
  obtain ⟨rfl, rfl⟩ := eq_marks_of_isTimes letter separators.2 isTimes blank same
  rcases List.eq_nil_or_concat' init with rfl | ⟨more, d, rfl⟩
  · exact absurd rfl separators.1
  have separator : d = ' ' ∨ d = ':' := by
    have visible := spelled.shown d (by simp)
    have either := separators.2 d (by simp)
    rw [isSeparator, Bool.or_eq_true, beq_iff_eq] at either
    rcases either with white | colon
    · exact .inl (by simpa [isVisible, white] using visible)
    · exact .inr colon
  have ending := closed.times (front ++ more) d c (by simp) separator
  rcases isTimes with isTimes | isTimes | isTimes
  · cases isTimes
  · exact absurd (List.singleton_inj.1 isTimes) ending.1
  · exact absurd (List.singleton_inj.1 isTimes) ending.2

theorem isNumeric_of_getLast? (front : List Char) {joint : List Char} (isJoint : IsJoint joint) :
    ∀ c ∈ (front ++ joint).getLast?, isNumeric c = false := by
  intro c last
  have some : joint ≠ [] := by
    obtain ⟨marks, mark, blanks, rfl, separators, -, -⟩ := isJoint
    simp [separators.1]
  rw [List.getLast?_append_of_ne_nil _ some] at last
  exact isNumeric_of_mem_isJoint isJoint (List.mem_of_getLast? last)

/-- The shape of what stands behind a name. -/
def behindName : Text.Pattern :=
  .seq (.many isSeparator) (.seq times (.seq (.eager Text.isBlank)
    (.seq (.group 2 number) (.seq .atEnd .empty))))

theorem quantityLast_eq : quantityLast = .seq (.group 1 (.few isVisible)) behindName := rfl

theorem mem_readings_behindName {caps : Captures} {rest : List Char} {r : Captures × List Char} :
    r ∈ behindName.readings (caps, rest) ↔ ∃ joint numeral, rest = joint ++ numeral ∧ IsJoint joint ∧
      IsRun isNumeric numeral ∧ r = (caps.keep 2 numeral [], []) := by
  simp only [behindName, number, mem_readings_group (spans_many _), mem_readings_span (spans_many _),
    mem_readings_span (spans_eager _), mem_readings_span spans_times, mem_readings_end]
  constructor
  · rintro ⟨marks, -, rfl, separators, mark, -, rfl, isTimes, blanks, -, rfl, blank, numeral, -, rfl,
      counted, rfl, rfl⟩
    exact ⟨marks ++ (mark ++ blanks), numeral, by simp,
      ⟨marks, mark, blanks, rfl, separators, isTimes, blank⟩, counted, rfl⟩
  · rintro ⟨-, numeral, rfl, ⟨marks, mark, blanks, rfl, separators, isTimes, blank⟩, counted, rfl⟩
    exact ⟨marks, mark ++ (blanks ++ numeral), by simp, separators, mark, _, rfl, isTimes, blanks, _, rfl,
      blank, numeral, [], by simp, counted, rfl, rfl⟩

theorem quantityLast_match? (spelled : IsSpelled name) (closed : IsClosed name) {joint : List Char}
    (isJoint : IsJoint joint) (counted : IsRun isNumeric numeral) :
    (quantityLast.match? (name ++ (joint ++ numeral))).map (fun caps => (caps.get 1, caps.get 2)) =
      some (name, numeral) := by
  have run : IsRun isVisible name := ⟨spelled.nonempty, spelled.shown⟩
  rw [match?_eq_head?, quantityLast_eq]
  generalize start : [(Text.Mark.opening 0, name ++ (joint ++ numeral))] = caps
  have after {caps : Captures} :
      (caps.keep 2 numeral [], []) ∈ behindName.readings (caps, joint ++ numeral) :=
    mem_readings_behindName.2 ⟨joint, numeral, rfl, isJoint, counted, rfl⟩
  have intended : (Captures.keep 2 numeral [] (Captures.keep 1 name (joint ++ numeral) caps), []) ∈
      (Text.Pattern.seq (.group 1 (.few isVisible)) behindName).readings (caps, name ++ (joint ++ numeral)) :=
    (mem_readings_group (spans_few isVisible)).2 ⟨name, _, rfl, run, after⟩
  obtain ⟨r, others, readings⟩ := List.exists_cons_of_ne_nil (List.ne_nil_of_mem intended)
  rw [readings, List.head?_cons]
  obtain ⟨front, rest, split, -, member, shortest⟩ := shortest_of_head? (congrArg List.head? readings)
  obtain ⟨joint', numeral', rfl, isJoint', counted', rfl⟩ := mem_readings_behindName.1 member
  have short : front.length ≤ name.length := shortest name _ rfl run (List.ne_nil_of_mem after)
  -- The reading takes no more than the name; if it took less, the end of the name would stand in the joint.
  obtain ⟨part, rfl⟩ : front <+: name := List.prefix_of_prefix_length_le ⟨_, split.symm⟩ ⟨_, rfl⟩ short
  have same : (part ++ joint) ++ numeral = joint' ++ numeral' := by
    simpa using split
  obtain ⟨front_eq, rfl⟩ := append_inj_of_back same counted.2 counted'.2
    (isNumeric_of_getLast? part isJoint) (isNumeric_of_getLast? [] isJoint')
  obtain rfl := eq_nil_of_isJoint spelled closed isJoint' front_eq
  simp [Captures.get, Captures.get?_cons_of_ne, Captures.get?_keep]

/-! ## A name that ends in digits -/

/-- A charge whose name ends in a number. -/
def charge : TypeRecord := { id := 263, groupId := 87, categoryId := 8, name := "Cap Booster 800" }

/-- A catalog of the charge alone. -/
def charges : TypeCatalog :=
  .ofEntries [.ofRecord charge] (by decide)

theorem hasName_charges (name : String) :
    charges.hasName name = (Text.lowercase charge.name == TypeCatalog.nameKey name) := by
  rw [TypeCatalog.hasName, TypeCatalog.byName?_eq_find?, charges, TypeCatalog.records_ofEntries]
  cases same : Text.lowercase charge.name == TypeCatalog.nameKey name <;>
    simp [CatalogEntry.ofRecord, same]

/-! ## Lines of both layouts -/

/-- What follows a number is in front of it only where a number is. -/
theorem quantityFirst_match?_eq_none (front : ∀ c ∈ s.head?, isNumeric c = false) :
    quantityFirst.match? s = none := by
  rw [match?_eq_head?, Option.map_eq_none_iff, List.head?_eq_none_iff, List.eq_nil_iff_forall_not_mem]
  intro r member
  have split := (mem_readings_group (spans_many isNumeric)).1 member
  obtain ⟨number, rest, rfl, counted, -⟩ := split
  obtain ⟨c, more, rfl, numeric, -⟩ := Text.isRun_iff_exists.1 counted
  rw [front c (by simp)] at numeric
  cases numeric

theorem read?_eq_or (some : s ≠ []) (unnamed : types.hasName (String.ofList s) = false) :
    read? types s = (readFirst? types s).or (readLast? types s) := by
  have filled : s.isEmpty = false := by simpa using some
  simp only [read?, filled, unnamed, Bool.false_eq_true, if_false]
  cases readFirst? types s <;> simp only [Option.some_or, Option.none_or]

section Layouts
variable {n : Nat}

theorem known?_eq_some (known : types.hasName (String.ofList name) = true) (spelled : IsSpelled name)
    (counted : Decimal.natural? numeral = some n) (small : (n : Int) ≤ Quantity.greatest) :
    known? types name numeral = some ⟨String.ofList name, n⟩ := by
  rw [known?, Text.trimBy_eq_self_iff.2 spelled.ends, if_pos known, Quantity.read_of_natural? counted small]

theorem isNumeral_of_natural? (counted : Decimal.natural? numeral = some n) : IsRun isNumeric numeral :=
  ⟨(isDigit_of_natural? counted).1,
    fun c member => isNumeric_of_isDigit ((isDigit_of_natural? counted).2 c member)⟩

theorem readFirst?_of_front (known : types.hasName (String.ofList name) = true) (spelled : IsSpelled name)
    (unmarked : ∀ c rest, name = c :: ' ' :: rest → c ≠ 'x' ∧ c ≠ 'X')
    (counted : Decimal.natural? numeral = some n) (small : (n : Int) ≤ Quantity.greatest) :
    readFirst? types (numeral ++ ' ' :: name) = some ⟨String.ofList name, n⟩ := by
  obtain ⟨caps, found, kept⟩ := Option.map_eq_some_iff.1
    (quantityFirst_match? spelled (isNumeral_of_natural? counted) unmarked)
  obtain ⟨first, second⟩ := Prod.mk.inj kept
  rw [readFirst?, found, Option.bind_some, first, second, known?_eq_some known spelled counted small]

theorem readLast?_of_back (known : types.hasName (String.ofList name) = true) (spelled : IsSpelled name)
    (closed : IsClosed name) {joint : List Char} (isJoint : IsJoint joint)
    (counted : Decimal.natural? numeral = some n) (small : (n : Int) ≤ Quantity.greatest) :
    readLast? types (name ++ (joint ++ numeral)) = some ⟨String.ofList name, n⟩ := by
  obtain ⟨caps, found, kept⟩ := Option.map_eq_some_iff.1
    (quantityLast_match? spelled closed isJoint (isNumeral_of_natural? counted))
  obtain ⟨first, second⟩ := Prod.mk.inj kept
  rw [readLast?, found, Option.bind_some, first, second, known?_eq_some known spelled counted small]

/-- A text whose first character and last one are no white space has no padding. -/
theorem clean_eq_self {line : Line} (kept : EndsKept Text.isBlank line.text.toList) :
    line.clean = line.text.toList := by
  have other {c : Char} (filled : Text.isBlank c = false) : Line.isPadding c = false := by
    rw [← Bool.not_eq_true] at filled ⊢
    exact fun padding => filled (Line.isBlank_of_isPadding padding)
  rw [Line.clean, Text.trimBy_eq_self_iff]
  exact ⟨fun c first => other (kept.1 c first), fun c last => other (kept.2 c last)⟩

theorem isJoint_of_layout {joint : String} (layout : joint ∈ [" ", " x", ": ", "\t"]) :
    IsJoint joint.toList := by
  simp only [List.mem_cons, List.not_mem_nil, or_false] at layout
  rcases layout with rfl | rfl | rfl | rfl
  · exact ⟨[' '], [], [], rfl, by decide, .inl rfl, List.forall_mem_nil _⟩
  · exact ⟨[' '], ['x'], [], rfl, by decide, .inr (.inl rfl), List.forall_mem_nil _⟩
  · exact ⟨[':', ' '], [], [], rfl, by decide, .inl rfl, List.forall_mem_nil _⟩
  · exact ⟨['\t'], [], [], rfl, by decide, .inl rfl, List.forall_mem_nil _⟩

theorem endsKept_append {front back : List Char} (middle : List Char) (some : front ≠ [])
    (some' : back ≠ []) (first : ∀ c ∈ front.head?, Text.isBlank c = false)
    (last : ∀ c ∈ back.getLast?, Text.isBlank c = false) :
    EndsKept Text.isBlank (front ++ (middle ++ back)) := by
  constructor
  · rwa [List.head?_append_of_ne_nil _ some]
  · rwa [List.getLast?_append_of_ne_nil _ (by simp [some']), List.getLast?_append_of_ne_nil _ some']

/-- A line that is a number and the name of a type, or such a name, a mark of one of four kinds and a number,
is read as the name and the number, whatever digits the name holds. -/
theorem read?_layouts (types : TypeCatalog) (line : Line) {name numeral : String} {n : Nat}
    (known : types.hasName name = true) (spelled : IsSpelled name.toList)
    (counted : Decimal.natural? numeral.toList = some n) (small : n < Nat.pow 2 63)
    (unnamed : types.hasName line.text = false) :
    (line.text = numeral ++ " " ++ name → (∀ c rest, name.toList = c :: ' ' :: rest → c ≠ 'x' ∧ c ≠ 'X') →
      read? types line.clean = some ⟨name, n⟩) ∧
    ((∃ joint ∈ [" ", " x", ": ", "\t"], line.text = name ++ joint ++ numeral) →
      (∀ c ∈ name.toList.head?, isNumeric c = false) → IsClosed name.toList →
      read? types line.clean = some ⟨name, n⟩) := by
  have named : types.hasName (String.ofList name.toList) = true := by
    rw [String.ofList_toList]
    exact known
  have digits := isNumeral_of_natural? counted
  have inside : (n : Int) ≤ Quantity.greatest := by
    have power : Nat.pow 2 63 = 9223372036854775808 := rfl
    rw [Quantity.greatest]
    omega
  have read (kept : EndsKept Text.isBlank line.text.toList) (some : line.text.toList ≠ []) :
      read? types line.clean =
        (readFirst? types line.text.toList).or (readLast? types line.text.toList) := by
    rw [clean_eq_self kept]
    refine read?_eq_or some ?_
    rw [String.ofList_toList]
    exact unnamed
  constructor
  · intro layout unmarked
    have text : line.text.toList = numeral.toList ++ ' ' :: name.toList := by simp [layout]
    have first := readFirst?_of_front named spelled unmarked counted inside
    rw [String.ofList_toList] at first
    rw [read _ (by simp [text]), text, first, Option.some_or]
    rw [text]
    exact endsKept_append [' '] digits.1 spelled.nonempty
      (fun c head => isBlank_of_isNumeric (digits.2 c (List.mem_of_mem_head? head))) spelled.ends.2
  · rintro ⟨joint, member, layout⟩ front closed
    have text : line.text.toList = name.toList ++ (joint.toList ++ numeral.toList) := by simp [layout]
    have last := readLast?_of_back named spelled closed (isJoint_of_layout member) counted inside
    have first : readFirst? types line.text.toList = none := by
      rw [readFirst?, quantityFirst_match?_eq_none, Option.bind_none]
      rwa [text, List.head?_append_of_ne_nil _ spelled.nonempty]
    rw [String.ofList_toList] at last
    rw [read _ (by simp [text, spelled.nonempty]), first, text, last, Option.none_or]
    rw [text]
    exact endsKept_append _ spelled.nonempty digits.1 spelled.ends.1
      (fun c back => isBlank_of_isNumeric (digits.2 c (List.mem_of_getLast? back)))

theorem read?_charge :
    read? charges (Line.clean ⟨1, "2 Cap Booster 800"⟩) = some ⟨"Cap Booster 800", 2⟩ ∧
      read? charges (Line.clean ⟨2, "Cap Booster 800 x3"⟩) = some ⟨"Cap Booster 800", 3⟩ := by
  have known : charges.hasName "Cap Booster 800" = true := by
    rw [hasName_charges]
    decide +kernel
  have unnamed : charges.hasName "2 Cap Booster 800" = false ∧
      charges.hasName "Cap Booster 800 x3" = false := by
    rw [hasName_charges, hasName_charges]
    decide +kernel
  have spelled : IsSpelled "Cap Booster 800".toList :=
    ⟨by decide, List.all_eq_true.1 (by decide), Text.trimBy_eq_self_iff.1 (by decide)⟩
  have closed : IsClosed "Cap Booster 800".toList := by
    refine ⟨by decide, fun front separator letter same _ => ?_⟩
    have last : '0' = letter := by simpa using congrArg List.getLast? same
    simp [← last]
  have front : ∀ c ∈ "Cap Booster 800".toList.head?, isNumeric c = false := by
    intro c first
    have capital : 'C' = c := by simpa using first
    rw [← capital]
    decide
  have two : Decimal.natural? "2".toList = some 2 := by decide
  have three : Decimal.natural? "3".toList = some 3 := by decide
  constructor
  · refine (read?_layouts charges ⟨1, "2 Cap Booster 800"⟩ known spelled two (by decide) unnamed.1).1 rfl ?_
    intro c rest same
    cases same
  · exact (read?_layouts charges ⟨2, "Cap Booster 800 x3"⟩ known spelled three (by decide) unnamed.2).2
      ⟨" x", by decide, rfl⟩ front closed

end Layouts

end Format.Listing

end ItemAppraisal
