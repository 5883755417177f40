import ItemAppraisal.Proofs.Leftovers
import ItemAppraisal.Proofs.ListingLayouts
import ItemAppraisal.Proofs.MentionParts

/-!
# Which type a line mentions

A line is read as the leftmost column that is the name of a type; if there is none, as the longest run of
words that is one, of runs of one length the leftmost (`read?_eq_some_iff`). The quantity is the first
positive number elsewhere on the line. A line that holds no such column and no such run is not read, and
conversely no line that is left over at the end holds one (`mentions_and_leftovers`).
-/

namespace ItemAppraisal.Format.Mention

open Text (IsRun Captures isBlank trimBy)
open Text.Pattern

variable {types : TypeCatalog} {s : List Char}

/-! ## Quantities -/

/-- What may stand in front of a number: the letter x, and white space after it. -/
def IsMargin (margin : List Char) : Prop :=
  ∃ mark blanks, margin = mark ++ blanks ∧ Listing.IsTimes mark ∧ ∀ c ∈ blanks, isBlank c = true

/-- A number with a digit and perhaps margins on its two sides, that on the right the other way round. -/
def StandsAlone (number s : List Char) : Prop :=
  ∃ front back, s = front ++ (number ++ back) ∧ IsMargin front ∧ IsMargin back.reverse ∧
    (∀ c ∈ number, isNumeric c = true) ∧ ∃ c ∈ number, Text.isDigit c = true

/-- A number that stands alone and is positive. -/
def IsQuantity (token : List Char) (quantity : Int) : Prop :=
  ∃ number, StandsAlone number (trimBy isBlank token) ∧ quantity = Quantity.read number ∧ 0 < quantity

theorem spans_number : Spans (.all [.eager isNumeric, .one Text.isDigit, .eager isNumeric])
    fun number => (∀ c ∈ number, isNumeric c = true) ∧ ∃ c ∈ number, Text.isDigit c = true := by
  have whole := spans_all_cons (spans_eager isNumeric)
    (spans_all_cons (spans_one Text.isDigit) (spans_eager isNumeric).last)
  refine whole.congr fun number => ?_
  constructor
  · rintro ⟨front, -, rfl, before, -, back, rfl, ⟨c, rfl, digit⟩, after⟩
    have numeric : isNumeric c = true := by simp [isNumeric, digit]
    refine ⟨?_, c, by simp, digit⟩
    simp only [List.mem_append, List.mem_singleton]
    rintro d (first | rfl | last)
    · exact before d first
    · exact numeric
    · exact after d last
  · rintro ⟨numeric, c, member, digit⟩
    obtain ⟨front, back, rfl⟩ := List.append_of_mem member
    exact ⟨front, c :: back, rfl, fun d first => numeric d (by simp [first]), [c], back, rfl, ⟨c, rfl, digit⟩,
      fun d last => numeric d (by simp [last])⟩

theorem isNumeric_of_mem_isMargin {margin : List Char} (isMargin : IsMargin margin) {c : Char}
    (member : c ∈ margin) : isNumeric c = false := by
  obtain ⟨mark, blanks, rfl, isTimes, blank⟩ := isMargin
  rcases List.mem_append.1 member with inMark | inBlanks
  · exact Listing.isNumeric_of_mem_isTimes isTimes inMark
  · exact isNumeric_of_isBlank (blank c inBlanks)

/-- A margin the other way round: white space, and the letter x after it. -/
theorem isMargin_reverse_iff {margin : List Char} : IsMargin margin.reverse ↔
    ∃ blanks mark, margin = blanks ++ mark ∧ (∀ c ∈ blanks, isBlank c = true) ∧ Listing.IsTimes mark := by
  have turned {mark : List Char} (isTimes : Listing.IsTimes mark) : mark.reverse = mark := by
    rcases isTimes with rfl | rfl | rfl <;> rfl
  constructor
  · rintro ⟨mark, blanks, same, isTimes, blank⟩
    refine ⟨blanks.reverse, mark, ?_, by simpa using blank, isTimes⟩
    rw [← List.reverse_reverse margin, same, List.reverse_append, turned isTimes]
  · rintro ⟨blanks, mark, rfl, blank, isTimes⟩
    refine ⟨mark, blanks.reverse, ?_, isTimes, by simpa using blank⟩
    rw [List.reverse_append, turned isTimes]

/-- A text is one number at most. -/
theorem StandsAlone.unique {number number' : List Char} (stands : StandsAlone number s)
    (stands' : StandsAlone number' s) : number = number' := by
  obtain ⟨front, back, rfl, margin, margin', numeric, some⟩ := stands
  obtain ⟨other, other', same, otherMargin, otherMargin', numeric', some'⟩ := stands'
  -- No margin holds a numeric character, so both numbers start and end where the numeric characters do.
  have starts {number rest : List Char} (numeric : ∀ c ∈ number, isNumeric c = true)
      (some : ∃ c ∈ number, Text.isDigit c = true) :
      ∀ c ∈ (number ++ rest).head?, (!isNumeric c) = false := by
    obtain ⟨d, member, -⟩ := some
    obtain ⟨e, more, rfl⟩ := List.exists_cons_of_ne_nil (List.ne_nil_of_mem member)
    simp [numeric e List.mem_cons_self]
  have stops {back : List Char} (margin : IsMargin back.reverse) : ∀ c ∈ back.head?, isNumeric c = false :=
    fun c first => isNumeric_of_mem_isMargin margin (List.mem_reverse.2 (List.mem_of_mem_head? first))
  obtain ⟨-, behind⟩ := append_inj_of_front (p := fun c => !isNumeric c) same
    (fun c member => by simp [isNumeric_of_mem_isMargin margin member])
    (fun c member => by simp [isNumeric_of_mem_isMargin otherMargin member])
    (starts numeric some) (starts numeric' some')
  exact (append_inj_of_front behind numeric numeric' (stops margin') (stops otherMargin')).1

theorem quantityShape_eq : quantityShape = .seq Listing.times (.seq (.eager isBlank) (.seq (.group 1
    (.all [.eager isNumeric, .one Text.isDigit, .eager isNumeric])) (.seq (.eager isBlank)
      (.seq Listing.times (.seq .atEnd .empty))))) := rfl

theorem quantityShape_match?_eq_some_iff {quantity : Int} :
    (quantityShape.match? s).map (fun caps => Quantity.read (caps.get 1)) = some quantity ↔
      ∃ number, StandsAlone number s ∧ quantity = Quantity.read number := by
  refine map_match?_eq_some_iff (fun q => ∃ number, StandsAlone number s ∧ q = Quantity.read number) ?_ ?_ ?_
  · intro r member
    simp only [quantityShape_eq, mem_readings_span Listing.spans_times, mem_readings_span (spans_eager _),
      mem_readings_group spans_number, mem_readings_end] at member
    obtain ⟨mark, -, rfl, isTimes, blanks, -, rfl, blank, number, -, rfl, ⟨numeric, some⟩, blanks', -, rfl,
      blank', mark', -, rfl, isTimes', rfl, rfl⟩ := member
    have margin' := isMargin_reverse_iff.2 ⟨blanks', mark', rfl, blank', isTimes'⟩
    refine ⟨number, ⟨mark ++ blanks, blanks' ++ mark', by simp, ⟨mark, blanks, rfl, isTimes, blank⟩, margin',
      numeric, some⟩, ?_⟩
    simp [Captures.get, Captures.get?_cons_of_ne, Captures.get?_keep]
  · rintro - ⟨number, ⟨-, back, rfl, ⟨mark, blanks, rfl, isTimes, blank⟩, margin', numeric, some⟩, rfl⟩
    obtain ⟨blanks', mark', rfl, blank', isTimes'⟩ := isMargin_reverse_iff.1 margin'
    simp only [quantityShape_eq, mem_readings_span Listing.spans_times, mem_readings_span (spans_eager _),
      mem_readings_group spans_number, mem_readings_end]
    exact ⟨_, mark, blanks ++ (number ++ (blanks' ++ mark')), by simp, isTimes, blanks, _, rfl, blank,
      number, _, rfl, ⟨numeric, some⟩, blanks', _, rfl, blank', mark', [], by simp, isTimes', rfl, rfl⟩
  · rintro - - ⟨number, stands, rfl⟩ ⟨number', stands', rfl⟩
    rw [stands.unique stands']

theorem quantity?_eq_some_iff {token : List Char} {quantity : Int} :
    quantity? token = some quantity ↔ IsQuantity token quantity := by
  rw [quantity?, Option.filter_eq_some_iff, quantityShape_match?_eq_some_iff, decide_eq_true_iff]
  constructor
  · rintro ⟨⟨number, stands, same⟩, positive⟩
    exact ⟨number, stands, same, positive⟩
  · rintro ⟨number, stands, same, positive⟩
    exact ⟨⟨number, stands, same⟩, positive⟩

/-- The first quantity of some texts, 1 if none of them is one. -/
inductive FirstQuantity : List (List Char) → Int → Prop
  | found {before after : List (List Char)} {token : List Char} {quantity : Int}
      (others : ∀ other ∈ before, ∀ q, ¬IsQuantity other q) (isQuantity : IsQuantity token quantity) :
      FirstQuantity (before ++ token :: after) quantity
  | missing {texts : List (List Char)} (others : ∀ other ∈ texts, ∀ q, ¬IsQuantity other q) :
      FirstQuantity texts 1

theorem quantity?_eq_none_iff {token : List Char} : quantity? token = none ↔ ∀ q, ¬IsQuantity token q := by
  simp only [Option.eq_none_iff_forall_ne_some, ne_eq, quantity?_eq_some_iff]

theorem firstQuantity_iff {texts : List (List Char)} {quantity : Int} :
    FirstQuantity texts quantity ↔ quantity = (texts.findSome? quantity?).getD 1 := by
  constructor
  · rintro (⟨others, isQuantity⟩ | others)
    · have earlier : List.findSome? quantity? _ = none :=
        List.findSome?_eq_none_iff.2 fun other member => quantity?_eq_none_iff.2 (others other member)
      rw [List.findSome?_append, earlier, Option.none_or, List.findSome?_cons,
        quantity?_eq_some_iff.2 isQuantity, Option.getD_some]
    · rw [List.findSome?_eq_none_iff.2 fun other member => quantity?_eq_none_iff.2 (others other member),
        Option.getD_none]
  · rintro rfl
    cases first : texts.findSome? quantity? with
    | none =>
      rw [List.findSome?_eq_none_iff] at first
      exact .missing fun other member => quantity?_eq_none_iff.1 (first other member)
    | some quantity =>
      obtain ⟨before, token, after, rfl, found, others⟩ := List.findSome?_eq_some_iff.1 first
      exact .found (fun other member => quantity?_eq_none_iff.1 (others other member))
        (quantity?_eq_some_iff.1 found)

/-! ## Columns -/

/-- No column of a line is the name of a type. -/
def NoColumn (types : TypeCatalog) (s : List Char) : Prop :=
  ∀ column ∈ columns s, types.hasName (String.ofList column) = false

theorem ofColumns?_eq_none_iff : ofColumns? types s = none ↔ NoColumn types s := by
  rw [NoColumn, ← List.findIdx?_eq_none_iff, ofColumns?]
  cases found : (columns s).findIdx? fun column => types.hasName (String.ofList column) with
  | none => simp
  | some index =>
    obtain ⟨inside, -⟩ := List.findIdx?_eq_some_iff_getElem.1 found
    simp [List.getElem?_eq_getElem inside]

theorem ofColumns?_of_parts {before column after : _} (parts : columns s = before ++ column :: after)
    (others : ∀ other ∈ before, types.hasName (String.ofList other) = false)
    (named : types.hasName (String.ofList column) = true) :
    ofColumns? types s =
      some ⟨String.ofList column, ((before ++ after).findSome? quantity?).getD 1⟩ := by
  have found : (before ++ column :: after).findIdx? (fun column => types.hasName (String.ofList column)) =
      some before.length := by
    rw [List.findIdx?_append, List.findIdx?_eq_none_iff.2 others, List.findIdx?_cons, named]
    simp
  rw [ofColumns?, parts, found]
  simp [List.eraseIdx_append_of_length_le]

/-- The leftmost column that is the name of a type. -/
theorem exists_of_ofColumns? {stack : Stack} (read : ofColumns? types s = some stack) :
    ∃ before column after, columns s = before ++ column :: after ∧
      (∀ other ∈ before, types.hasName (String.ofList other) = false) ∧
      types.hasName (String.ofList column) = true := by
  have some : ¬NoColumn types s := by
    rw [← ofColumns?_eq_none_iff, read]
    exact Option.some_ne_none _
  obtain ⟨column, member, named⟩ : ∃ column ∈ columns s, types.hasName (String.ofList column) = true := by
    simpa [NoColumn] using some
  have found : ∃ column,
      (columns s).find? (fun column => types.hasName (String.ofList column)) = .some column :=
    Option.isSome_iff_exists.1 (List.find?_isSome.2 ⟨column, member, named⟩)
  obtain ⟨column, found⟩ := found
  obtain ⟨named, before, after, parts, others⟩ := List.find?_eq_some_iff_append.1 found
  exact ⟨before, column, after, parts, fun other member => by simpa using others other member, named⟩

/-! ## Runs of words -/

/-- A run of one to eight words of a line, with those before and after it. -/
structure IsRunOf (words before run after : List (List Char)) : Prop where
  parts : words = before ++ (run ++ after)
  some : run ≠ []
  few : run.length ≤ mostWords

/-- No run of words of a line is the name of a type. -/
def NoRun (types : TypeCatalog) (s : List Char) : Prop :=
  ∀ before run after, IsRunOf (Text.words s) before run after → types.hasName (joined run) = false

/-- A run that is the name of a type, and of these the leftmost of the longest. -/
structure IsBest (types : TypeCatalog) (words before run after : List (List Char)) : Prop where
  isRun : IsRunOf words before run after
  named : types.hasName (joined run) = true
  longest : ∀ before' run' after', IsRunOf words before' run' after' → types.hasName (joined run') = true →
    run'.length ≤ run.length
  leftmost : ∀ before' run' after', IsRunOf words before' run' after' → types.hasName (joined run') = true →
    run'.length = run.length → before.length ≤ before'.length

theorem findSome?_range_eq_some_iff {α : Type} {f : Nat → Option α} {count : Nat} {x : α} :
    (List.range count).findSome? f = some x ↔ ∃ i < count, f i = some x ∧ ∀ j < i, f j = none := by
  induction count with
  | zero => simp
  | succ count ih =>
    rw [List.range_succ, List.findSome?_append, List.findSome?_singleton, Option.or_eq_some_iff, ih,
      List.findSome?_eq_none_iff]
    simp only [List.mem_range]
    constructor
    · rintro (⟨i, small, found, none⟩ | ⟨none, found⟩)
      · exact ⟨i, by omega, found, none⟩
      · exact ⟨count, by omega, found, none⟩
    · rintro ⟨i, small, found, none⟩
      by_cases last : i = count
      · subst last
        exact .inr ⟨none, found⟩
      · exact .inl ⟨i, by omega, found, none⟩

theorem ofRun?_eq (types : TypeCatalog) {words before run after : List (List Char)}
    (isRun : IsRunOf words before run after) :
    ofRun? types words run.length before.length = if types.hasName (joined run) then
      some ⟨joined run, ((before ++ after).findSome? quantity?).getD 1⟩ else none := by
  have first : words.take before.length = before := by rw [isRun.parts, List.take_left]
  have middle : (words.drop before.length).take run.length = run := by
    rw [isRun.parts, List.drop_left, List.take_left]
  have last : words.drop (before.length + run.length) = after := by
    rw [isRun.parts, ← List.append_assoc, ← List.length_append, List.drop_left]
  rw [ofRun?, first, middle, last]

/-- The run of some words from a place on. -/
theorem isRunOf_at (words : List (List Char)) (length start : Nat) (some : 0 < length)
    (few : length ≤ mostWords) (inside : start + length ≤ words.length) :
    IsRunOf words (words.take start) ((words.drop start).take length) (words.drop (start + length)) ∧
      (words.take start).length = start ∧ ((words.drop start).take length).length = length := by
  have lengths : (words.take start).length = start ∧ ((words.drop start).take length).length = length := by
    simp only [List.length_take, List.length_drop]
    omega
  refine ⟨⟨?_, ?_, by omega⟩, lengths⟩
  · rw [← List.drop_drop, List.take_append_drop, List.take_append_drop]
  · rw [← List.length_pos_iff, lengths.2]
    exact some

theorem ofWords?_eq_none_iff : ofWords? types s = none ↔ NoRun types s := by
  simp only [ofWords?_eq_findSome?, List.findSome?_eq_none_iff, List.mem_range]
  constructor
  · intro none before run after isRun
    have some : 0 < run.length := List.length_pos_iff.2 isRun.some
    have few := isRun.few
    have lengths : (Text.words s).length = before.length + (run.length + after.length) := by
      rw [isRun.parts]
      simp
    have untaken := none (min (Text.words s).length mostWords - run.length) (by omega) before.length
      (by omega)
    have same : min (Text.words s).length mostWords - (min (Text.words s).length mostWords - run.length) =
        run.length := by omega
    rw [same, ofRun?_eq types isRun] at untaken
    simpa using untaken
  · intro none k longer start inside
    obtain ⟨isRun, before, run⟩ := isRunOf_at (Text.words s)
      (min (Text.words s).length mostWords - k) start (by omega) (by omega) (by omega)
    have untaken := ofRun?_eq types isRun
    rwa [before, run, none _ _ _ isRun, if_neg Bool.false_ne_true] at untaken

theorem exists_isBest {stack : Stack} (read : ofWords? types s = some stack) :
    ∃ before run after, IsBest types (Text.words s) before run after ∧
      stack = ⟨joined run, ((before ++ after).findSome? quantity?).getD 1⟩ := by
  rw [ofWords?_eq_findSome?] at read
  obtain ⟨k, longer, found, shorter⟩ := findSome?_range_eq_some_iff.1 read
  obtain ⟨start, inside, found, earlier⟩ := findSome?_range_eq_some_iff.1 found
  generalize chosen : min (Text.words s).length mostWords - k = length at *
  obtain ⟨isRun, before_length, run_length⟩ := isRunOf_at (Text.words s) length start (by omega) (by omega)
    (by omega)
  generalize (Text.words s).take start = before at isRun before_length
  generalize ((Text.words s).drop start).take length = run at isRun run_length
  generalize (Text.words s).drop (start + length) = after at isRun
  subst before_length run_length
  rw [ofRun?_eq types isRun] at found
  split at found
  · -- The `k`-th length tried is the longest less `k`: a longer run was tried before, and so was an earlier one.
    rename_i named
    have lengths {before run after : List (List Char)} (isRun : IsRunOf (Text.words s) before run after) :
        (Text.words s).length = before.length + (run.length + after.length) := by
      rw [isRun.parts]
      simp
    refine ⟨before, run, after, ⟨isRun, named, ?_, ?_⟩, (Option.some_inj.1 found).symm⟩
    · intro before' run' after' isRun' named'
      by_contra more
      have size := lengths isRun'
      have few := isRun'.few
      have untaken := shorter (min (Text.words s).length mostWords - run'.length) (by omega)
      have same : min (Text.words s).length mostWords - (min (Text.words s).length mostWords - run'.length) =
          run'.length := by omega
      rw [List.findSome?_eq_none_iff, same] at untaken
      have untaken := untaken before'.length (List.mem_range.2 (by omega))
      rw [ofRun?_eq types isRun', if_pos named'] at untaken
      cases untaken
    · intro before' run' after' isRun' named' same
      by_contra left
      have untaken := earlier before'.length (by omega)
      rw [← same, ofRun?_eq types isRun', if_pos named'] at untaken
      cases untaken
  · cases found

/-- There is one best run at most. -/
theorem IsBest.unique {words before run after before' run' after' : List (List Char)}
    (best : IsBest types words before run after) (best' : IsBest types words before' run' after') :
    before = before' ∧ run = run' ∧ after = after' := by
  have length : run.length = run'.length := Nat.le_antisymm
    (best'.longest _ _ _ best.isRun best.named) (best.longest _ _ _ best'.isRun best'.named)
  have start : before.length = before'.length := Nat.le_antisymm
    (best.leftmost _ _ _ best'.isRun best'.named length.symm)
    (best'.leftmost _ _ _ best.isRun best.named length)
  obtain ⟨sameBefore, rest⟩ := List.append_inj (best.isRun.parts.symm.trans best'.isRun.parts) start
  obtain ⟨sameRun, sameAfter⟩ := List.append_inj rest length
  exact ⟨sameBefore, sameRun, sameAfter⟩

theorem ofWords?_of_isBest {before run after : List (List Char)}
    (best : IsBest types (Text.words s) before run after) :
    ofWords? types s = some ⟨joined run, ((before ++ after).findSome? quantity?).getD 1⟩ := by
  cases read : ofWords? types s with
  | none =>
    have unnamed := ofWords?_eq_none_iff.1 read _ _ _ best.isRun
    rw [best.named] at unnamed
    cases unnamed
  | some stack =>
    obtain ⟨before', run', after', best', rfl⟩ := exists_isBest read
    obtain ⟨rfl, rfl, rfl⟩ := best.unique best'
    rfl

/-! ## Lines -/

/-- What a line is read as: a column that is the name of a type, or else a run of words that is one. -/
inductive Chosen (types : TypeCatalog) (s : List Char) : Stack → Prop
  | column {before column after : _} {quantity : Int} (parts : columns s = before ++ column :: after)
      (others : ∀ other ∈ before, types.hasName (String.ofList other) = false)
      (named : types.hasName (String.ofList column) = true)
      (counted : FirstQuantity (before ++ after) quantity) : Chosen types s ⟨String.ofList column, quantity⟩
  | run {before run after : List (List Char)} {quantity : Int} (unnamed : NoColumn types s)
      (best : IsBest types (Text.words s) before run after)
      (counted : FirstQuantity (before ++ after) quantity) : Chosen types s ⟨joined run, quantity⟩

theorem read?_eq_some_iff {stack : Stack} : read? types s = some stack ↔ Chosen types s stack := by
  rw [read?_eq_or]
  constructor
  · intro read
    cases columns : ofColumns? types s with
    | some found =>
      rw [columns, Option.some_or] at read
      obtain ⟨before, column, after, parts, others, named⟩ := exists_of_ofColumns? columns
      rw [ofColumns?_of_parts parts others named] at columns
      obtain rfl := Option.some_inj.1 (columns.trans read)
      exact .column parts others named (firstQuantity_iff.2 rfl)
    | none =>
      rw [columns, Option.none_or] at read
      obtain ⟨before, run, after, best, rfl⟩ := exists_isBest read
      exact .run (ofColumns?_eq_none_iff.1 columns) best (firstQuantity_iff.2 rfl)
  · rintro (⟨parts, others, named, counted⟩ | ⟨unnamed, best, counted⟩)
    · rw [ofColumns?_of_parts parts others named, Option.some_or, firstQuantity_iff.1 counted]
    · rw [ofColumns?_eq_none_iff.2 unnamed, Option.none_or, ofWords?_of_isBest best,
        firstQuantity_iff.1 counted]

theorem read?_eq_none_iff : read? types s = none ↔ NoColumn types s ∧ NoRun types s := by
  rw [read?_eq_or, Option.or_eq_none_iff, ofColumns?_eq_none_iff, ofWords?_eq_none_iff]

/-- The padding of a line has no part in its columns and words, nor has the spacing. -/
theorem parts_eq (line : Line) :
    columns line.trimmed.toList = columns line.clean ∧
      Text.words line.trimmed.toList = Text.words line.clean := by
  have spacing (c : Char) := Line.isBlank_of_isSpacing (c := c)
  have padding (c : Char) := Line.isBlank_of_isPadding (c := c)
  rw [Line.trimmed, Text.trimText, String.toList_ofList, Line.clean]
  exact ⟨(columns_trimBy spacing _).trans (columns_trimBy padding _).symm,
    (words_trimBy spacing _).trans (words_trimBy padding _).symm⟩

/-- A line is read if and only if a column or a run of up to eight words is the name of a type; it is read
as the leftmost such column, or else as the leftmost of the longest such runs, with the first positive
number elsewhere as the quantity. So no line that is reported as unparsed holds such a column or run. -/
theorem mentions_and_leftovers (types : TypeCatalog) :
    (∀ line : Line,
      (∃ parts, Parted line.clean parts) ∧
      (∀ parts, Parted line.clean parts → columns line.clean = filled parts) ∧
      ((read? types line.clean).isSome = true ↔
        (∃ column ∈ columns line.clean, types.hasName (String.ofList column) = true) ∨
        ∃ before run after, IsRunOf (Text.words line.clean) before run after ∧
          types.hasName (joined run) = true) ∧
      ∀ stack, read? types line.clean = some stack ↔ Chosen types line.clean stack) ∧
    ∀ paste c, classify types paste = .ok c → ∀ line ∈ c.unparsed,
      NoColumn types line.text.toList ∧ NoRun types line.text.toList := by
  refine ⟨fun line => ⟨exists_parted _, fun _ => columns_eq_of_parted, ?_, fun _ => read?_eq_some_iff⟩, ?_⟩
  · rw [← Bool.not_eq_false, Option.isSome_eq_false_iff, Option.isNone_iff_eq_none, read?_eq_none_iff,
      NoColumn, NoRun, not_and_or]
    simp only [not_forall, Bool.not_eq_false, exists_prop]
  · intro paste c classified line member
    obtain ⟨-, unparsed⟩ := classify_eq_ok classified
    rw [unparsed, Paste.mem_trimmedLines] at member
    obtain ⟨source, left, -, rfl⟩ := member
    have untaken := (Parse.untaken_of_mem_rest types left).2 .mention (by decide)
    rw [Kind.takes, Option.isSome_eq_false_iff, Option.isNone_iff_eq_none, read?_eq_none_iff] at untaken
    obtain ⟨sameColumns, sameWords⟩ := parts_eq source
    rw [NoColumn, NoRun, sameColumns, sameWords]
    exact untaken

theorem mentions_and_leftovers_of_charge :
    read? Listing.charges (Line.clean ⟨1, "Cap Booster 800  3x"⟩) = some ⟨"Cap Booster 800", 3⟩ ∧
    ∃ c, classify Listing.charges (Paste.ofText TwoFittings.text) = .ok c ∧
      ⟨2, TwoFittings.second⟩ ∈ c.unparsed ∧ NoColumn Listing.charges TwoFittings.second.toList ∧
      NoRun Listing.charges TwoFittings.second.toList := by
  obtain ⟨lines, leftovers⟩ := mentions_and_leftovers Listing.charges
  constructor
  · have parts : columns (Line.clean ⟨1, "Cap Booster 800  3x"⟩) =
        [] ++ "Cap Booster 800".toList :: ["3x".toList] := by decide +kernel
    have named : Listing.charges.hasName (String.ofList "Cap Booster 800".toList) = true := by
      rw [Listing.hasName_charges]
      decide +kernel
    have three : IsQuantity "3x".toList 3 := by
      have alone : StandsAlone "3".toList (trimBy isBlank "3x".toList) :=
        ⟨[], ['x'], by decide, ⟨[], [], rfl, .inl rfl, by simp⟩, ⟨['x'], [], rfl, .inr (.inl rfl), by simp⟩,
          List.all_eq_true.1 (by decide), '3', by decide, by decide⟩
      exact ⟨"3".toList, alone, by decide, by decide⟩
    have counted : FirstQuantity ([] ++ ["3x".toList]) 3 := .found (List.forall_mem_nil _) three
    exact ((lines ⟨1, "Cap Booster 800  3x"⟩).2.2.2 _).2 (.column parts (List.forall_mem_nil _) named counted)
  · obtain ⟨c, classified, unparsed⟩ := TwoFittings.exists_classify
    have member : ⟨2, TwoFittings.second⟩ ∈ c.unparsed := by simp [unparsed]
    exact ⟨c, classified, member, leftovers _ c classified _ member⟩

end ItemAppraisal.Format.Mention
