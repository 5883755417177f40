import ItemAppraisal.Format.Assets
import ItemAppraisal.Format.Colony
import ItemAppraisal.Format.Container
import ItemAppraisal.Format.Contract
import ItemAppraisal.Format.DirectionalScan
import ItemAppraisal.Format.MiningLedger
import ItemAppraisal.Format.SurveyScan
import ItemAppraisal.Format.Wallet
import ItemAppraisal.Proofs.ColumnPatterns

/-!
# Lines of columns

Eight formats are lines of columns between tabs. What the columns of a line say is a relation for each of
them (`SurveyedOre.Row` and its like), and the format reads exactly the lines whose columns say something,
although the patterns have parts that may be missing and runs that take what they can. Main statement:
`reads_columns`. No line is both a transaction and an entry of a journal, for the former has seven columns
and the latter at most five.
-/

namespace ItemAppraisal

open Text (Pattern IsRun Captures)
open Text.Pattern
open Format (isVisible isNumeric)

/-! ## Survey scans -/

/-- What the columns of a line say of an ore that was found. -/
inductive SurveyedOre.Row : List (List Char) → SurveyedOre → Prop
  | row {name quantity distance : List Char} (named : IsRun isVisible name)
      (counted : IsRun isNumeric quantity) (away : IsDistance distance) :
      Row [name, quantity, distance]
        { name := String.ofList name
          quantity := Quantity.read quantity
          distance := String.ofList distance }

theorem SurveyedOre.read?_eq_some_iff {s : List Char} {i : SurveyedOre} :
    read? s = some i ↔ Row (columnsOf s) i := by
  have counted := (readsColumns_last 3 readsKind_distance).column 2 readsKind_number
  have reads := counted.column 1 readsKind_visible
  change ReadsColumns shape _ at reads
  refine reads.map_match?_eq_some_iff ?_ ?_ ?_
  · rintro caps s columns ⟨name, _, rfl, -, named, quantity, _, rfl, -, counted, distance, rfl, away, kept⟩
    simpa [Captures.text, Captures.get, Captures.get?_cons_of_ne, kept] using Row.row named counted away
  · rintro columns i ⟨named, counted, away⟩
    exact ⟨_, _, _, rfl, by simp, named, _, _, rfl, by simp, counted, _, rfl, away, rfl⟩
  · rintro columns i i' row row'
    cases row
    cases row'
    rfl

/-! ## Colonies -/

theorem Amount.read_nil : read [] = 0 := by
  have blank : Text.trimBy Text.isBlank [] = [] := rfl
  have none : Decimal.double? [] = none := by decide +kernel
  simp only [read, blank, Text.dropEndings_nil, List.filter_nil, none, Option.getD_none]

theorem Amount.readVolume_nil : readVolume [] = 0 := by
  have blank : Text.trimBy Text.isBlank [] = [] := rfl
  rw [readVolume, blank, Text.dropEndings_nil, read_nil]

theorem readsKind_route : ReadsKind (.alt (.text "Routed") (.text "Not Routed"))
    fun route => route = "Routed".toList ∨ route = "Not Routed".toList where
  spans := (spans_text _).alt (spans_text _)
  untabbed := by
    rintro route (rfl | rfl) <;> decide

/-- What the columns of a line say of a commodity, whose volume may be missing. -/
inductive Commodity.Row : List (List Char) → Commodity → Prop
  | bare {route name quantity : List Char} (routing : route = "Routed".toList ∨ route = "Not Routed".toList)
      (named : IsRun isVisible name) (counted : IsRun isNumeric quantity) :
      Row [route, name, quantity]
        { name := String.ofList name
          quantity := Quantity.read quantity
          routed := String.ofList route == "Routed"
          volume := 0 }
  | measured {route name quantity volume number : List Char}
      (routing : route = "Routed".toList ∨ route = "Not Routed".toList) (named : IsRun isVisible name)
      (counted : IsRun isNumeric quantity) (amount : IsAmount " m3" number volume) :
      Row [route, name, quantity, volume]
        { name := String.ofList name
          quantity := Quantity.read quantity
          routed := String.ofList route == "Routed"
          volume := Amount.readVolume number }

theorem Commodity.read?_eq_some_iff {s : List Char} {i : Commodity} :
    read? s = some i ↔ Row (columnsOf s) i := by
  -- The volume and its tab are one optional part here, a sequence of its own in front of the end.
  have measured : ReadsColumns (.seq (.group 3 Format.number) (.seq (.all [Format.tab, .group 4 Format.number,
      .text " m3"]) (.seq .atEnd .empty))) _ :=
    ((readsColumns_last_unit 4 " m3" readsKind_number (by decide)).column 3 readsKind_number).of_readings_eq
      fun x => by simp only [Pattern.all, List.foldr_cons, List.foldr_nil, readings, List.flatMap_assoc,
        List.flatMap_singleton]
  have quantity := measured.optional (readsColumns_last 3 readsKind_number)
  have reads := (quantity.column 2 readsKind_visible).column 1 readsKind_route
  change ReadsColumns shape _ at reads
  refine reads.map_match?_eq_some_iff ?_ ?_ ?_
  · rintro caps s columns ⟨route, _, rfl, -, routing, name, _, rfl, -, named,
      ⟨quantity, _, rfl, -, counted, number, rfl, sized, kept⟩ | ⟨quantity, rfl, counted, kept⟩⟩
    · simpa [Captures.text, Captures.get, Captures.get?_cons_of_ne, kept] using
        Row.measured routing named counted ⟨sized, rfl⟩
    · simpa [Captures.text, Captures.get, Captures.get?_cons_of_ne, kept, Amount.readVolume_nil] using
        Row.bare routing named counted
  · rintro columns i (⟨routing, named, counted⟩ | ⟨routing, named, counted, sized, rfl⟩)
    · exact ⟨_, _, _, rfl, by simp, routing, _, _, rfl, by simp, named, .inr ⟨_, rfl, counted, rfl⟩⟩
    · exact ⟨_, _, _, rfl, by simp, routing, _, _, rfl, by simp, named,
        .inl ⟨_, _, rfl, by simp, counted, _, rfl, sized, rfl⟩⟩
  · rintro columns i i' row row'
    cases row with
    | bare => cases row'; rfl
    | measured _ _ _ amount =>
      cases row' with
      | measured _ _ _ amount' => rw [amount.unique amount']

/-! ## Containers -/

/-- What the columns of a line say of a contained item. -/
inductive ContainedItem.Row : List (List Char) → ContainedItem → Prop
  | row {name group quantity : List Char} {location : String} (named : IsRun isVisible name)
      (grouped : ∀ c ∈ group, isVisible c = true) (located : location ∈ locations)
      (counted : IsRun isNumeric quantity) :
      Row [name, group, location.toList, quantity]
        { name := String.ofList name
          group := String.ofList group
          location := location
          quantity := Quantity.read quantity }

theorem ContainedItem.read?_eq_some_iff {s : List Char} {i : ContainedItem} :
    read? s = some i ↔ Row (columnsOf s) i := by
  have location : ReadsKind locationShape _ := readsKind_oneOf (by decide)
  have reads := (((readsColumns_last 4 readsKind_number).column 3 location).column 2
    readsKind_text).column 1 readsKind_visible
  change ReadsColumns shape _ at reads
  refine reads.map_match?_eq_some_iff ?_ ?_ ?_
  · rintro caps s columns ⟨name, _, rfl, -, named, group, _, rfl, -, grouped, -, _, rfl, -,
      ⟨location, located, rfl⟩, quantity, rfl, counted, kept⟩
    simpa [Captures.text, Captures.get, Captures.get?_cons_of_ne, kept] using
      Row.row named grouped located counted
  · rintro columns i ⟨named, grouped, located, counted⟩
    exact ⟨_, _, _, rfl, by simp, named, _, _, rfl, by simp, grouped, _, _, rfl, by simp, ⟨_, located, rfl⟩,
      _, rfl, counted, rfl⟩
  · rintro columns i i' row row'
    generalize split : columns = columns' at row'
    cases row
    cases row'
    simp only [List.cons.injEq, String.toList_inj, and_true] at split
    obtain ⟨rfl, rfl, rfl, rfl⟩ := split
    rfl

/-! ## Mining ledgers -/

/-- What the columns of a line say of ore that was mined, whose value may be missing. -/
inductive MinedOre.Row : List (List Char) → MinedOre → Prop
  | bare {date name quantity volume system number : List Char} (dated : IsDate date)
      (named : IsRun isVisible name) (counted : IsRun isNumeric quantity)
      (sized : IsAmount " m3" number volume) (placed : IsRun isVisible system) :
      Row [date, name, quantity, volume, system]
        { date := String.ofList date
          name := String.ofList name
          quantity := Quantity.read quantity
          volume := Amount.readVolume volume
          estimatedValue := 0
          solarSystem := String.ofList system }
  | valued {date name quantity volume value system number number' : List Char} (dated : IsDate date)
      (named : IsRun isVisible name) (counted : IsRun isNumeric quantity)
      (sized : IsAmount " m3" number volume) (worth : IsAmount " ISK" number' value)
      (placed : IsRun isVisible system) :
      Row [date, name, quantity, volume, value, system]
        { date := String.ofList date
          name := String.ofList name
          quantity := Quantity.read quantity
          volume := Amount.readVolume volume
          estimatedValue := Amount.read value
          solarSystem := String.ofList system }

theorem MinedOre.read?_eq_some_iff {s : List Char} {i : MinedOre} :
    read? s = some i ↔ Row (columnsOf s) i := by
  have volume := readsKind_amount " m3" (by decide)
  have value := readsKind_amount " ISK" (by decide)
  have placed := readsColumns_last 6 readsKind_visible
  have valued := ((placed.column 5 value).column 4 volume).optional_column (placed.column 4 volume)
  have reads := ((valued.column 3 readsKind_number).column 2 readsKind_visible).column 1 readsKind_date
  change ReadsColumns shape _ at reads
  refine reads.map_match?_eq_some_iff ?_ ?_ ?_
  · rintro caps s columns ⟨date, _, rfl, -, dated, name, _, rfl, -, named, quantity, _, rfl, -, counted,
      ⟨volume, _, rfl, -, ⟨number, sized⟩, value, _, rfl, -, ⟨number', worth⟩, system, rfl, placed, kept⟩ |
      ⟨volume, _, rfl, -, ⟨number, sized⟩, system, rfl, placed, kept⟩⟩
    · simpa [Captures.text, Captures.get, Captures.get?_cons_of_ne, kept] using
        Row.valued dated named counted sized worth placed
    · simpa [Captures.text, Captures.get, Captures.get?_cons_of_ne, kept, Amount.read_nil] using
        Row.bare dated named counted sized placed
  · rintro columns i
      (⟨dated, named, counted, sized, placed⟩ | ⟨dated, named, counted, sized, worth, placed⟩)
    · exact ⟨_, _, _, rfl, by simp, dated, _, _, rfl, by simp, named, _, _, rfl, by simp, counted,
        .inr ⟨_, _, rfl, by simp, ⟨_, sized⟩, _, rfl, placed, rfl⟩⟩
    · exact ⟨_, _, _, rfl, by simp, dated, _, _, rfl, by simp, named, _, _, rfl, by simp, counted,
        .inl ⟨_, _, rfl, by simp, ⟨_, sized⟩, _, _, rfl, by simp, ⟨_, worth⟩, _, rfl, placed, rfl⟩⟩
  · rintro columns i i' row row'
    cases row <;> (cases row'; rfl)

/-! ## Contracts -/

/-- What the columns of a line say of an item of a contract, whose remarks may be missing. -/
inductive ContractItem.Row : List (List Char) → ContractItem → Prop
  | bare {name quantity itemType category : List Char} (named : IsRun isVisible name)
      (counted : IsRun isNumeric quantity) (typed : IsRun isVisible itemType)
      (categorized : IsRun isVisible category) :
      Row [name, quantity, itemType, category]
        { name := String.ofList name
          quantity := Quantity.read quantity
          itemType := String.ofList itemType
          category := String.ofList category
          remarks := ""
          fitted := false
          blueprintCopy := false
          copyRuns := 0 }
  | remarked {name quantity itemType category remarks : List Char} (named : IsRun isVisible name)
      (counted : IsRun isNumeric quantity) (typed : IsRun isVisible itemType)
      (categorized : IsRun isVisible category) (shown : ∀ c ∈ remarks, isVisible c = true) :
      Row [name, quantity, itemType, category, remarks]
        { name := String.ofList name
          quantity := Quantity.read quantity
          itemType := String.ofList itemType
          category := String.ofList category
          remarks := String.ofList (Text.trimBy Text.isBlank remarks)
          fitted := Text.equalIgnoringAsciiCase (String.ofList (Text.trimBy Text.isBlank remarks)) "Fitted"
          blueprintCopy := (copyRuns? (Text.trimBy Text.isBlank remarks)).isSome
          copyRuns := (copyRuns? (Text.trimBy Text.isBlank remarks)).getD 0 }

theorem ContractItem.read?_eq_some_iff {s : List Char} {i : ContractItem} :
    read? s = some i ↔ Row (columnsOf s) i := by
  have remarked := ((readsColumns_last 5 readsKind_text).column 4 readsKind_visible).optional_column
    (readsColumns_last 4 readsKind_visible)
  have reads := ((remarked.column 3 readsKind_visible).column 2 readsKind_number).column 1 readsKind_visible
  change ReadsColumns shape _ at reads
  have blank : Text.trimBy Text.isBlank [] = [] := rfl
  have missing : copyRuns? [] = none := by decide +kernel
  have unfitted : Text.equalIgnoringAsciiCase "" "Fitted" = false := by decide
  have made : read? s = (shape.match? s).map fun caps =>
      let remarks := Text.trimBy Text.isBlank (caps.get 5)
      { name := caps.text 1
        quantity := Quantity.read (caps.get 2)
        itemType := caps.text 3
        category := caps.text 4
        remarks := String.ofList remarks
        fitted := Text.equalIgnoringAsciiCase (String.ofList remarks) "Fitted"
        blueprintCopy := (copyRuns? remarks).isSome
        copyRuns := (copyRuns? remarks).getD 0 } := by
    rw [read?]
    cases shape.match? s <;> rfl
  rw [made]
  refine reads.map_match?_eq_some_iff ?_ ?_ ?_
  · rintro caps s columns ⟨name, _, rfl, -, named, quantity, _, rfl, -, counted, itemType, _, rfl, -, typed,
      ⟨category, _, rfl, -, categorized, remarks, rfl, shown, kept⟩ | ⟨category, rfl, categorized, kept⟩⟩
    · simpa [Captures.text, Captures.get, Captures.get?_cons_of_ne, kept] using
        Row.remarked named counted typed categorized shown
    · have bare := Row.bare named counted typed categorized
      simpa [Captures.text, Captures.get, Captures.get?_cons_of_ne, kept, blank, unfitted, missing]
        using bare
  · rintro columns i (⟨named, counted, typed, categorized⟩ | ⟨named, counted, typed, categorized, shown⟩)
    · exact ⟨_, _, _, rfl, by simp, named, _, _, rfl, by simp, counted, _, _, rfl, by simp, typed,
        .inr ⟨_, rfl, categorized, rfl⟩⟩
    · exact ⟨_, _, _, rfl, by simp, named, _, _, rfl, by simp, counted, _, _, rfl, by simp, typed,
        .inl ⟨_, _, rfl, by simp, categorized, _, rfl, shown, rfl⟩⟩
  · rintro columns i i' row row'
    cases row <;> (cases row'; rfl)

/-! ## Wallets -/

/-- Money: an amount, perhaps with a minus in front, and the unit. -/
def IsMoney (amount column : List Char) : Prop :=
  (∃ number, IsSigned number amount) ∧ column = amount ++ " ISK".toList

/-- What the columns of a line say of a purchase or a sale. -/
inductive WalletTransaction.Row : List (List Char) → WalletTransaction → Prop
  | row {dateTime quantity number name price amount total amount' client location : List Char}
      (dated : IsDateTime dateTime) (counted : IsSigned number quantity) (named : IsRun isVisible name)
      (priced : IsMoney amount price) (summed : IsMoney amount' total)
      (traded : ∀ c ∈ client, isVisible c = true) (located : ∀ c ∈ location, isVisible c = true) :
      Row [dateTime, quantity, name, price, total, client, location]
        { dateTime := String.ofList dateTime
          quantity := Quantity.read number
          name := String.ofList name
          price := Amount.read amount
          total := Amount.read amount'
          client := String.ofList client
          location := String.ofList location }

theorem WalletTransaction.read?_eq_some_iff {s : List Char} {t : WalletTransaction} :
    read? s = some t ↔ Row (columnsOf s) t := by
  have untabbed : '\t' ∉ " ISK".toList := by decide
  have money := ((((readsColumns_last 7 readsKind_text).column 6 readsKind_text).column_unit 5 " ISK"
    readsKind_signed untabbed).column_unit 4 " ISK" readsKind_signed untabbed)
  have reads := ((money.column 3 readsKind_visible).column 2 readsKind_signed).column 1 readsKind_dateTime
  change ReadsColumns shape _ at reads
  refine reads.map_match?_eq_some_iff ?_ ?_ ?_
  · rintro caps s columns ⟨dateTime, _, rfl, -, dated, quantity, _, rfl, -, ⟨number, counted⟩, name, _, rfl,
      -, named, amount, _, rfl, -, priced, amount', _, rfl, -, summed, client, _, rfl, -, traded, location,
      rfl, located, kept⟩
    simpa [Captures.text, Captures.get, Captures.get?_cons_of_ne, kept, dropWhile_minus counted] using
      Row.row dated counted named ⟨priced, rfl⟩ ⟨summed, rfl⟩ traded located
  · rintro columns t ⟨dated, counted, named, ⟨priced, rfl⟩, ⟨summed, rfl⟩, traded, located⟩
    exact ⟨_, _, _, rfl, by simp, dated, _, _, rfl, by simp, ⟨_, counted⟩, _, _, rfl, by simp, named,
      _, _, rfl, by simp, priced, _, _, rfl, by simp, summed, _, _, rfl, by simp, traded,
      _, rfl, located, rfl⟩
  · rintro columns t t' row row'
    cases row with
    | row _ counted _ priced summed =>
      cases row' with
      | row _ counted' _ priced' summed' =>
        have sameNumber := (dropWhile_minus counted).symm.trans (dropWhile_minus counted')
        have samePrice := List.append_cancel_right (priced.2.symm.trans priced'.2)
        have sameTotal := List.append_cancel_right (summed.2.symm.trans summed'.2)
        rw [sameNumber, samePrice, sameTotal]

/-- A journal entry has five columns at most. -/
theorem JournalEntry.length_columnsOf {s : List Char} {e : JournalEntry} (read : read? s = some e) :
    (columnsOf s).length ≤ 5 := by
  obtain ⟨caps, found, -⟩ := Option.map_eq_some_iff.1 read
  rw [match?_eq_head?, Option.map_eq_some_iff] at found
  obtain ⟨r, first, -⟩ := found
  have text : Spans Format.visible (IsRun isVisible) := readsKind_visible.spans
  have member := List.mem_of_mem_head? first
  simp only [shape, Format.line, List.cons_append, List.nil_append, Pattern.all, List.foldr_cons,
    List.foldr_nil, mem_readings_group readsKind_dateTime.spans, mem_readings_group text,
    mem_readings_group readsKind_signed.spans, mem_readings_group readsKind_text.spans,
    mem_readings_span (spans_text _), mem_readings_tab, mem_readings_optional, mem_readings_end] at member
  obtain ⟨dateTime, -, rfl, dated, -, rfl, kind, -, rfl, named, -, rfl, amount, -, rfl, ⟨_, paid⟩, -, -,
    rfl, rfl, -, rfl, balance, -, rfl, ⟨_, left⟩, -, rest, rfl, rfl, ending⟩ := member
  have untabbed : '\t' ∉ balance ++ " ISK".toList := by simp [readsKind_signed.untabbed _ ⟨_, left⟩]
  have untabbed' : '\t' ∉ amount ++ " ISK".toList := by simp [readsKind_signed.untabbed _ ⟨_, paid⟩]
  rw [columnsOf_append_tab (readsKind_dateTime.untabbed _ dated),
    columnsOf_append_tab (readsKind_visible.untabbed _ named), ← List.append_assoc,
    columnsOf_append_tab untabbed', ← List.append_assoc]
  rcases ending with ⟨_, rfl, text, -, rfl, shown, rfl, -⟩ | ⟨text, -, rfl, shown, rfl, -⟩
  all_goals have unmarked := readsKind_text.untabbed _ shown
  · rw [columnsOf_append_tab untabbed, List.append_nil, columnsOf_of_untabbed unmarked]
    exact Nat.le_refl 5
  · have whole : '\t' ∉ balance ++ " ISK".toList ++ text := by
      rw [List.mem_append]
      exact not_or.2 ⟨untabbed, unmarked⟩
    rw [List.append_nil, columnsOf_of_untabbed whole]
    exact Nat.le_succ 4

theorem WalletTransaction.length_columnsOf {s : List Char} {t : WalletTransaction}
    (read : read? s = some t) : (columnsOf s).length = 7 := by
  have row := read?_eq_some_iff.1 read
  generalize columnsOf s = columns at row ⊢
  cases row
  rfl

/-! ## Assets -/

/-- A column without white space at its ends, by its place behind the quantity; empty if it is missing. -/
def Asset.columnText (more : List (List Char)) (n : Nat) : String :=
  (more.map fun column => String.ofList (Text.trimBy Text.isBlank column))[n]?.getD ""

/-- What the columns of a line say of an asset. -/
inductive Asset.Row : List (List Char) → Asset → Prop
  | row {name quantity : List Char} {more : List (List Char)} (named : IsRun isVisible name)
      (counted : ∀ c ∈ quantity, isNumeric c = true)
      (shown : ∀ column ∈ more, ∀ c ∈ column, isVisible c = true) :
      Row (name :: quantity :: more)
        { name := String.ofList name
          quantity := if quantity.isEmpty then 1 else Quantity.read quantity
          group := columnText more 0
          category := columnText more 1
          size := columnText more 2
          slot := columnText more 3
          volume := columnText more 4
          metaLevel := columnText more 5
          techLevel := columnText more 6 }

/-- A quantity, and all columns behind it kept together. -/
theorem Asset.readsColumns_quantity :
    ReadsColumns (.seq (.group 2 (.eager isNumeric)) (.seq (.group 3 (.optional (.seq Format.tab
      (.eager fun c => c == '\t' || isVisible c)))) (.seq .atEnd .empty)))
    fun fields columns fields' => ∃ quantity more, columns = quantity :: more ∧
      (∀ c ∈ quantity, isNumeric c = true) ∧ (∀ column ∈ more, ∀ c ∈ column, isVisible c = true) ∧
      fields' = Function.update (Function.update fields 2 (some quantity)) 3
        (some (more.flatMap ('\t' :: ·))) := by
  have behind : Spans (.optional (.seq Format.tab (.eager fun c => c == '\t' || isVisible c))) _ :=
    ((spans_one _).seq (spans_eager _)).optional
  have number : ReadsKind (.eager isNumeric) _ := readsKind_eager (by decide)
  intro caps s fields
  simp only [mem_readings_group number.spans, mem_readings_group behind, mem_readings_end]
  constructor
  · rintro ⟨-, ⟨quantity, -, rfl, counted, text, -, rfl, shown, rfl, rfl⟩, rfl⟩
    have untabbed := number.untabbed _ counted
    rw [List.append_nil, get?_keep_eq_update, get?_keep_eq_update]
    rcases shown with ⟨-, rest, rfl, ⟨c, rfl, isTab⟩, shown⟩ | rfl
    · obtain rfl := beq_iff_eq.1 isTab
      have whole : columnsOf ('\t' :: rest) = [] :: columnsOf rest :=
        columnsOf_append_tab List.not_mem_nil rest
      refine ⟨quantity, columnsOf rest, columnsOf_append_tab untabbed rest, counted, ?_, ?_⟩
      · refine Text.forall_mem_splitAt_iff.2 fun c member => ?_
        simpa using shown c member
      · rw [← List.nil_append (List.flatMap _ _), ← eq_append_of_columnsOf whole, List.singleton_append]
    · exact ⟨quantity, [], by simpa using columnsOf_of_untabbed untabbed, counted, by simp, rfl⟩
  · rintro ⟨quantity, more, split, counted, shown, rfl⟩
    refine ⟨_, ⟨quantity, _, eq_append_of_columnsOf split, counted, _, [], (List.append_nil _).symm, ?_, rfl,
      rfl⟩, ?_⟩
    · cases more with
      | nil => exact .inr rfl
      | cons column more =>
        refine .inl ⟨['\t'], column ++ more.flatMap ('\t' :: ·), rfl, ⟨'\t', rfl, rfl⟩, fun c member => ?_⟩
        obtain ⟨head, tail⟩ := List.forall_mem_cons.1 shown
        simp only [List.mem_append, List.mem_flatMap, List.mem_cons] at member
        rcases member with first | ⟨other, member, rfl | later⟩
        · simp [head c first]
        · rfl
        · simp [tail other member c later]
    · rw [get?_keep_eq_update, get?_keep_eq_update]

theorem Asset.read?_eq_some_iff {s : List Char} {a : Asset} : read? s = some a ↔ Row (columnsOf s) a := by
  have reads := readsColumns_quantity.column 1 readsKind_visible
  change ReadsColumns shape _ at reads
  have made : read? s = (shape.match? s).map fun caps =>
      let column (n : Nat) := (Asset.columns (caps.get 3))[n]?.getD ""
      { name := caps.text 1
        quantity := if (caps.get 2).isEmpty then 1 else Quantity.read (caps.get 2)
        group := column 0
        category := column 1
        size := column 2
        slot := column 3
        volume := column 4
        metaLevel := column 5
        techLevel := column 6 } := by
    rw [read?]
    cases shape.match? s <;> rfl
  rw [made]
  refine reads.map_match?_eq_some_iff ?_ ?_ ?_
  · rintro caps s columns ⟨name, _, rfl, -, named, quantity, more, rfl, counted, shown, kept⟩
    have split : columnsOf (more.flatMap ('\t' :: ·)) = [] :: more :=
      columnsOf_append_flatMap List.not_mem_nil fun column member =>
        readsKind_text.untabbed _ (shown column member)
    have behind (n : Nat) : (Asset.columns (more.flatMap ('\t' :: ·)))[n]?.getD "" = columnText more n := by
      rw [Asset.columns, ← columnsOf, split, columnText, List.drop_one, List.tail_cons]
    simpa [Captures.text, Captures.get, Captures.get?_cons_of_ne, kept, behind] using
      Row.row named counted shown
  · rintro columns a ⟨named, counted, shown⟩
    exact ⟨_, _, _, rfl, by simp, named, _, _, rfl, counted, shown, rfl⟩
  · rintro columns a a' row row'
    cases row
    cases row'
    rfl

/-! ## Directional scans -/

/-- A distance, or the mark of one that is not known. -/
def IsPlace (column : List Char) : Prop :=
  column = "-".toList ∨ IsDistance column

theorem readsKind_place : ReadsKind (.alt (.text "-") Format.distance) IsPlace where
  spans := (spans_text _).alt readsKind_distance.spans
  untabbed := by
    rintro column (rfl | away)
    · decide
    · exact readsKind_distance.untabbed column away

/-- What the columns of a line say of a sighting, whose type may be given without its id. -/
inductive Sighting.Row : List (List Char) → Sighting → Prop
  | bare {label name distance : List Char} (labelled : ∀ c ∈ label, Format.noneOf "\t" c = true)
      (named : IsRun (Format.noneOf "\t") name) (away : IsPlace distance) :
      Row [label, name, distance]
        { typeId := none
          label := String.ofList label
          name := String.ofList name
          distance := String.ofList distance }
  | identified {id label name distance : List Char} (numbered : IsRun Text.isDigit id)
      (labelled : ∀ c ∈ label, Format.noneOf "\t" c = true) (named : IsRun (Format.noneOf "\t") name)
      (away : IsPlace distance) :
      Row [id, label, name, distance]
        { typeId := Quantity.integer? id
          label := String.ofList label
          name := String.ofList name
          distance := String.ofList distance }

theorem Sighting.read?_eq_some_iff {s : List Char} {i : Sighting} :
    read? s = some i ↔ Row (columnsOf s) i := by
  have label : ReadsKind (.eager (Format.noneOf "\t")) _ := readsKind_eager (by decide)
  have name : ReadsKind (.many (Format.noneOf "\t")) _ := readsKind_many (by decide)
  have id : ReadsKind (.many Text.isDigit) _ := readsKind_many (by decide)
  have bare := ((readsColumns_last 4 readsKind_place).column 3 name).column 2 label
  have reads := (bare.column 1 id).or bare (c := shape) fun x r => by
    rw [← readings_seq_assoc]
    exact mem_readings_optional
  have missing : Quantity.integer? [] = none := by decide +kernel
  have made : read? s = (shape.match? s).map fun caps =>
      { typeId := Quantity.integer? (caps.get 1)
        label := caps.text 2
        name := caps.text 3
        distance := caps.text 4 } := by
    rw [read?]
    cases shape.match? s <;> rfl
  rw [made]
  refine reads.map_match?_eq_some_iff ?_ ?_ ?_
  · rintro caps s columns (⟨id, _, rfl, -, numbered, label, _, rfl, -, labelled, name, _, rfl, -, named,
      distance, rfl, away, kept⟩ | ⟨label, _, rfl, -, labelled, name, _, rfl, -, named, distance, rfl, away, kept⟩)
    · simpa [Captures.text, Captures.get, Captures.get?_cons_of_ne, kept] using
        Row.identified numbered labelled named away
    · simpa [Captures.text, Captures.get, Captures.get?_cons_of_ne, kept, missing] using
        Row.bare labelled named away
  · rintro columns i (⟨labelled, named, away⟩ | ⟨numbered, labelled, named, away⟩)
    · exact ⟨_, .inr ⟨_, _, rfl, by simp, labelled, _, _, rfl, by simp, named, _, rfl, away, rfl⟩⟩
    · exact ⟨_, .inl ⟨_, _, rfl, by simp, numbered, _, _, rfl, by simp, labelled, _, _, rfl, by simp, named,
        _, rfl, away, rfl⟩⟩
  · rintro columns i i' row row'
    cases row <;> (cases row'; rfl)

/-! ## All formats of columns -/

theorem JournalEntry.read?_eq_none_of_transaction {s : List Char} {t : WalletTransaction}
    (read : WalletTransaction.read? s = some t) : read? s = none := by
  cases found : read? s with
  | none => rfl
  | some e =>
    have journal := length_columnsOf found
    have transaction := WalletTransaction.length_columnsOf read
    omega

/-- Each of the eight formats reads a line, without padding, if and only if its columns are allowed, and
gives what they say; and no line is both a transaction and an entry of a journal. -/
theorem reads_columns (line : Line) :
    (∀ i, SurveyedOre.read? line.clean = some i ↔ SurveyedOre.Row (columnsOf line.clean) i) ∧
      (∀ i, Commodity.read? line.clean = some i ↔ Commodity.Row (columnsOf line.clean) i) ∧
      (∀ i, ContainedItem.read? line.clean = some i ↔ ContainedItem.Row (columnsOf line.clean) i) ∧
      (∀ i, MinedOre.read? line.clean = some i ↔ MinedOre.Row (columnsOf line.clean) i) ∧
      (∀ i, ContractItem.read? line.clean = some i ↔ ContractItem.Row (columnsOf line.clean) i) ∧
      (∀ t, WalletTransaction.read? line.clean = some t ↔ WalletTransaction.Row (columnsOf line.clean) t) ∧
      (∀ a, Asset.read? line.clean = some a ↔ Asset.Row (columnsOf line.clean) a) ∧
      (∀ i, Sighting.read? line.clean = some i ↔ Sighting.Row (columnsOf line.clean) i) ∧
      ∀ t e, ¬(WalletTransaction.read? line.clean = some t ∧ JournalEntry.read? line.clean = some e) := by
  refine ⟨fun _ => SurveyedOre.read?_eq_some_iff, fun _ => Commodity.read?_eq_some_iff,
    fun _ => ContainedItem.read?_eq_some_iff, fun _ => MinedOre.read?_eq_some_iff,
    fun _ => ContractItem.read?_eq_some_iff, fun _ => WalletTransaction.read?_eq_some_iff,
    fun _ => Asset.read?_eq_some_iff, fun _ => Sighting.read?_eq_some_iff, ?_⟩
  rintro t e ⟨transaction, journal⟩
  rw [JournalEntry.read?_eq_none_of_transaction transaction] at journal
  cases journal

end ItemAppraisal
