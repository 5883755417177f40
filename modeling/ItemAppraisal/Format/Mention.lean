import ItemAppraisal.Format.Cell
import ItemAppraisal.Types.Catalog

/-!
# Mentions

The name of a type anywhere on a line: a whole column, or else the longest run of words. The first
positive number elsewhere on the line is the quantity; without one it is 1. Main statement: `firstRun?`
tries the runs of a length from left to right (`firstRun?_eq_findSome?`).
-/

namespace ItemAppraisal.Format.Mention

open Text (Pattern)

/-- The most words of a name that are tried. -/
def mostWords : Nat := 8

/-- The shape of a number that stands alone, perhaps with the letter x on either side. -/
def quantityShape : Pattern :=
  let times := Pattern.optional (.one fun c => c == 'x' || c == 'X')
  line [times, .eager Text.isBlank,
    .group 1 (.all [.eager isNumeric, .one Text.isDigit, .eager isNumeric]), .eager Text.isBlank,
    times]

/-- The quantity that a column or a word gives, if it is a positive number. -/
def quantity? (s : List Char) : Option Int :=
  ((quantityShape.match? (Text.trimBy Text.isBlank s)).map fun caps =>
    Quantity.read (caps.get 1)).filter (0 < ·)

/-! ## Columns -/

/-- The texts between tabs and pairs of spaces. `taken` holds the characters of the first one so far,
the last one first. A longer run of spaces leaves only blanks between its pairs. -/
def columnsAfter (taken : List Char) : List Char → List (List Char)
  | [] => [taken.reverse]
  | '\t' :: rest => taken.reverse :: columnsAfter [] rest
  | ' ' :: ' ' :: rest => taken.reverse :: columnsAfter [] rest
  | c :: rest => columnsAfter (c :: taken) rest

/-- The columns that hold text, without white space at their ends: what stands between tabs and runs of
two or more spaces. -/
def columns (s : List Char) : List (List Char) :=
  ((columnsAfter [] s).map (Text.trimBy Text.isBlank)).filter (!·.isEmpty)

/-- The leftmost column that is the name of a type, with the first quantity of another column. -/
def ofColumns? (types : TypeCatalog) (s : List Char) : Option Stack := do
  let columns := columns s
  let index ← columns.findIdx? fun column => types.hasName (String.ofList column)
  let name ← columns[index]?
  return ⟨String.ofList name, ((columns.eraseIdx index).findSome? quantity?).getD 1⟩

/-! ## Words -/

/-- Words with single spaces between them. -/
def joined (words : List (List Char)) : String :=
  String.ofList (List.intercalate [' '] words)

/-- The run of `length` words from `start` on, if it is the name of a type, with the first quantity of
another word. -/
def ofRun? (types : TypeCatalog) (words : List (List Char)) (length start : Nat) : Option Stack :=
  let name := joined ((words.drop start).take length)
  if types.hasName name then
    let others := words.take start ++ words.drop (start + length)
    some ⟨name, (others.findSome? quantity?).getD 1⟩
  else none

/-- The leftmost of `count` runs of `length` words that is the name of a type. The first of them starts
after the words of `before`, which holds the nearest one first. -/
def firstRun? (types : TypeCatalog) (length : Nat) :
    Nat → List (List Char) → List (List Char) → Option Stack
  | 0, _, _ => none
  | count + 1, before, words =>
    let name := joined (words.take length)
    if types.hasName name then
      some ⟨name, ((before.reverse ++ words.drop length).findSome? quantity?).getD 1⟩
    else match words with
      | [] => none
      | word :: words => firstRun? types length count (word :: before) words

/-- The longest run of words that is the name of a type, of runs of one length the leftmost. -/
def ofWords? (types : TypeCatalog) (s : List Char) : Option Stack :=
  let words := Text.words s
  let longest := min words.length mostWords
  ((List.range longest).map (longest - ·)).findSome? fun length =>
    firstRun? types length (words.length - length + 1) [] words

theorem firstRun?_eq_findSome? (types : TypeCatalog) (length count : Nat)
    (before words : List (List Char)) (h : count ≤ words.length + 1) :
    firstRun? types length count before words =
      (List.range count).findSome? fun i =>
        ofRun? types (before.reverse ++ words) length (before.length + i) := by
  induction count generalizing before words with
  | zero => rfl
  | succ count ih =>
    have hfirst : ofRun? types (before.reverse ++ words) length (before.length + 0) =
        if types.hasName (joined (words.take length)) then
          some ⟨joined (words.take length),
            ((before.reverse ++ words.drop length).findSome? quantity?).getD 1⟩
        else none := by
      have hdrop (n : Nat) : (before.reverse ++ words).drop (before.length + n) = words.drop n := by
        rw [← List.length_reverse, List.drop_append]
        simp
      have htake : (before.reverse ++ words).take before.length = before.reverse := by
        rw [← List.length_reverse, List.take_left]
      simp only [ofRun?, Nat.add_zero, hdrop, htake]
      simp
    rw [firstRun?.eq_def, List.range_succ_eq_map, List.findSome?_cons, hfirst]
    simp only
    by_cases hn : types.hasName (joined (words.take length)) = true
    · simp [hn]
    · simp only [hn, Bool.false_eq_true, ↓reduceIte]
      cases words with
      | nil =>
        have : count = 0 := by simpa using h
        subst this
        rfl
      | cons word words =>
        simp only [List.length_cons] at h
        simp only
        rw [ih (word :: before) words (by omega), List.findSome?_map]
        simp [Function.comp_def, Nat.add_assoc, Nat.add_comm 1]

theorem ofWords?_eq_findSome? (types : TypeCatalog) (s : List Char) : ofWords? types s =
    (List.range (min (Text.words s).length mostWords)).findSome? fun k =>
      (List.range ((Text.words s).length - (min (Text.words s).length mostWords - k) + 1)).findSome?
        fun start => ofRun? types (Text.words s) (min (Text.words s).length mostWords - k) start := by
  rw [ofWords?, List.findSome?_map]
  congr 1
  funext k
  rw [Function.comp_apply, firstRun?_eq_findSome? _ _ _ _ _ (by omega)]
  simp

/-- Reads a line. -/
def read? (types : TypeCatalog) (s : List Char) : Option Stack :=
  if s.isEmpty then none
  else match ofColumns? types s with
    | some stack => some stack
    | none => ofWords? types s

theorem read?_eq_or (types : TypeCatalog) (s : List Char) :
    read? types s = (ofColumns? types s).or (ofWords? types s) := by
  cases s with
  | nil => rfl
  | cons c s =>
    have some : (c :: s).isEmpty = false := rfl
    simp only [read?, some, Bool.false_eq_true, if_false]
    cases ofColumns? types (c :: s) <;> simp only [Option.some_or, Option.none_or]

end ItemAppraisal.Format.Mention
