import ItemAppraisal.Text.Blank
import ItemAppraisal.Text.Part
import Std.Data.HashSet

/-!
# Pastes

A pasted text as numbered lines. Lines keep their numbers when others are taken away. Main statements:
what remains without some numbers is exactly the lines with other numbers (`mem_without`), and the lines
that hold text are counted once for each time that their number is given (`payload_eq`).
-/

namespace ItemAppraisal

/-- A line with its number in the pasted text, from 1. -/
structure Line where
  number : Nat
  text : String
  deriving DecidableEq, Repr

namespace Line

/-- A character that may surround a line without being part of it: a space, a carriage return or a
no-break space. -/
def isPadding (c : Char) : Bool :=
  c == ' ' || c == '\r' || c == Char.ofNat 0xa0

/-- The text without padding. -/
def clean (line : Line) : List Char :=
  Text.trimBy isPadding line.text.toList

/-- A character without text: a space, a tab or a carriage return. -/
def isSpacing (c : Char) : Bool :=
  c == ' ' || c == '\t' || c == '\r'

/-- The text without spacing at its ends. -/
def trimmed (line : Line) : String :=
  Text.trimText isSpacing line.text

/-- Whether a line holds text besides spacing. -/
def holdsText (line : Line) : Bool :=
  !line.trimmed.isEmpty

end Line

/-- Lines in ascending order of their numbers. -/
structure Paste where
  lines : List Line
  ascending : lines.Pairwise fun a b => a.number < b.number

namespace Paste

/-- The texts between line feeds, without the carriage returns at their ends. -/
def splitLines (text : String) : List String :=
  (Text.splitAt (· == '\n') text.toList).map fun s =>
    String.ofList (Text.dropRightBy (· == '\r') s)

/-- Texts with the numbers from `first` on. -/
def numberFrom : Nat → List String → List Line
  | _, [] => []
  | n, s :: rest => ⟨n, s⟩ :: numberFrom (n + 1) rest

theorem le_of_mem_numberFrom {n : Nat} {texts : List String} {line : Line}
    (h : line ∈ numberFrom n texts) : n ≤ line.number := by
  induction texts generalizing n with
  | nil => simp [numberFrom] at h
  | cons s rest ih =>
    rcases List.mem_cons.1 h with rfl | h
    · exact Nat.le_refl _
    · exact Nat.le_of_succ_le (ih h)

theorem numberFrom_ascending (n : Nat) (texts : List String) :
    (numberFrom n texts).Pairwise fun a b => a.number < b.number := by
  induction texts generalizing n with
  | nil => exact .nil
  | cons s rest ih => exact .cons (fun _ h => le_of_mem_numberFrom h) (ih _)

/-- The lines of a text, numbered from 1. -/
def ofText (text : String) : Paste :=
  ⟨numberFrom 1 (splitLines text), numberFrom_ascending 1 _⟩

/-- The lines that satisfy a condition. -/
def filter (keep : Line → Bool) (paste : Paste) : Paste :=
  ⟨paste.lines.filter keep, paste.ascending.filter _⟩

/-- The lines with other numbers. -/
def without (paste : Paste) (numbers : List Nat) : Paste :=
  let taken := Std.HashSet.ofList numbers
  paste.filter fun line => !taken.contains line.number

/-- The line with a number. -/
def line? (paste : Paste) (number : Nat) : Option Line :=
  paste.lines.find? (·.number == number)

/-- The numbers of the lines. -/
def numbers (paste : Paste) : List Nat :=
  paste.lines.map (·.number)

/-- The lines that hold text, each without spacing at its ends. -/
def trimmedLines (paste : Paste) : List Line :=
  (paste.lines.filter (·.holdsText)).map fun line => ⟨line.number, line.trimmed⟩

/-- How many of the numbered lines hold text. -/
def payload (paste : Paste) (numbers : List Nat) : Nat :=
  let texts := Std.HashSet.ofList ((paste.lines.filter (·.holdsText)).map (·.number))
  (numbers.filter (texts.contains ·)).length

/-- What a reader of single lines makes of the lines that it reads, with their numbers. The reader sees
lines without padding. -/
def readLines {α : Type} (read : List Char → Option α) (paste : Paste) : List (Nat × α) :=
  paste.lines.filterMap fun line => (read line.clean).map (line.number, ·)

theorem mem_without {paste : Paste} {numbers : List Nat} {line : Line} :
    line ∈ (paste.without numbers).lines ↔ line ∈ paste.lines ∧ line.number ∉ numbers := by
  simp [without, filter]

theorem eq_of_number_eq {paste : Paste} {a b : Line} (ha : a ∈ paste.lines) (hb : b ∈ paste.lines)
    (h : a.number = b.number) : a = b := by
  have := paste.ascending
  generalize paste.lines = lines at ha hb this
  induction this with
  | nil => simp at ha
  | cons hlt _ ih =>
    rcases List.mem_cons.1 ha with rfl | ha' <;> rcases List.mem_cons.1 hb with rfl | hb'
    · rfl
    · exact absurd (hlt b hb') (by omega)
    · exact absurd (hlt a ha') (by omega)
    · exact ih ha' hb'

theorem line?_eq_some_iff {paste : Paste} {n : Nat} {line : Line} :
    paste.line? n = some line ↔ line ∈ paste.lines ∧ line.number = n := by
  constructor
  · intro h
    exact ⟨List.mem_of_find?_eq_some h, by simpa using List.find?_some h⟩
  · rintro ⟨hm, rfl⟩
    cases h : paste.line? line.number with
    | none => simpa using List.find?_eq_none.1 h line hm
    | some other =>
      rw [eq_of_number_eq (List.mem_of_find?_eq_some h) hm (by simpa using List.find?_some h)]

theorem payload_eq (paste : Paste) (numbers : List Nat) :
    paste.payload numbers =
      (numbers.filter fun n => (paste.line? n).any (·.holdsText)).length := by
  rw [payload]
  congr 2
  funext n
  rw [Bool.eq_iff_iff, Option.any_eq_true]
  simp only [Std.HashSet.contains_ofList, List.contains_iff_mem, List.mem_map, List.mem_filter,
    line?_eq_some_iff]
  constructor
  · rintro ⟨line, ⟨hm, ht⟩, hn⟩
    exact ⟨line, ⟨hm, hn⟩, ht⟩
  · rintro ⟨line, ⟨hm, hn⟩, ht⟩
    exact ⟨line, ⟨hm, ht⟩, hn⟩

end Paste

end ItemAppraisal
