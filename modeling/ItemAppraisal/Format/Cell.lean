import ItemAppraisal.Item.Listed
import ItemAppraisal.Paste
import ItemAppraisal.Quantity
import ItemAppraisal.Text.Pattern.Frontier

/-!
# Cells

The parts that the formats of pasted text share: columns between tabs, numbers with their separators,
dates, distances, and the pair of a name and a quantity.
-/

namespace ItemAppraisal

/-- A number of units under a name. -/
structure Stack where
  name : String
  quantity : Int
  deriving DecidableEq, Repr

/-- A stack as a listed item without details. -/
def Stack.listed (s : Stack) : ListedItem :=
  { name := s.name, quantity := s.quantity }

namespace Format

open Text (Pattern)

/-- A character of a column of text: any but white space, or a space. -/
def isVisible (c : Char) : Bool :=
  !Text.isBlank c || c == ' '

/-- A character of a number: a digit or a separator. -/
def isNumeric (c : Char) : Bool :=
  Text.isDigit c || c == ',' || c == Char.ofNat 39 || c == '.'

/-- A character that is none of those listed. -/
def noneOf (excluded : String) (c : Char) : Bool :=
  !excluded.toList.contains c

/-- The mark between two columns. -/
def tab : Pattern := .one (· == '\t')

/-- A column of text. -/
def visible : Pattern := .many isVisible

/-- A number with separators. -/
def number : Pattern := .many isNumeric

/-- A number with separators and perhaps a minus. -/
def signedNumber : Pattern := .all [.optional (.one (· == '-')), number]

/-- A number of digits. -/
def digits (n : Nat) : Pattern := .exactly n Text.isDigit

/-- A date such as `2024.05.01`. -/
def date : Pattern := .all [digits 4, .text ".", digits 2, .text ".", digits 2]

/-- A date and a time of day, with or without seconds. -/
def dateTime : Pattern :=
  .all [date, .text " ", digits 2, .text ":", digits 2, .optional (.all [.text ":", digits 2])]

/-- A distance with its unit. -/
def distance : Pattern :=
  .all [number, .text " ", .alt (.text "m") (.alt (.text "km") (.text "AU"))]

/-- Shapes that fill a line from its front to its end. -/
def line (parts : List Pattern) : Pattern :=
  .all (parts ++ [.atEnd])

end Format

end ItemAppraisal
