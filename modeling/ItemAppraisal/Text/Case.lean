import ItemAppraisal.Text.CaseTables
import ItemAppraisal.Text.Cased

/-!
# Small and capital forms

Full case mapping of texts: a character may map to several, and a capital sigma at the end of a word
has a small form of its own.
-/

namespace ItemAppraisal.Text

/-- The small form of one character. -/
def lowerOf (c : Char) : List Char :=
  if c.toNat < 0x80 then [c.toLower]
  else if c.toNat == 0x130 then ['i', Char.ofNat 0x307]
  else [(counterpart lowerRuns c).getD c]

/-- The capital form of one character. -/
def upperOf (c : Char) : List Char :=
  if c.toNat < 0x80 then [c.toUpper]
  else match upperExpansions.lookup c.toNat with
    | some form => form.map Char.ofNat
    | none => [(counterpart upperRuns c).getD c]

/-- Whether the first character that is not case-ignorable has a case. -/
def startsCased (s : List Char) : Bool :=
  match s.dropWhile isCaseIgnorable with
  | c :: _ => isCased c
  | [] => false

/-- The small form of a text that follows the characters of `before`, nearest first. A capital sigma
after a cased letter and not before one takes its word-final form. -/
def lowerAfter (before : List Char) : List Char → List Char
  | [] => []
  | c :: rest =>
    let form :=
      if c.toNat == 0x3a3 then
        if startsCased before && !startsCased rest then [Char.ofNat 0x3c2] else [Char.ofNat 0x3c3]
      else lowerOf c
    form ++ lowerAfter (c :: before) rest

/-- The text in small letters. -/
def lowercase (s : String) : String :=
  String.ofList (lowerAfter [] s.toList)

/-- The text in capitals. -/
def uppercase (s : String) : String :=
  String.ofList (s.toList.flatMap upperOf)

/-- Whether two texts differ at most in the case of ASCII letters. -/
def equalIgnoringAsciiCase (a b : String) : Bool :=
  a.toList.map Char.toLower == b.toList.map Char.toLower

end ItemAppraisal.Text
