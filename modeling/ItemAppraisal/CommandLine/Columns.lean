/-!
# Columns

Texts that fill a column of a table. Main statement: a text that is not too long fills its column
exactly (`length_flushRight`).
-/

namespace ItemAppraisal.CommandLine

/-- Blanks that fill up a text to a width. -/
def filling (width : Nat) (text : String) : List Char :=
  List.replicate (width - text.length) ' '

/-- A text at the left of a column. -/
def flushLeft (width : Nat) (text : String) : String :=
  String.ofList (text.toList ++ filling width text)

/-- A text at the right of a column. -/
def flushRight (width : Nat) (text : String) : String :=
  String.ofList (filling width text ++ text.toList)

/-- Lines as a text. -/
def unlines (lines : List String) : String :=
  String.join (lines.map (· ++ "\n"))

theorem length_flushRight {width : Nat} {text : String} (h : text.length ≤ width) :
    (flushRight width text).length = width := by
  have hl : text.toList.length = text.length := rfl
  simp only [flushRight, filling, String.length_ofList, List.length_append, List.length_replicate]
  omega

end ItemAppraisal.CommandLine
