import ItemAppraisal.Format.Cell

/-!
# Cargo scans

Lines such as `1,000 Tritanium`. A copy of a blueprint is marked at the end of its name and has one run.
-/

namespace ItemAppraisal

open Text (Pattern)

/-- A line of a cargo scan. -/
structure CargoItem where
  name : String
  quantity : Int
  blueprintCopy : Bool
  deriving DecidableEq, Repr

namespace CargoItem

/-- The mark of a blueprint copy. -/
def copyMark : List Char := " (Copy)".toList

/-- The shape of a line. -/
def shape : Pattern :=
  Format.line [.group 1 Format.number, .text " ", .group 2 Format.visible]

/-- Reads a line. -/
def read? (s : List Char) : Option CargoItem := do
  let caps ← shape.match? s
  let name := Text.trimBy Text.isBlank (caps.get 2)
  return {
    name := String.ofList (Text.withoutEnding copyMark name)
    quantity := Quantity.read (caps.get 1)
    blueprintCopy := copyMark.isSuffixOf name }

/-- The listed item of a line. -/
def listed (i : CargoItem) : ListedItem :=
  { name := i.name
    quantity := i.quantity
    details := { blueprintCopy := i.blueprintCopy, copyRuns := if i.blueprintCopy then 1 else 0 } }

end CargoItem

end ItemAppraisal
