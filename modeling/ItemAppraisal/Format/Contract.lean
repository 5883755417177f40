import ItemAppraisal.Format.Cell
import ItemAppraisal.Text.Case

/-!
# Contracts

Lines of a name, a quantity, a type and a category, with a fifth column that marks fitted items and
copies of blueprints.
-/

namespace ItemAppraisal

open Text (Pattern)

/-- A line of a contract. -/
structure ContractItem where
  name : String
  quantity : Int
  itemType : String
  category : String
  remarks : String
  fitted : Bool
  blueprintCopy : Bool
  copyRuns : Int
  deriving DecidableEq, Repr

namespace ContractItem

/-- The shape of a line. -/
def shape : Pattern :=
  Format.line [.group 1 Format.visible, Format.tab, .group 2 Format.number, Format.tab,
    .group 3 Format.visible, Format.tab, .group 4 Format.visible,
    .optional (.seq Format.tab (.group 5 (.eager Format.isVisible)))]

/-- An ASCII letter in either case; the long s is a form of the letter s. -/
def anyCase (letter c : Char) : Bool :=
  c.toLower == letter.toLower || (letter.toLower == 's' && c == Char.ofNat 0x17f)

/-- A word in any case. -/
def wordAnyCase (word : String) : Pattern :=
  .all (word.toList.map fun letter => .one (anyCase letter))

/-- The mark of a blueprint copy with its runs, which may be missing. -/
def copyMark : Pattern :=
  let blanks := Pattern.eager Text.isBlank
  .seq (wordAnyCase "BLUEPRINT COPY")
    (.optional (.all [blanks, .text "-", blanks, wordAnyCase "Runs:", blanks,
      .group 1 Format.number]))

/-- The runs that the remarks give a blueprint copy, one if they do not say; `none` for all else. -/
def copyRuns? (remarks : List Char) : Option Int :=
  (copyMark.search? remarks).map fun caps => ((caps.get? 1).map Quantity.read).getD 1

/-- Reads a line. -/
def read? (s : List Char) : Option ContractItem := do
  let caps ← shape.match? s
  let remarks := Text.trimBy Text.isBlank (caps.get 5)
  let runs := copyRuns? remarks
  return {
    name := caps.text 1
    quantity := Quantity.read (caps.get 2)
    itemType := caps.text 3
    category := caps.text 4
    remarks := String.ofList remarks
    fitted := Text.equalIgnoringAsciiCase (String.ofList remarks) "Fitted"
    blueprintCopy := runs.isSome
    copyRuns := runs.getD 0 }

/-- The listed item of a line. -/
def listed (i : ContractItem) : ListedItem :=
  { name := i.name
    quantity := i.quantity
    details := { fitted := i.fitted, blueprintCopy := i.blueprintCopy, copyRuns := i.copyRuns } }

end ContractItem

end ItemAppraisal
