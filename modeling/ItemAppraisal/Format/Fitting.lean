import ItemAppraisal.Format.Cell

/-!
# Fittings

A block opens with `[Ship, Name]` and holds a module on each line, with the number of units or a loaded
charge after it. Blank lines and marks of empty slots belong to it. It ends before the next opening line
or at the end of the paste.
-/

namespace ItemAppraisal

open Text (Pattern)

/-- A fitted ship. -/
structure Fitting where
  ship : String
  name : String
  items : List Stack
  deriving DecidableEq, Repr

namespace Fitting

/-- The shape of an opening line. -/
def headerShape : Pattern :=
  Format.line [.text "[", .group 1 (.many (Format.noneOf ",]")), .text ",", .eager Text.isBlank,
    .group 2 (.eager (Format.noneOf "]")), .text "]"]

/-- The shape of the mark of an empty slot. -/
def emptySlotShape : Pattern :=
  Format.line [.text "[", .one (fun c => c == 'E' || c == 'e'), .text "mpty ",
    .many (Format.noneOf "]"), .text "]"]

/-- The shape of a line with a module. -/
def moduleShape : Pattern :=
  Format.line [.group 1 (.few (Format.noneOf ",\t[]")),
    .optional (.seq (.text " x") (.group 2 Format.number)),
    .optional (.all [.text ",", .eager Text.isBlank, .group 3 (.few (Format.noneOf ",\t[]"))])]

/-- The mark of a module that is switched off. -/
def offlineMark : List Char := " /OFFLINE".toList

/-- The ship and the name of an opening line. -/
def header? (s : List Char) : Option (String × String) :=
  (headerShape.match? s).map fun caps =>
    let part (n : Nat) := String.ofList (Text.trimBy Text.isBlank (caps.get n))
    (part 1, part 2)

/-- The module of a line and its charge. -/
def stacks? (s : List Char) : Option (List Stack) :=
  (moduleShape.match? s).map fun caps =>
    let part (s : List Char) := String.ofList (Text.trimBy Text.isBlank s)
    let quantity := ((caps.get? 2).map Quantity.read).getD 1
    ⟨part (caps.get 1), quantity⟩ :: match caps.get? 3 with
      | some charge => [⟨part charge, 1⟩]
      | none => []

/-- What a line inside a block adds to it. -/
def read? (s : List Char) : Option (List Stack) :=
  if s.isEmpty || emptySlotShape.fits s then some []
  else stacks? (Text.withoutEnding offlineMark s)

/-- The lines of the first block: the opening line and what follows it up to the next one. -/
def block (paste : Paste) : List Line :=
  match paste.lines.dropWhile fun line => !headerShape.fits line.clean with
  | [] => []
  | first :: rest => first :: rest.takeWhile fun line => !headerShape.fits line.clean

/-- The lines of the first block that it is read from, with what each of them adds. -/
def entries (lines : List Line) : List (Nat × List Stack) :=
  lines.filterMap fun line => (read? line.clean).map (line.number, ·)

/-- Reads the first block, with the numbers of its lines. -/
def readBlock (paste : Paste) : Option (Fitting × List Nat) :=
  match block paste with
  | [] => none
  | first :: rest =>
    (header? first.clean).map fun (ship, name) =>
      let entries := entries rest
      (⟨ship, name, entries.flatMap (·.2)⟩, first.number :: entries.map (·.1))

/-- The listed items of a fitting: the ship, then what is fitted to it. -/
def listed (f : Fitting) : List ListedItem :=
  { name := f.ship, quantity := 1 } :: f.items.map (·.listed)

end Fitting

end ItemAppraisal
