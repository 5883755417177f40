import ItemAppraisal.Format.Cell
import ItemAppraisal.Types.Catalog

/-!
# Listings

One item on a line, as a name, a quantity and a name, or a name and a quantity. A line counts only if its
name is the name of a type; names that end in digits are tried as a whole first.
-/

namespace ItemAppraisal.Format.Listing

open Text (Pattern)

/-- The letter between a number and a name. -/
def times : Pattern := .optional (.one fun c => c == 'x' || c == 'X')

/-- The shape of a quantity in front of a name. -/
def quantityFirst : Pattern :=
  line [.group 1 number, .eager Text.isBlank, times, .many Text.isBlank, .group 2 visible]

/-- The shape of a name in front of a quantity. -/
def quantityLast : Pattern :=
  line [.group 1 (.few isVisible), .many (fun c => Text.isBlank c || c == ':'), times,
    .eager Text.isBlank, .group 2 number]

/-- A stack, if its name without white space at the ends is the name of a type. -/
def known? (types : TypeCatalog) (name number : List Char) : Option Stack :=
  let name := String.ofList (Text.trimBy Text.isBlank name)
  if types.hasName name then some ⟨name, Quantity.read number⟩ else none

/-- The stack of a line with the quantity in front. -/
def readFirst? (types : TypeCatalog) (s : List Char) : Option Stack :=
  (quantityFirst.match? s).bind fun caps => known? types (caps.get 2) (caps.get 1)

/-- The stack of a line with the quantity at the end. -/
def readLast? (types : TypeCatalog) (s : List Char) : Option Stack :=
  (quantityLast.match? s).bind fun caps => known? types (caps.get 1) (caps.get 2)

/-- Reads a line. -/
def read? (types : TypeCatalog) (s : List Char) : Option Stack :=
  if s.isEmpty then none
  else if types.hasName (String.ofList s) then some ⟨String.ofList s, 1⟩
  else match readFirst? types s with
    | some stack => some stack
    | none => readLast? types s

end ItemAppraisal.Format.Listing
