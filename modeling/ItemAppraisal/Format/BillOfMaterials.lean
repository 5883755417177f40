import ItemAppraisal.Format.Cell

/-!
# Bills of materials

Lines such as `Tritanium (32,000 Units)`.
-/

namespace ItemAppraisal.Format.BillOfMaterials

open Text (Pattern)

/-- The shape of a line. -/
def shape : Pattern :=
  line [.group 1 (.few (noneOf "\t()")), .text " (", .group 2 number, .text " Unit",
    .optional (.text "s"), .text ")"]

/-- Reads a line. -/
def read? (s : List Char) : Option Stack :=
  (shape.match? s).map fun caps => ⟨caps.text 1, Quantity.read (caps.get 2)⟩

end ItemAppraisal.Format.BillOfMaterials
