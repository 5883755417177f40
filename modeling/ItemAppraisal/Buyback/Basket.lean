import ItemAppraisal.Item.Appraised

/-!
# Baskets of materials

Materials by type. A material that comes out of different steps, or out of steps of different
efficiency, is mixed and reports neither. Main statement: adding a line adds its type and no other
(`mem_typeIds_add`).
-/

namespace ItemAppraisal

/-- A material in a basket. -/
structure MaterialLine where
  typeId : Int
  name : String
  quantity : Int
  /-- The step that the first units came out of. -/
  qualifier : Qualifier
  /-- The efficiency of that step in percent. -/
  efficiency : Float
  /-- Set once units of another step or efficiency were added. -/
  mixed : Bool := false
  deriving DecidableEq

namespace MaterialLine

/-- The step, unless the line is mixed. -/
def reportedQualifier (l : MaterialLine) : Option Qualifier :=
  if l.mixed then none else some l.qualifier

/-- The efficiency, zero for a mixed line. -/
def reportedEfficiency (l : MaterialLine) : Float :=
  if l.mixed then 0 else l.efficiency

/-- A line with the units of another line of its type. -/
def absorb (l m : MaterialLine) : MaterialLine :=
  { l with
    quantity := Quantity.add l.quantity m.quantity
    mixed := l.mixed || m.mixed || l.qualifier != m.qualifier || l.efficiency != m.efficiency }

/-- Adds a line to lines in ascending order of their types. -/
def addTo (line : MaterialLine) : List MaterialLine → List MaterialLine
  | [] => [line]
  | l :: ls =>
    if line.typeId < l.typeId then line :: l :: ls
    else if line.typeId = l.typeId then l.absorb line :: ls
    else l :: line.addTo ls

theorem mem_typeIds_addTo {line : MaterialLine} {ls : List MaterialLine} {id : Int} :
    id ∈ (line.addTo ls).map (·.typeId) ↔ id = line.typeId ∨ id ∈ ls.map (·.typeId) := by
  induction ls with
  | nil => simp [addTo]
  | cons l ls ih =>
    simp only [addTo]
    split
    · simp
    · split
      · rename_i h
        simp [absorb, h]
      · simp only [List.map_cons, List.mem_cons, ih]
        exact or_left_comm

theorem addTo_ascending {line : MaterialLine} {ls : List MaterialLine}
    (h : ls.Pairwise fun a b => a.typeId < b.typeId) :
    (line.addTo ls).Pairwise fun a b => a.typeId < b.typeId := by
  induction ls with
  | nil => simp [addTo]
  | cons l ls ih =>
    obtain ⟨hl, hls⟩ := List.pairwise_cons.1 h
    simp only [addTo]
    split
    · rename_i hlt
      refine List.pairwise_cons.2 ⟨fun m hm => ?_, h⟩
      rcases List.mem_cons.1 hm with rfl | hm
      · exact hlt
      · exact Int.lt_trans hlt (hl m hm)
    · split
      · exact List.pairwise_cons.2 ⟨fun m hm => by simpa [absorb] using hl m hm, hls⟩
      · rename_i hnlt hne
        refine List.pairwise_cons.2 ⟨fun m hm => ?_, ih hls⟩
        have hm' := mem_typeIds_addTo.1 (List.mem_map_of_mem (f := (·.typeId)) hm)
        rcases hm' with heq | hm'
        · omega
        · obtain ⟨k, hk, hkm⟩ := List.mem_map.1 hm'
          have := hl k hk
          omega

end MaterialLine

/-- Materials in ascending order of their types. -/
structure Basket where
  lines : List MaterialLine
  ascending : lines.Pairwise (fun a b => a.typeId < b.typeId)

namespace Basket

/-- The basket with no materials. -/
def empty : Basket := ⟨[], .nil⟩

/-- The types of the materials. -/
def typeIds (b : Basket) : List Int :=
  b.lines.map (·.typeId)

/-- Adds a material. -/
def add (b : Basket) (line : MaterialLine) : Basket :=
  ⟨line.addTo b.lines, MaterialLine.addTo_ascending b.ascending⟩

/-- Adds the materials of a list in its order. -/
def addAll (b : Basket) (lines : List MaterialLine) : Basket :=
  lines.foldl add b

/-- Adds the materials of another basket. -/
def merge (b c : Basket) : Basket :=
  b.addAll c.lines

/-- The material of a type. -/
def line? (b : Basket) (typeId : Int) : Option MaterialLine :=
  b.lines.find? (·.typeId == typeId)

/-- The sum of the quantities. -/
def totalQuantity (b : Basket) : Int :=
  (b.lines.map (·.quantity)).foldr (· + ·) 0

theorem addAll_append (b : Basket) (lines more : List MaterialLine) :
    b.addAll (lines ++ more) = (b.addAll lines).addAll more := by
  simp [addAll]

theorem mem_typeIds_add {b : Basket} {line : MaterialLine} {id : Int} :
    id ∈ (b.add line).typeIds ↔ id = line.typeId ∨ id ∈ b.typeIds :=
  MaterialLine.mem_typeIds_addTo

end Basket

end ItemAppraisal
