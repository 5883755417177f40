import ItemAppraisal.Buyback.Basket
import Mathlib.Data.List.Sort

/-!
# Lines of baskets

A basket has at most one line of each type. Adding lines changes the line of their type and no other
(`line?_addAll`), so what merged baskets hold of a type is what their lines of that type add up to
(`line?_foldl_merge`).
-/

namespace ItemAppraisal

namespace MaterialLine

/-- A line once it is added to the line of its type, if there is one. -/
def onto (line : MaterialLine) : Option MaterialLine → MaterialLine
  | some l => l.absorb line
  | none => line

/-- The line of a type once lines of that type are added. -/
def addUp (row : Option MaterialLine) (lines : List MaterialLine) : Option MaterialLine :=
  lines.foldl (fun row line => some (line.onto row)) row

theorem addUp_some (l : MaterialLine) (lines : List MaterialLine) :
    addUp (some l) lines = some (lines.foldl absorb l) := by
  induction lines generalizing l with
  | nil => rfl
  | cons m lines ih => exact ih (l.absorb m)

theorem addUp_none_cons (l : MaterialLine) (lines : List MaterialLine) :
    addUp none (l :: lines) = some (lines.foldl absorb l) :=
  addUp_some l lines

/-- What lines add up to: the type, the name and the step are those of the first one. -/
theorem foldl_absorb (l : MaterialLine) (lines : List MaterialLine) :
    lines.foldl absorb l = { l with
      quantity := (lines.map (·.quantity)).foldl Quantity.add l.quantity
      mixed := l.mixed || lines.any fun m =>
        m.mixed || l.qualifier != m.qualifier || l.efficiency != m.efficiency } := by
  induction lines generalizing l with
  | nil => simp
  | cons m lines ih =>
    rw [List.foldl_cons, ih, List.map_cons, List.foldl_cons, List.any_cons]
    simp only [absorb, Bool.or_assoc]

/-- Quantities add up to the end of the range at most. -/
theorem quantity_foldl_absorb_eq {l : MaterialLine} {lines : List MaterialLine}
    (nonneg : ∀ m ∈ l :: lines, 0 ≤ m.quantity) (bounded : l.quantity ≤ Quantity.greatest) :
    (lines.foldl absorb l).quantity =
      min (((l :: lines).map (·.quantity)).foldr (· + ·) 0) Quantity.greatest := by
  obtain ⟨own, others⟩ := List.forall_mem_cons.1 nonneg
  rw [foldl_absorb]
  exact Quantity.foldl_add own bounded (List.forall_mem_map.2 others)

theorem find?_addTo (line : MaterialLine) {lines : List MaterialLine}
    (ascending : lines.Pairwise fun a b => a.typeId < b.typeId) (id : Int) :
    (line.addTo lines).find? (·.typeId == id) =
      if line.typeId = id then some (line.onto (lines.find? (·.typeId == id)))
      else lines.find? (·.typeId == id) := by
  induction lines with
  | nil => by_cases own : line.typeId = id <;> simp [addTo, own, onto]
  | cons l lines ih =>
    obtain ⟨least, rest⟩ := List.pairwise_cons.1 ascending
    rw [addTo]
    split
    · -- The line goes in front, and all the others have greater types.
      rename_i before
      by_cases own : line.typeId = id
      · have none : (l :: lines).find? (·.typeId == id) = none := by
          refine List.find?_eq_none.2 fun m member => ?_
          have later : line.typeId < m.typeId := by
            rcases List.mem_cons.1 member with rfl | member
            · exact before
            · exact Int.lt_trans before (least m member)
          simp only [beq_iff_eq]
          omega
        rw [none, if_pos own, List.find?_cons, beq_iff_eq.2 own]
        rfl
      · rw [if_neg own, List.find?_cons, beq_eq_false_iff_ne.2 own]
    · split
      · rename_i same
        have kept : (l.absorb line).typeId = l.typeId := rfl
        rw [List.find?_cons, List.find?_cons, kept, same]
        cases own : l.typeId == id with
        | true => rw [if_pos (beq_iff_eq.1 own)]; rfl
        | false => rw [if_neg (beq_eq_false_iff_ne.1 own)]
      · rename_i other
        rw [List.find?_cons, List.find?_cons, ih rest]
        cases own : l.typeId == id with
        | true =>
          have foreign : line.typeId ≠ id := fun equal => other (equal.trans (beq_iff_eq.1 own).symm)
          rw [if_neg foreign, if_neg foreign]
        | false => rfl

end MaterialLine

namespace Basket

open MaterialLine

theorem line?_add (b : Basket) (line : MaterialLine) (id : Int) :
    (b.add line).line? id = if line.typeId = id then some (line.onto (b.line? id)) else b.line? id :=
  find?_addTo line b.ascending id

theorem line?_addAll (b : Basket) (lines : List MaterialLine) (id : Int) :
    (b.addAll lines).line? id = addUp (b.line? id) (lines.filter (·.typeId == id)) := by
  induction lines generalizing b with
  | nil => rfl
  | cons line lines ih =>
    have start : b.addAll (line :: lines) = (b.add line).addAll lines := rfl
    rw [start, ih, line?_add, List.filter_cons]
    by_cases own : line.typeId = id <;> simp [own, addUp]

/-- A basket holds what its look-ups find. -/
theorem line?_eq_some_iff {b : Basket} {id : Int} {l : MaterialLine} :
    b.line? id = some l ↔ l ∈ b.lines ∧ l.typeId = id := by
  obtain ⟨lines, ascending⟩ := b
  show lines.find? (·.typeId == id) = some l ↔ l ∈ lines ∧ l.typeId = id
  constructor
  · intro found
    exact ⟨List.mem_of_find?_eq_some found, by simpa using List.find?_some found⟩
  · rintro ⟨member, rfl⟩
    induction lines with
    | nil => cases member
    | cons m lines ih =>
      obtain ⟨least, rest⟩ := List.pairwise_cons.1 ascending
      rw [List.find?_cons]
      rcases List.mem_cons.1 member with rfl | member
      · simp
      · have smaller : m.typeId < l.typeId := least l member
        rw [beq_eq_false_iff_ne.2 (Int.ne_of_lt smaller)]
        exact ih rest member

theorem mem_typeIds_iff {b : Basket} {id : Int} : id ∈ b.typeIds ↔ ∃ l, b.line? id = some l := by
  simp only [typeIds, List.mem_map, line?_eq_some_iff]

theorem typeIds_ascending (b : Basket) : b.typeIds.Pairwise (· < ·) :=
  List.pairwise_map.2 b.ascending

theorem typeIds_nodup (b : Basket) : b.typeIds.Nodup :=
  b.typeIds_ascending.imp Int.ne_of_lt

theorem filter_typeId_eq (b : Basket) (id : Int) :
    b.lines.filter (·.typeId == id) = (b.line? id).toList := by
  have one : (b.lines.filter (·.typeId == id)).length ≤ 1 := by
    have distinct := b.typeIds_nodup
    have count := List.nodup_iff_count_le_one.1 distinct id
    rwa [typeIds, List.count, List.countP_map, List.countP_eq_length_filter] at count
  have head : (b.lines.filter (·.typeId == id)).head? = b.line? id := List.head?_filter
  cases same : b.lines.filter (·.typeId == id) with
  | nil => rw [same] at head; rw [← head]; rfl
  | cons l rest =>
    rw [same] at head one
    have last : rest = [] := List.eq_nil_of_length_eq_zero (by simpa using one)
    rw [← head, last]
    rfl

theorem filterMap_line?_typeIds (b : Basket) : b.typeIds.filterMap b.line? = b.lines := by
  rw [typeIds, List.filterMap_map]
  have found : ∀ l ∈ b.lines, (b.line? ∘ (·.typeId)) l = some l := fun l member =>
    line?_eq_some_iff.2 ⟨member, rfl⟩
  rw [List.filterMap_congr found, List.filterMap_some]

/-- Baskets are told apart by their look-ups. -/
theorem map_lines_congr {α : Type} {f : MaterialLine → α} {b c : Basket}
    (same : ∀ id, (b.line? id).map f = (c.line? id).map f) : b.lines.map f = c.lines.map f := by
  have members : ∀ id, id ∈ b.typeIds ↔ id ∈ c.typeIds := by
    intro id
    have found := congrArg Option.isSome (same id)
    rw [Option.isSome_map, Option.isSome_map] at found
    rw [mem_typeIds_iff, mem_typeIds_iff, ← Option.isSome_iff_exists, ← Option.isSome_iff_exists, found]
  have ids : b.typeIds = c.typeIds := by
    have perm := (List.perm_ext_iff_of_nodup b.typeIds_nodup c.typeIds_nodup).2 members
    exact perm.eq_of_pairwise' b.typeIds_ascending c.typeIds_ascending
  rw [← filterMap_line?_typeIds b, ← filterMap_line?_typeIds c, List.map_filterMap, List.map_filterMap, ids]
  exact List.filterMap_congr fun id _ => same id

theorem eq_of_line? {b c : Basket} (same : ∀ id, b.line? id = c.line? id) : b = c := by
  have lines := map_lines_congr (f := id) fun key => congrArg _ (same key)
  rw [List.map_id, List.map_id] at lines
  cases b
  cases c
  cases lines
  rfl

/-- Lines that add up keep what each of them has. -/
theorem forall_addAll {P : MaterialLine → Prop} (absorbs : ∀ l m, P l → P m → P (l.absorb m)) {b : Basket}
    {lines : List MaterialLine} (hb : ∀ l ∈ b.lines, P l) (hl : ∀ l ∈ lines, P l) :
    ∀ l ∈ (b.addAll lines).lines, P l := by
  have row (lines : List MaterialLine) (hl : ∀ l ∈ lines, P l) {start : Option MaterialLine}
      (hs : ∀ l ∈ start, P l) : ∀ l ∈ addUp start lines, P l := by
    induction lines generalizing start with
    | nil => exact hs
    | cons line lines ih =>
      obtain ⟨head, tail⟩ := List.forall_mem_cons.1 hl
      refine ih tail fun l member => ?_
      obtain rfl := Option.some.inj member
      cases start with
      | none => exact head
      | some k => exact absorbs k line (hs k rfl) head
  intro l member
  have found := line?_eq_some_iff.2 ⟨member, rfl⟩
  rw [line?_addAll] at found
  refine row _ (fun m inside => hl m (List.mem_of_mem_filter inside)) (fun m present => ?_) l found
  exact hb m (line?_eq_some_iff.1 present).1

theorem forall_foldl_merge {P : MaterialLine → Prop} (absorbs : ∀ l m, P l → P m → P (l.absorb m))
    {b : Basket} {baskets : List Basket} (hb : ∀ l ∈ b.lines, P l)
    (hc : ∀ c ∈ baskets, ∀ l ∈ c.lines, P l) : ∀ l ∈ (baskets.foldl merge b).lines, P l := by
  induction baskets generalizing b with
  | nil => exact hb
  | cons c baskets ih =>
    obtain ⟨head, tail⟩ := List.forall_mem_cons.1 hc
    exact ih (forall_addAll absorbs hb head) tail

end Basket

end ItemAppraisal
