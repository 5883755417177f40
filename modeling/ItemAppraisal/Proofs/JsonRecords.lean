import ItemAppraisal.Appraisal.Basic
import Mathlib.Data.Option.Basic

/-!
# Reading what was written

A record that is written with some of the names that are known, each once, is read with the fields that were
written (`record?_ofFields`). A field that is not written for its value is the value that a missing field
stands for. Lists and maps read back if their elements do.
-/

namespace ItemAppraisal

namespace Json

/-! ## Fields that are written -/

/-- Fields are written with some of the names, in their order. -/
def Named (fs : List (String × Json)) (names : List String) : Prop :=
  (fs.map (·.1)).Sublist names

theorem named_self (fs : List (String × Json)) : Named fs (fs.map (·.1)) :=
  List.Sublist.refl _

theorem Named.append {fs gs : List (String × Json)} {names more : List String} (front : Named fs names)
    (back : Named gs more) : Named (fs ++ gs) (names ++ more) := by
  rw [Named, List.map_append]
  exact List.Sublist.append front back

theorem named_flagField (name : String) (b : Bool) : Named (flagField name b) [name] := by
  cases b <;> simp [Named, flagField]

theorem named_textField (name s : String) : Named (textField name s) [name] := by
  rw [textField]
  cases s.isEmpty <;> simp [Named]

theorem named_floatField (name : String) (x : Float) : Named (floatField name x) [name] := by
  rw [floatField]
  cases x == 0 <;> simp [Named]

theorem named_intField (name : String) (n : Int) : Named (intField name n) [name] := by
  rw [intField]
  cases n == 0 <;> simp [Named]

theorem named_optionalField {α : Type} (name : String) (encode : α → Json) (a : Option α) :
    Named (optionalField name encode a) [name] := by
  cases a <;> simp [Named, optionalField]

theorem ofFields_eq (fs : List (String × Json)) :
    ofFields fs = object (fs.map fun f => ({ text := f.1 }, f.2)) := rfl

theorem record?_ofFields {names : List String} {fs : List (String × Json)} (known : Named fs names)
    (distinct : names.Nodup) : (ofFields fs).record? names = some fs := by
  have pairs : (fs.map fun f => (({ text := f.1 } : Name), f.2)).map (fun f => (f.1.text, f.2)) = fs := by
    rw [List.map_map]
    exact List.map_id _
  have all : fs.filter (fun f => names.contains f.1) = fs :=
    List.filter_eq_self.2 fun f member =>
      List.contains_iff_mem.2 (known.subset (List.mem_map_of_mem member))
  rw [ofFields_eq, record?]
  simp only [pairs, all]
  rw [Table.eraseDups_of_nodup (known.nodup distinct), List.length_map, if_pos (beq_self_eq_true _)]

/-! ## Fields that are read -/

/-- A step of a reader that succeeds, in the form in which `simp` takes the steps from the first one on. -/
theorem some_bind {α β : Type} (a : α) (f : α → Option β) : (some a >>= f) = f a := rfl

section

variable {α : Type} (fs : Record) (decode : Json → Option α) (name : String)

@[simp] theorem Record.required?_eq_bind : fs.required? decode name = (fs.get? name).bind decode := rfl

@[simp] theorem Record.fieldOr?_eq_elim (default : α) :
    fs.fieldOr? decode default name = (fs.get? name).elim (some default) decode := by
  rw [fieldOr?]
  cases fs.get? name <;> rfl

end

section

variable (key name : String)

@[simp] theorem get?_flagField (b : Bool) : Table.get? (flagField name b) key =
    if key = name then (if b then some (.bool true) else none) else none := by
  cases b <;> simp [flagField, Table.get?_cons]

@[simp] theorem get?_textField (s : String) : Table.get? (textField name s) key =
    if key = name then (if s = "" then none else some (.string s)) else none := by
  by_cases empty : s = "" <;> simp [textField, empty, Table.get?_cons]

@[simp] theorem get?_floatField (x : Float) : Table.get? (floatField name x) key =
    if key = name then (if x == 0 then none else some (.float x)) else none := by
  rw [floatField]
  cases x == 0 <;> simp [Table.get?_cons]

@[simp] theorem get?_intField (n : Int) : Table.get? (intField name n) key =
    if key = name then (if n = 0 then none else some (.int n)) else none := by
  by_cases zero : n = 0 <;> simp [intField, zero, Table.get?_cons]

@[simp] theorem get?_optionalField {α : Type} (encode : α → Json) (a : Option α) :
    Table.get? (optionalField name encode a) key = if key = name then a.map encode else none := by
  cases a <;> simp [optionalField, Table.get?_cons]

end

/-- A double with zero for a negative zero. -/
def plainZero (x : Float) : Float :=
  if x == 0 then 0 else x

theorem plainZero_beq {x : Float} (finite : x.isFinite = true) : (plainZero x == x) = true := by
  rw [plainZero]
  split
  · rename_i zero
    exact Decimal.zero_beq_of_beq_zero zero
  · exact Decimal.beq_self_of_isFinite finite

@[simp] theorem bool?_bool (b : Bool) : bool? (.bool b) = some b := rfl

@[simp] theorem string?_string (s : String) : string? (.string s) = some s := rfl

@[simp] theorem float?_float (x : Float) : float? (.float x) = some x := rfl

@[simp] theorem nat?_of_nat (n : Nat) : nat? (.int n) = some n := by
  rw [nat?, if_pos (Int.natCast_nonneg n), Int.toNat_natCast]

theorem int?_of_inRange {n : Int} (inRange : Quantity.InRange n) : int? (.int n) = some n := by
  rw [int?, if_pos inRange]

@[simp] theorem elim_flag (b : Bool) :
    (if b then some (Json.bool true) else none).elim (some false) bool? = some b := by
  cases b <;> rfl

/-- A value that is left out only where it is the one that a missing field stands for. -/
theorem elim_leftOut {α : Type} {p : Prop} [Decidable p] {j : Json} {decode : Json → Option α} {default a : α}
    (missing : p → default = a) (reads : ¬p → decode j = some a) :
    (if p then none else some j).elim (some default) decode = some a := by
  split
  · rename_i left
    exact congrArg some (missing left)
  · rename_i written
    exact reads written

@[simp] theorem elim_text (s : String) :
    (if s = "" then none else some (Json.string s)).elim (some "") string? = some s :=
  elim_leftOut Eq.symm fun _ => rfl

@[simp] theorem elim_float (x : Float) :
    (if x == 0 then none else some (Json.float x)).elim (some 0) float? = some (plainZero x) :=
  elim_leftOut (fun zero => (if_pos zero).symm) fun filled => congrArg some (if_neg filled).symm

theorem elim_int {n : Int} (inRange : Quantity.InRange n) :
    (if n = 0 then none else some (Json.int n)).elim (some 0) int? = some n :=
  elim_leftOut Eq.symm fun _ => int?_of_inRange inRange

theorem nullable?_ofFields {α : Type} (decode : Json → Option α) (fs : List (String × Json)) :
    nullable? decode (ofFields fs) = (decode (ofFields fs)).map some := rfl

theorem elim_optional {α : Type} {encode : α → Json} {decode : Json → Option α} {a : Option α}
    (written : ∀ x, encode x ≠ .null) (reads : ∀ x ∈ a, decode (encode x) = some x) :
    (a.map encode).elim (some none) (nullable? decode) = some a := by
  cases a with
  | none => rfl
  | some x =>
    have value : nullable? decode (encode x) = (decode (encode x)).map some := by
      rw [nullable?]
      exact written x
    rw [Option.map_some, Option.elim_some, value, reads x rfl]
    rfl

/-! ## Lists and maps -/

theorem mapM_eq_some {α β : Type} {f : α → Option β} {g : β → α} {l : List β}
    (reads : ∀ b ∈ l, f (g b) = some b) : (l.map g).mapM f = some l := by
  induction l with
  | nil => rfl
  | cons b l ih =>
    obtain ⟨head, tail⟩ := List.forall_mem_cons.1 reads
    rw [List.map_cons, List.mapM_cons, head, ih tail]
    rfl

theorem list?_array {α : Type} {encode : α → Json} {decode : Json → Option α} {l : List α}
    (reads : ∀ a ∈ l, decode (encode a) = some a) : list? decode (.array (l.map encode)) = some l :=
  mapM_eq_some reads

theorem map?_ofFields {κ α : Type} [DecidableEq κ] {key? : Name → Option κ} {decode : Json → Option α}
    (text : κ → String) (encode : α → Json) {table : Table κ α} (distinct : table.keys.Nodup)
    (keys : ∀ p ∈ table, key? { text := text p.1 } = some p.1)
    (values : ∀ p ∈ table, decode (encode p.2) = some p.2) :
    map? key? decode (ofFields (table.map fun p => (text p.1, encode p.2))) = some table := by
  have fields : map? key? decode (ofFields (table.map fun p => (text p.1, encode p.2))) =
      ((table.map fun p : κ × α => (({ text := text p.1 } : Name), encode p.2)).mapM fun f : Field => do
        return (← key? f.1, ← decode f.2)).map Table.ofList := by
    rw [ofFields_eq, List.map_map]
    rfl
  have reads : (table.map fun p : κ × α => (({ text := text p.1 } : Name), encode p.2)).mapM
      (fun f : Field => do return (← key? f.1, ← decode f.2)) = some table :=
    mapM_eq_some fun p member => by
      rw [keys p member, values p member]
      rfl
  rw [fields, reads, Option.map_some, Table.ofList_of_nodup distinct]

theorem digits_ne_zero_cons (n : Nat) (c : Char) (rest : List Char) :
    Decimal.digits n ≠ '0' :: c :: rest := by
  intro same
  by_cases zero : n = 0
  · rw [zero] at same
    cases same
  · exact Decimal.head?_digits zero (by rw [same]; rfl)

theorem integerKey?_of_minus {name : Name} (plain : name.plain = true) {n : Nat} (positive : n ≠ 0)
    (spelled : name.text.toList = '-' :: Decimal.digits n) : integerKey? name = some (-(n : Int)) := by
  rw [integerKey?, spelled]
  split
  rename_i negative row same
  cases same
  split
  · rename_i same
    exact absurd same (digits_ne_zero_cons n _ _)
  · rw [plain, Decimal.natural?_digits]
    exact if_neg positive

theorem integerKey?_of_digits {name : Name} (plain : name.plain = true) {n : Nat}
    (spelled : name.text.toList = Decimal.digits n) : integerKey? name = some (n : Int) := by
  rw [integerKey?, spelled]
  split
  rename_i negative row same
  split at same
  · rename_i first
    have digit := Decimal.isDigit_of_mem_digits (first ▸ List.mem_cons_self)
    cases digit
  · cases same
    split
    · rename_i same
      exact absurd same (digits_ne_zero_cons n _ _)
    · rw [plain, Decimal.natural?_digits]
      rfl

theorem integerKey?_integerText (n : Int) : integerKey? { text := integerText n } = some n := by
  let name : Name := { text := integerText n }
  have plain : name.plain = true := rfl
  have spelled : name.text.toList = (if n < 0 then ['-'] else []) ++ Decimal.digits n.natAbs :=
    String.toList_ofList
  by_cases negative : n < 0
  · have value : -(n.natAbs : Int) = n := by omega
    rw [if_pos negative] at spelled
    rw [integerKey?_of_minus plain (by omega) spelled, value]
  · have value : (n.natAbs : Int) = n := by omega
    rw [if_neg negative] at spelled
    rw [integerKey?_of_digits plain spelled, value]

theorem intKey?_integerText {n : Int} (inRange : Quantity.InRange n) :
    intKey? { text := integerText n } = some n := by
  rw [intKey?, integerKey?_integerText, Option.filter_some, decide_eq_true inRange]
  rfl

theorem natKey?_countText {n : Nat} (word : n < Decimal.wordCount) :
    natKey? { text := countText n } = some n := by
  have digits : countText n = integerText n := by
    have positive : ¬ (n : Int) < 0 := by omega
    rw [integerText, if_neg positive, Int.natAbs_natCast]
    rfl
  rw [natKey?, digits, integerKey?_integerText, Option.bind_some, if_pos ⟨by omega, by omega⟩,
    Int.toNat_natCast]

/-! ## Depths -/

theorem depth_le_of_mem {js : List Json} {j : Json} (member : j ∈ js) : j.depth ≤ depthOfList js := by
  induction js with
  | nil => cases member
  | cons first js ih =>
    rw [depthOfList]
    rcases List.mem_cons.1 member with rfl | member
    · omega
    · have rest := ih member
      omega

theorem depth_lt_array {js : List Json} {j : Json} (member : j ∈ js) : j.depth < (array js).depth := by
  have below := depth_le_of_mem member
  rw [depth]
  omega

theorem depth_le_of_mem_fields {fs : List Field} {f : Field} (member : f ∈ fs) :
    f.2.depth ≤ depthOfFields fs := by
  induction fs with
  | nil => cases member
  | cons first fs ih =>
    rw [depthOfFields]
    rcases List.mem_cons.1 member with rfl | member
    · omega
    · have rest := ih member
      omega

theorem depth_lt_ofFields {fs : List (String × Json)} {name : String} {j : Json} (member : (name, j) ∈ fs) :
    j.depth < (ofFields fs).depth := by
  have inside : (({ text := name } : Name), j) ∈ fs.map fun f => (({ text := f.1 } : Name), f.2) :=
    List.mem_map_of_mem member
  have below := depth_le_of_mem_fields inside
  rw [ofFields_eq, depth]
  exact Nat.lt_one_add_iff.2 below

end Json

end ItemAppraisal
