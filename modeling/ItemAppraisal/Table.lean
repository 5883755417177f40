/-!
# Tables

Pairs of a key and a value, each key once, in the order in which the keys came. Main statement:
`get?_insert`.
-/

namespace ItemAppraisal

/-- Values under keys. -/
abbrev Table (κ α : Type) := List (κ × α)

namespace Table
variable {κ α : Type} [DecidableEq κ]

/-- The value under a key. -/
def get? (table : Table κ α) (key : κ) : Option α :=
  List.lookup key table

/-- Puts a value under a key, in the place of the one that is there or else at the end. -/
def insert (key : κ) (a : α) : Table κ α → Table κ α
  | [] => [(key, a)]
  | (k, b) :: rest => if k = key then (key, a) :: rest else (k, b) :: insert key a rest

/-- The table of a list of pairs; of pairs with one key the last one counts. -/
def ofList (pairs : List (κ × α)) : Table κ α :=
  pairs.foldl (fun table pair => insert pair.1 pair.2 table) []

/-- The keys in the order in which they came. -/
def keys (table : Table κ α) : List κ :=
  table.map (·.1)

@[simp] theorem get?_nil (key : κ) : get? ([] : Table κ α) key = none := rfl

theorem get?_cons (k : κ) (b : α) (rest : Table κ α) (key : κ) :
    get? ((k, b) :: rest) key = if key = k then some b else get? rest key := by
  by_cases h : key = k
  · subst h; simp [get?]
  · have : (key == k) = false := by simpa using h
    simp only [get?, List.lookup_cons, this, h, ↓reduceIte]

theorem get?_insert (table : Table κ α) (key key' : κ) (a : α) :
    (insert key a table).get? key' = if key' = key then some a else table.get? key' := by
  induction table with
  | nil => simp [insert, get?_cons]
  | cons pair rest ih =>
    obtain ⟨k, b⟩ := pair
    by_cases hk : k = key
    · subst hk
      by_cases h : key' = k <;> simp [insert, get?_cons, h]
    · simp only [insert, hk, ↓reduceIte, get?_cons, ih]
      by_cases h : key' = k
      · subst h; simp [hk]
      · simp [h]

theorem keys_insert (table : Table κ α) (key : κ) (a : α) :
    (insert key a table).keys =
      if key ∈ table.keys then table.keys else table.keys ++ [key] := by
  induction table with
  | nil => simp [insert, keys]
  | cons pair rest ih =>
    obtain ⟨k, b⟩ := pair
    simp only [keys] at ih
    by_cases hk : k = key
    · subst hk
      simp [insert, keys]
    · have hk' : ¬key = k := fun h => hk h.symm
      simp only [insert, keys, hk, ↓reduceIte, List.map_cons, ih, List.mem_cons, hk', false_or]
      split <;> simp_all

theorem isSome_get? (table : Table κ α) (key : κ) :
    (table.get? key).isSome ↔ key ∈ table.keys := by
  induction table with
  | nil => simp [keys]
  | cons pair rest ih =>
    obtain ⟨k, b⟩ := pair
    rw [get?_cons]
    by_cases h : key = k
    · simp [h, keys]
    · simp only [h, ↓reduceIte, ih, keys, List.map_cons, List.mem_cons, false_or]

theorem get?_of_mem {table : Table κ α} (h : table.keys.Nodup) {pair : κ × α} (hp : pair ∈ table) :
    table.get? pair.1 = some pair.2 := by
  induction table with
  | nil => cases hp
  | cons first rest ih =>
    obtain ⟨k, b⟩ := first
    simp only [keys, List.map_cons, List.nodup_cons] at h
    rw [get?_cons]
    rcases List.mem_cons.1 hp with rfl | hp
    · exact if_pos rfl
    · have fresh : pair.1 ≠ k := fun hk => h.1 (hk ▸ List.mem_map_of_mem hp)
      rw [if_neg fresh]
      exact ih h.2 hp

theorem keys_insert_nodup {table : Table κ α} (h : table.keys.Nodup) (key : κ) (a : α) :
    (insert key a table).keys.Nodup := by
  rw [keys_insert]
  split
  · exact h
  · rename_i fresh
    refine List.nodup_append.2 ⟨h, by simp, fun k hk l hl hkl => fresh ?_⟩
    rw [← List.mem_singleton.1 hl, ← hkl]
    exact hk

theorem mem_of_mem_insert {table : Table κ α} {key : κ} {a : α} {pair : κ × α}
    (member : pair ∈ insert key a table) : pair = (key, a) ∨ pair ∈ table := by
  induction table with
  | nil => exact .inl (List.mem_singleton.1 member)
  | cons first rest ih =>
    rw [insert] at member
    split at member
    · rcases List.mem_cons.1 member with same | member
      · exact .inl same
      · exact .inr (List.mem_cons_of_mem _ member)
    · rcases List.mem_cons.1 member with same | member
      · exact .inr (same ▸ List.mem_cons_self)
      · exact (ih member).imp_right (List.mem_cons_of_mem _)

theorem filter_key_eq (table : Table κ α) (h : table.keys.Nodup) (key : κ) :
    (table.filter (·.1 == key)).map (·.2) = (table.get? key).toList := by
  induction table with
  | nil => rfl
  | cons pair rest ih =>
    obtain ⟨k, b⟩ := pair
    simp only [keys, List.map_cons, List.nodup_cons] at h
    rw [List.filter_cons, get?_cons]
    by_cases hk : key = k
    · subst hk
      have none : get? rest key = none := by
        rw [← Option.not_isSome_iff_eq_none, isSome_get?]
        exact h.1
      simp [ih h.2, none]
    · simp [ih h.2, hk, Ne.symm hk]

theorem filterMap_get?_keys (table : Table κ α) (h : table.keys.Nodup) :
    table.keys.filterMap table.get? = table.map (·.2) := by
  induction table with
  | nil => rfl
  | cons pair rest ih =>
    obtain ⟨k, b⟩ := pair
    simp only [keys, List.map_cons, List.nodup_cons] at h
    have hrest (ks : List κ) (hks : k ∉ ks) :
        ks.filterMap (get? ((k, b) :: rest)) = ks.filterMap (get? rest) := by
      induction ks with
      | nil => rfl
      | cons key ks ih =>
        simp only [List.mem_cons, not_or] at hks
        rw [List.filterMap_cons, List.filterMap_cons, ih hks.2, get?_cons, if_neg (Ne.symm hks.1)]
    rw [keys, List.map_cons, ← keys, List.filterMap_cons, hrest (keys rest) h.1, ih h.2, get?_cons]
    simp

theorem mem_of_get? {table : Table κ α} {key : κ} {a : α} (found : table.get? key = some a) :
    (key, a) ∈ table := by
  induction table with
  | nil => cases found
  | cons pair rest ih =>
    obtain ⟨k, b⟩ := pair
    rw [get?_cons] at found
    split at found
    · rename_i same
      cases found
      rw [same]
      exact List.mem_cons_self
    · exact List.mem_cons_of_mem _ (ih found)

theorem get?_append (table rest : Table κ α) (key : κ) :
    get? (table ++ rest) key = (table.get? key).or (rest.get? key) :=
  List.lookup_append

theorem insert_of_fresh {table : Table κ α} {key : κ} (fresh : key ∉ table.keys) (a : α) :
    table.insert key a = table ++ [(key, a)] := by
  induction table with
  | nil => rfl
  | cons pair rest ih =>
    obtain ⟨k, b⟩ := pair
    simp only [keys, List.map_cons, List.mem_cons, not_or] at fresh
    rw [insert, if_neg (Ne.symm fresh.1), ih fresh.2, List.cons_append]

/-- Pairs with distinct keys are a table as they are. -/
theorem ofList_of_nodup {pairs : List (κ × α)} (distinct : (pairs.map (·.1)).Nodup) :
    ofList pairs = pairs := by
  have added (pairs : List (κ × α)) {table : Table κ α} (distinct : (table ++ pairs).keys.Nodup) :
      pairs.foldl (fun table pair => table.insert pair.1 pair.2) table = table ++ pairs := by
    induction pairs generalizing table with
    | nil => simp
    | cons pair pairs ih =>
      have split : table ++ pair :: pairs = (table ++ [pair]) ++ pairs := by simp
      have fresh : pair.1 ∉ table.keys := fun member => by
        rw [keys, List.map_append] at distinct
        exact (List.nodup_append.1 distinct).2.2 _ member _ (List.mem_cons_self) rfl
      rw [List.foldl_cons, insert_of_fresh fresh, split]
      exact ih (split ▸ distinct)
  exact added pairs distinct

/-! ## Distinct keys -/

section

variable {α : Type} [DecidableEq α]

/-- Keeping each key once and leaving some keys out can be done in either order. -/
theorem eraseDups_filter (p : α → Bool) (keys : List α) :
    (keys.filter p).eraseDups = keys.eraseDups.filter p := by
  match keys with
  | [] => rfl
  | key :: rest =>
    have shorter : (rest.filter fun k => !k == key).length < rest.length + 1 :=
      Nat.lt_succ_of_le (List.length_filter_le _ _)
    rw [List.eraseDups_cons, List.filter_cons, List.filter_cons,
      ← eraseDups_filter p (rest.filter fun k => !k == key), List.filter_filter]
    by_cases kept : p key = true
    · rw [if_pos kept, if_pos kept, List.eraseDups_cons, List.filter_filter]
      simp only [Bool.and_comm]
    · rw [if_neg kept, if_neg kept]
      congr 1
      refine List.filter_congr fun k _ => ?_
      by_cases same : k = key
      · simp [same, kept]
      · simp [same]
termination_by keys.length

theorem eraseDups_of_nodup {keys : List α} (distinct : keys.Nodup) : keys.eraseDups = keys := by
  induction keys with
  | nil => rfl
  | cons key rest ih =>
    obtain ⟨fresh, distinct⟩ := List.nodup_cons.1 distinct
    have others : (rest.filter fun k => !k == key) = rest :=
      List.filter_eq_self.2 fun k member => by
        have other : k ≠ key := fun same => fresh (same ▸ member)
        simpa using other
    rw [List.eraseDups_cons, others, ih distinct]

theorem eraseDups_nodup (keys : List α) : keys.eraseDups.Nodup := by
  induction keys with
  | nil => exact List.nodup_nil
  | cons key rest ih =>
    rw [List.eraseDups_cons, eraseDups_filter]
    refine List.nodup_cons.2 ⟨by simp, ih.filter _⟩

end

end Table

end ItemAppraisal
