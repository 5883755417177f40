import ItemAppraisal.Text.Case

/-!
# Small letters against capitals

Texts can be compared in small letters or in capitals. The two agree on texts of letters whose small and
capital forms lead back to each other (`uppercase_eq_iff`); all ASCII characters are such letters.
-/

namespace ItemAppraisal.Text

/-- A character with one small and one capital form, each of which is that of the other. The capital sigma
is none: its small form depends on where it stands. -/
def FoldsBothWays (c : Char) : Prop :=
  c.toNat ≠ 0x3a3 ∧ ∃ small capital, lowerOf c = [small] ∧ upperOf c = [capital] ∧
    lowerOf capital = [small] ∧ upperOf small = [capital]

theorem foldsBothWays_of_ascii {c : Char} (ascii : c.toNat < 0x80) : FoldsBothWays c := by
  have table : ∀ n < 0x80, (Char.ofNat n).toNat ≠ 0x3a3 ∧
      lowerOf (Char.ofNat n) = [(Char.ofNat n).toLower] ∧
      upperOf (Char.ofNat n) = [(Char.ofNat n).toUpper] ∧
      lowerOf (Char.ofNat n).toUpper = [(Char.ofNat n).toLower] ∧
      upperOf (Char.ofNat n).toLower = [(Char.ofNat n).toUpper] := by
    decide +kernel
  have row := table c.toNat ascii
  rw [Char.ofNat_toNat] at row
  exact ⟨row.1, _, _, row.2⟩

theorem upperOf_eq_iff {c d : Char} (hc : FoldsBothWays c) (hd : FoldsBothWays d) :
    upperOf c = upperOf d ↔ lowerOf c = lowerOf d := by
  obtain ⟨-, small, capital, lower, upper, smallOf, capitalOf⟩ := hc
  obtain ⟨-, small', capital', lower', upper', smallOf', capitalOf'⟩ := hd
  rw [lower, upper, lower', upper']
  constructor
  · intro same
    obtain rfl := List.head_eq_of_cons_eq same
    exact smallOf.symm.trans smallOf'
  · intro same
    obtain rfl := List.head_eq_of_cons_eq same
    exact capitalOf.symm.trans capitalOf'

/-- Without a capital sigma each character has its small form wherever it stands. -/
theorem lowerAfter_eq_flatMap {before s : List Char} (letters : ∀ c ∈ s, FoldsBothWays c) :
    lowerAfter before s = s.flatMap lowerOf := by
  induction s generalizing before with
  | nil => rfl
  | cons c s ih =>
    obtain ⟨⟨noSigma, -⟩, rest⟩ := List.forall_mem_cons.1 letters
    rw [lowerAfter, ih rest, if_neg (by simpa using noSigma), List.flatMap_cons]

theorem flatMap_upperOf_eq_iff {s t : List Char} (hs : ∀ c ∈ s, FoldsBothWays c)
    (ht : ∀ c ∈ t, FoldsBothWays c) :
    s.flatMap upperOf = t.flatMap upperOf ↔ s.flatMap lowerOf = t.flatMap lowerOf := by
  induction s generalizing t with
  | nil =>
    cases t with
    | nil => simp
    | cons d t =>
      obtain ⟨⟨-, _, _, lower, upper, -⟩, -⟩ := List.forall_mem_cons.1 ht
      simp [lower, upper]
  | cons c s ih =>
    obtain ⟨hc, hs⟩ := List.forall_mem_cons.1 hs
    obtain ⟨-, small, capital, lower, upper, -⟩ := id hc
    cases t with
    | nil => simp [lower, upper]
    | cons d t =>
      obtain ⟨hd, ht⟩ := List.forall_mem_cons.1 ht
      obtain ⟨-, small', capital', lower', upper', -⟩ := id hd
      have heads : capital = capital' ↔ small = small' := by
        simpa [lower, upper, lower', upper'] using upperOf_eq_iff hc hd
      simp only [List.flatMap_cons, lower, upper, lower', upper', List.singleton_append,
        List.cons.injEq, heads, ih hs ht]

theorem uppercase_eq_iff {s t : String} (hs : ∀ c ∈ s.toList, FoldsBothWays c)
    (ht : ∀ c ∈ t.toList, FoldsBothWays c) : uppercase s = uppercase t ↔ lowercase s = lowercase t := by
  rw [uppercase, uppercase, String.ofList_inj, lowercase, lowercase, String.ofList_inj,
    lowerAfter_eq_flatMap hs, lowerAfter_eq_flatMap ht]
  exact flatMap_upperOf_eq_iff hs ht

theorem lowerOf_ne_nil (c : Char) : lowerOf c ≠ [] := by
  rw [lowerOf]
  split
  · simp
  · split <;> simp

theorem lowerAfter_eq_nil_iff {before s : List Char} : lowerAfter before s = [] ↔ s = [] := by
  cases s with
  | nil => simp [lowerAfter]
  | cons c rest =>
    rw [lowerAfter, List.append_eq_nil_iff]
    simp only [reduceCtorEq, iff_false, not_and]
    intro form
    split at form
    · split at form <;> cases form
    · exact absurd form (lowerOf_ne_nil c)

theorem lowercase_eq_empty_iff {s : String} : lowercase s = "" ↔ s = "" := by
  rw [lowercase, ← String.toList_eq_nil_iff, String.toList_ofList, lowerAfter_eq_nil_iff,
    String.toList_eq_nil_iff]

theorem upperOf_ne_nil (c : Char) : upperOf c ≠ [] := by
  have expansions : ∀ row ∈ upperExpansions, row.2 ≠ [] := by decide +kernel
  rw [upperOf]
  split
  · simp
  · split
    · rename_i form found
      obtain ⟨before, after, rows, -⟩ := List.lookup_eq_some_iff.1 found
      have filled := expansions (c.toNat, form) (by simp [rows])
      simpa using filled
    · simp

theorem uppercase_eq_empty_iff {s : String} : uppercase s = "" ↔ s = "" := by
  rw [uppercase, ← String.toList_eq_nil_iff, String.toList_ofList, List.flatMap_eq_nil_iff,
    ← String.toList_eq_nil_iff]
  constructor
  · intro none
    exact List.eq_nil_iff_forall_not_mem.2 fun c member => upperOf_ne_nil c (none c member)
  · intro empty c member
    rw [empty] at member
    cases member

end ItemAppraisal.Text
