import ItemAppraisal.Proofs.CaseFolding
import ItemAppraisal.Proofs.Trimming
import ItemAppraisal.Types.Catalog

/-!
# Searching types by name

A search goes through all types and ranks the names that contain a text: the same name first, then names
that start with the text, then the others (`search_eq_bands`). A look-up goes through the index of names
instead, and finds a type of the first band exactly if there is one (`search_agrees_with_byName?`).
-/

namespace ItemAppraisal

/-! ## Ways to match -/

/-- How a name matches a text. -/
inductive NameMatch where
  /-- It is the text. -/
  | exact
  /-- It starts with the text and goes on. -/
  | start
  /-- It holds the text, but not at its start. -/
  | inside
  deriving DecidableEq

namespace NameMatch

/-- A name matches a text in this way; both are in small letters. -/
def Holds (text name : List Char) : NameMatch → Prop
  | exact => name = text
  | start => text <+: name ∧ name ≠ text
  | inside => text <:+: name ∧ ¬text <+: name

/-- The place of the way among the others. -/
def rank : NameMatch → Nat
  | exact => 0
  | start => 1
  | inside => 2

theorem rank_inj {m k : NameMatch} : m.rank = k.rank ↔ m = k := by
  cases m <;> cases k <;> decide

variable {text name : List Char}

/-- A name that is the text matches in no other way. -/
theorem Holds.eq_exact {m : NameMatch} (holds : m.Holds text name) (same : name = text) : m = exact := by
  cases m with
  | exact => rfl
  | start => exact absurd same holds.2
  | inside => exact absurd (same ▸ List.prefix_rfl) holds.2

/-- A name is ranked by the one way in which it matches. -/
theorem matchBand?_eq_some_iff {n : Nat} :
    TypeCatalog.matchBand? text name = some n ↔ ∃ m : NameMatch, m.rank = n ∧ m.Holds text name := by
  simp only [TypeCatalog.matchBand?, List.isPrefixOf_iff_prefix, Text.contains_iff]
  by_cases same : name = text
  · subst same
    rw [if_pos rfl, Option.some_inj]
    constructor
    · rintro rfl
      exact ⟨exact, rfl, rfl⟩
    · rintro ⟨m, rfl, holds⟩
      rw [holds.eq_exact rfl]
      rfl
  · rw [if_neg same]
    by_cases starts : text <+: name
    · rw [if_pos starts, Option.some_inj]
      constructor
      · rintro rfl
        exact ⟨start, rfl, starts, same⟩
      · rintro ⟨m, rfl, holds⟩
        cases m with
        | exact => exact absurd holds same
        | start => rfl
        | inside => exact absurd starts holds.2
    · rw [if_neg starts]
      constructor
      · intro ranked
        split at ranked
        · rename_i within
          obtain rfl := Option.some.inj ranked
          exact ⟨inside, rfl, within, starts⟩
        · cases ranked
      · rintro ⟨m, rfl, holds⟩
        cases m with
        | exact => exact absurd holds same
        | start => exact absurd holds.1 starts
        | inside => exact if_pos holds.1

/-- A name matches in some way if it contains the text. -/
theorem exists_holds_iff : (∃ m : NameMatch, m.Holds text name) ↔ text <:+: name := by
  constructor
  · rintro ⟨m, holds⟩
    cases m with
    | exact => exact holds ▸ List.infix_rfl
    | start => exact holds.1.isInfix
    | inside => exact holds.1
  · intro within
    by_cases same : name = text
    · exact ⟨exact, same⟩
    · by_cases starts : text <+: name
      · exact ⟨start, starts, same⟩
      · exact ⟨inside, within, starts⟩

end NameMatch

/-! ## Ranking -/

namespace TypeCatalog

/-- The types that match a key, each with its rank, in the order in which they were entered. -/
def ranked (c : TypeCatalog) (key : List Char) : List (Nat × TypeRecord) :=
  c.entries.filterMap fun e => (matchBand? key e.key.toList).map (·, e.record)

/-- Whether a ranked type may stand in front of another one. -/
def mayPrecede (a b : Nat × TypeRecord) : Bool :=
  a.1 < b.1 || (a.1 == b.1 && !(b.2.name < a.2.name))

/-- The types that match a key, by their ranks and names. -/
def ranking (c : TypeCatalog) (key : List Char) : List (Nat × TypeRecord) :=
  (c.ranked key).mergeSort mayPrecede

/-- The types of one rank. -/
def band (c : TypeCatalog) (key : List Char) (m : NameMatch) : List TypeRecord :=
  ((c.ranking key).filter (·.1 == m.rank)).map (·.2)

variable {c : TypeCatalog} {key : List Char} {r : TypeRecord}

theorem mayPrecede_iff {a b : Nat × TypeRecord} :
    mayPrecede a b = true ↔ a.1 < b.1 ∨ a.1 = b.1 ∧ a.2.name ≤ b.2.name := by
  simp only [mayPrecede, Bool.or_eq_true, decide_eq_true_eq, Bool.and_eq_true, beq_iff_eq,
    Bool.not_eq_true', decide_eq_false_iff_not, String.not_lt]

theorem mayPrecede_trans (a b d : Nat × TypeRecord) (first : mayPrecede a b = true)
    (second : mayPrecede b d = true) : mayPrecede a d = true := by
  rw [mayPrecede_iff] at *
  rcases first with less | ⟨same, name⟩
  · left
    omega
  · rcases second with less | ⟨same', name'⟩
    · left
      omega
    · exact .inr ⟨same.trans same', String.le_trans name name'⟩

theorem mayPrecede_total (a b : Nat × TypeRecord) : (mayPrecede a b || mayPrecede b a) = true := by
  rw [Bool.or_eq_true, mayPrecede_iff, mayPrecede_iff]
  rcases Nat.lt_trichotomy a.1 b.1 with less | same | greater
  · exact .inl (.inl less)
  · rcases String.le_total a.2.name b.2.name with name | name
    · exact .inl (.inr ⟨same, name⟩)
    · exact .inr (.inr ⟨same.symm, name⟩)
  · exact .inr (.inl greater)

theorem pairwise_ranking (c : TypeCatalog) (key : List Char) :
    (c.ranking key).Pairwise fun a b => a.1 < b.1 ∨ a.1 = b.1 ∧ a.2.name ≤ b.2.name :=
  (List.pairwise_mergeSort mayPrecede_trans mayPrecede_total _).imp mayPrecede_iff.1

theorem mem_ranking_iff {n : Nat} : (n, r) ∈ c.ranking key ↔
    r ∈ c.records ∧ ∃ m : NameMatch, m.rank = n ∧ m.Holds key (Text.lowercase r.name).toList := by
  rw [ranking, List.mem_mergeSort, ranked, List.mem_filterMap]
  constructor
  · rintro ⟨e, member, found⟩
    obtain ⟨n, matched, same⟩ := Option.map_eq_some_iff.1 found
    cases same
    rw [NameMatch.matchBand?_eq_some_iff, e.key_eq] at matched
    exact ⟨List.mem_map_of_mem member, matched⟩
  · rintro ⟨member, matched⟩
    obtain ⟨e, inside, rfl⟩ := List.mem_map.1 member
    rw [← e.key_eq, ← NameMatch.matchBand?_eq_some_iff] at matched
    exact ⟨e, inside, by rw [matched]; rfl⟩

theorem mem_band_iff {m : NameMatch} : r ∈ c.band key m ↔
    r ∈ c.records ∧ m.Holds key (Text.lowercase r.name).toList := by
  have own : r ∈ c.band key m ↔ (m.rank, r) ∈ c.ranking key := by
    simp [band]
  rw [own, mem_ranking_iff]
  refine and_congr_right fun _ => ⟨?_, fun holds => ⟨m, rfl, holds⟩⟩
  rintro ⟨k, same, holds⟩
  exact NameMatch.rank_inj.1 same ▸ holds

/-- Within a rank the types are in the order of their names. -/
theorem pairwise_band (c : TypeCatalog) (key : List Char) (m : NameMatch) :
    (c.band key m).Pairwise fun r s => r.name ≤ s.name := by
  rw [band, List.pairwise_map]
  refine ((c.pairwise_ranking key).filter _).imp_of_mem fun {a b} ha hb order => ?_
  have first := beq_iff_eq.1 (List.mem_filter.1 ha).2
  have second := beq_iff_eq.1 (List.mem_filter.1 hb).2
  rcases order with less | ⟨-, names⟩
  · omega
  · exact names

/-- A list in which what satisfies `p` stands in front falls into two parts. -/
theorem filter_append_filter_not {α : Type} {p : α → Bool} {l : List α}
    (order : l.Pairwise fun a b => p b = true → p a = true) : l.filter p ++ l.filter (!p ·) = l := by
  induction l with
  | nil => rfl
  | cons a l ih =>
    obtain ⟨head, tail⟩ := List.pairwise_cons.1 order
    cases front : p a with
    | true => simp [front, ih tail]
    | false =>
      have none : l.filter p = [] := List.filter_eq_nil_iff.2 fun b member inFront => by
        rw [head b member inFront] at front
        cases front
      have rest := ih tail
      rw [none, List.nil_append] at rest
      simp [front, none, rest]

/-- The ranking is its three ranks one after the other. -/
theorem ranking_eq (c : TypeCatalog) (key : List Char) : c.ranking key =
    (c.ranking key).filter (·.1 == 0) ++ ((c.ranking key).filter (·.1 == 1) ++ (c.ranking key).filter (·.1 == 2)) := by
  have order := c.pairwise_ranking key
  have ranks : ∀ a ∈ c.ranking key, a.1 = 0 ∨ a.1 = 1 ∨ a.1 = 2 := by
    rintro ⟨n, r⟩ member
    obtain ⟨-, m, rfl, -⟩ := mem_ranking_iff.1 member
    cases m <;> simp [NameMatch.rank]
  generalize c.ranking key = l at order ranks
  have first : (l.filter (·.1 == 0)) ++ l.filter (!·.1 == 0) = l := by
    refine filter_append_filter_not (order.imp fun {a b} before => ?_)
    simp only [beq_iff_eq]
    omega
  have second : ((l.filter (!·.1 == 0)).filter (·.1 == 1)) ++ (l.filter (!·.1 == 0)).filter (!·.1 == 1) =
      l.filter (!·.1 == 0) := by
    refine filter_append_filter_not ((order.filter _).imp_of_mem fun {a b} ha hb before => ?_)
    have later := (List.mem_filter.1 ha).2
    simp only [beq_iff_eq, Bool.not_eq_true', beq_eq_false_iff_ne] at later ⊢
    omega
  have one : (l.filter (!·.1 == 0)).filter (·.1 == 1) = l.filter (·.1 == 1) := by
    rw [List.filter_filter]
    refine List.filter_congr fun a _ => ?_
    by_cases rank : a.1 = 1 <;> simp [rank]
  have two : (l.filter (!·.1 == 0)).filter (!·.1 == 1) = l.filter (·.1 == 2) := by
    rw [List.filter_filter]
    refine List.filter_congr fun a member => ?_
    rcases ranks a member with rank | rank | rank <;> simp [rank]
  rw [one, two] at second
  rw [second, first]

/-! ## Searching -/

variable {text : String}

theorem toList_nameKey_ne_nil (filled : Text.isBlankText text = false) : (nameKey text).toList ≠ [] := by
  intro empty
  have blank : ∀ ch ∈ text.toList, Text.isBlank ch = true := by
    rw [← Text.trim_eq_empty_iff, ← Text.lowercase_eq_empty_iff, ← String.toList_eq_nil_iff]
    exact empty
  rw [Text.isBlankText, List.all_eq_true.2 blank] at filled
  cases filled

/-- What is found is ranked by the names. -/
theorem search_eq (c : TypeCatalog) (filled : Text.isBlankText text = false) :
    c.search text = (c.ranking (nameKey text).toList).map (·.2) := by
  have some : (nameKey text).toList.isEmpty = false := by
    simpa using toList_nameKey_ne_nil filled
  rw [search]
  simp only [some, Bool.false_eq_true, if_false]
  rfl

theorem search_eq_bands (c : TypeCatalog) (filled : Text.isBlankText text = false) :
    c.search text = c.band (nameKey text).toList .exact ++
      (c.band (nameKey text).toList .start ++ c.band (nameKey text).toList .inside) := by
  rw [search_eq c filled, ranking_eq, List.map_append, List.map_append]
  rfl

theorem mem_search_iff (filled : Text.isBlankText text = false) : r ∈ c.search text ↔
    r ∈ c.records ∧ (nameKey text).toList <:+: (Text.lowercase r.name).toList := by
  rw [search_eq_bands c filled, List.mem_append, List.mem_append, mem_band_iff, mem_band_iff, mem_band_iff,
    ← NameMatch.exists_holds_iff]
  constructor
  · rintro (⟨member, holds⟩ | ⟨member, holds⟩ | ⟨member, holds⟩) <;> exact ⟨member, _, holds⟩
  · rintro ⟨member, m, holds⟩
    cases m with
    | exact => exact .inl ⟨member, holds⟩
    | start => exact .inr (.inl ⟨member, holds⟩)
    | inside => exact .inr (.inr ⟨member, holds⟩)

/-- Nothing is found twice, because no two types have one id. -/
theorem search_distinct (c : TypeCatalog) (filled : Text.isBlankText text = false) :
    (c.search text).Pairwise fun r s => r.id ≠ s.id := by
  have entered : (c.ranked (nameKey text).toList).Pairwise fun a b => a.2.id ≠ b.2.id := by
    refine List.Pairwise.filterMap _ (fun e f apart a ha b hb => ?_) c.distinct
    obtain ⟨n, -, rfl⟩ := Option.map_eq_some_iff.1 ha
    obtain ⟨k, -, rfl⟩ := Option.map_eq_some_iff.1 hb
    exact apart
  have perm : (c.ranking (nameKey text).toList).Perm (c.ranked (nameKey text).toList) :=
    List.mergeSort_perm _ _
  rw [search_eq c filled, List.pairwise_map]
  exact (perm.pairwise_iff fun apart => Ne.symm apart).2 entered

/-- A look-up by name finds a type of the first rank. -/
theorem mem_band_of_byName? (found : c.byName? text = some r) :
    r ∈ c.band (nameKey text).toList .exact := by
  have key := nameKey_of_byName? found
  exact mem_band_iff.2 ⟨mem_records_of_byName? found, congrArg String.toList key.symm⟩

theorem exists_byName?_iff :
    (∃ r, c.byName? text = some r) ↔ c.band (nameKey text).toList .exact ≠ [] := by
  constructor
  · rintro ⟨r, found⟩
    exact List.ne_nil_of_mem (mem_band_of_byName? found)
  · intro filled
    obtain ⟨r, inBand⟩ := List.exists_mem_of_ne_nil _ filled
    obtain ⟨member, same⟩ := mem_band_iff.1 inBand
    have named : Text.lowercase r.name = nameKey text := String.toList_inj.1 same
    rw [← Option.isSome_iff_exists, byName?_eq_find?, List.find?_isSome]
    exact ⟨r, member, beq_iff_eq.2 named⟩

end TypeCatalog

/-- A search among types that were entered one after the other finds, each once, the types that were the first
of their ids and whose names contain the text, in small letters and without white space at the ends of the
text: first those of that name, then those whose names start with it, then the others, each in the order of
their names. A look-up finds a type exactly if there is one of that name, and then one of these. -/
theorem search_agrees_with_byName? (rs : List TypeRecord) {text : String}
    (filled : Text.isBlankText text = false) :
    let c := TypeCatalog.ofRecords rs
    let key := (Text.lowercase (Text.trim text)).toList
    (∀ r, r ∈ c.search text ↔
      rs.find? (·.id == r.id) = some r ∧ key <:+: (Text.lowercase r.name).toList) ∧
    (c.search text).Pairwise (fun r s => r.id ≠ s.id) ∧
    ∃ bands : NameMatch → List TypeRecord,
      c.search text = bands .exact ++ (bands .start ++ bands .inside) ∧
      (∀ m, ∀ r ∈ bands m, m.Holds key (Text.lowercase r.name).toList) ∧
      (∀ m, (bands m).Pairwise fun r s => r.name ≤ s.name) ∧
      ((∃ r, c.byName? text = some r) ↔ bands .exact ≠ []) ∧
      ∀ r, c.byName? text = some r → r ∈ bands .exact := by
  intro c key
  have entered (r : TypeRecord) : r ∈ c.records ↔ rs.find? (·.id == r.id) = some r := by
    rw [← TypeCatalog.byId?_ofRecords, TypeCatalog.byId?_eq_some_iff]
    exact (and_iff_left rfl).symm
  refine ⟨fun r => ?_, c.search_distinct filled, c.band key, c.search_eq_bands filled, ?_,
    c.pairwise_band key, TypeCatalog.exists_byName?_iff, fun r => TypeCatalog.mem_band_of_byName?⟩
  · rw [TypeCatalog.mem_search_iff filled, entered]
    rfl
  · intro m r inBand
    exact (TypeCatalog.mem_band_iff.1 inBand).2

/-! ## Two types of one name -/

namespace OreNames

def ore : TypeRecord := { id := 1230, name := "Veldspar" }

def compressed : TypeRecord := { id := 28430, name := "Compressed Veldspar" }

/-- A record whose id is taken when it comes. -/
def again : TypeRecord := { id := 1230, name := "Veldspar Again" }

def capitals : TypeRecord := { id := 5, name := "VELDSPAR" }

def entered : List TypeRecord := [compressed, ore, again, capitals]

theorem contains_key {name : String} (inside : Text.contains "veldspar".toList (Text.lowercase name).toList = true) :
    (Text.lowercase (Text.trim " veldSPAR")).toList <:+: (Text.lowercase name).toList := by
  have key : (Text.lowercase (Text.trim " veldSPAR")).toList = "veldspar".toList := by decide +kernel
  rw [key]
  exact Text.contains_iff.1 inside

end OreNames

open OreNames

theorem search_agrees_with_byName?_for_ore :
    Text.isBlankText " veldSPAR" = false ∧
    let c := TypeCatalog.ofRecords entered
    compressed ∈ c.search " veldSPAR" ∧ capitals ∈ c.search " veldSPAR" ∧ again ∉ c.search " veldSPAR" ∧
      ∃ r, c.byName? " veldSPAR" = some r ∧ Text.lowercase r.name = "veldspar" := by
  have filled : Text.isBlankText " veldSPAR" = false := by decide +kernel
  obtain ⟨found, -, bands, parts, holds, -, index, inBand⟩ := search_agrees_with_byName? entered filled
  have plain : capitals ∈ (TypeCatalog.ofRecords entered).search " veldSPAR" :=
    (found capitals).2 ⟨by decide +kernel, contains_key (by decide +kernel)⟩
  have same : (Text.lowercase (Text.trim " veldSPAR")).toList = "veldspar".toList := by decide +kernel
  have exact : capitals ∈ bands .exact := by
    have own : (Text.lowercase capitals.name).toList = (Text.lowercase (Text.trim " veldSPAR")).toList := by
      decide +kernel
    rw [parts, List.mem_append, List.mem_append] at plain
    rcases plain with member | member | member
    · exact member
    · cases (holds .start _ member).eq_exact own
    · cases (holds .inside _ member).eq_exact own
  refine ⟨filled, ?_, plain, fun member => ?_, ?_⟩
  · exact (found compressed).2 ⟨by decide +kernel, contains_key (by decide +kernel)⟩
  · exact absurd ((found again).1 member).1 (by decide +kernel)
  · obtain ⟨r, known⟩ := index.2 (List.ne_nil_of_mem exact)
    refine ⟨r, known, String.toList_inj.1 ?_⟩
    rw [← same]
    exact holds .exact r (inBand r known)

end ItemAppraisal
