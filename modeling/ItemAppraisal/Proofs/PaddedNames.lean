import ItemAppraisal.Proofs.FoldedEnds
import ItemAppraisal.Proofs.TypeLoading

/-!
# Types with padded names

A name is looked up without white space at its ends, but types are indexed by their names as they are. So a
type is found under its own name, and under any name at all, if and only if its name has no white space at
its ends (`reaches_iff`); a type with a padded name loads but cannot be found by name (`padded_unreached`).
-/

namespace ItemAppraisal

namespace TypeCatalog

/-- A look-up of the name gives a type that has the name of `r` in small letters. -/
def Reaches (c : TypeCatalog) (name : String) (r : TypeRecord) : Prop :=
  ∃ s, c.byName? name = some s ∧ Text.lowercase s.name = Text.lowercase r.name

variable {c : TypeCatalog} {r : TypeRecord}

/-- A key of a look-up has no white space at its ends. -/
theorem trim_nameKey (name : String) : Text.trim (nameKey name) = nameKey name := by
  rw [nameKey, Text.trim_lowercase_eq_iff, Text.trim_trim]

theorem trim_name_of_reaches {name : String} (reaches : c.Reaches name r) : Text.trim r.name = r.name := by
  obtain ⟨s, found, same⟩ := reaches
  have key : nameKey name = Text.lowercase r.name := (nameKey_of_byName? found).trans same
  rw [← Text.trim_lowercase_eq_iff, ← key]
  exact trim_nameKey name

theorem reaches_of_trim (member : r ∈ c.records) (trimmed : Text.trim r.name = r.name) :
    c.Reaches r.name r := by
  have key : nameKey r.name = Text.lowercase r.name := by rw [nameKey, trimmed]
  have found : (c.byName? r.name).isSome = true := by
    rw [byName?_eq_find?, List.find?_isSome]
    exact ⟨r, member, by rw [key]; exact beq_self_eq_true _⟩
  obtain ⟨s, found⟩ := Option.isSome_iff_exists.1 found
  exact ⟨s, found, (nameKey_of_byName? found).symm.trans key⟩

end TypeCatalog

open TypeCatalog

/-- A type that is loaded from a document is found under its own name, up to the case of letters, if and
only if its name has no white space at its ends, and it is found under some name in no other case. -/
theorem reaches_iff (text : String) (rs : List TypeRecord) (listed : recordsOf? text = some rs) :
    ∃ c summary, ofText? text = some (c, summary) ∧ summary.loaded = c.records.length ∧
      ∀ r ∈ c.records, (c.Reaches r.name r ↔ Text.trim r.name = r.name) ∧
        ((∃ name, c.Reaches name r) ↔ Text.trim r.name = r.name) := by
  refine ⟨(load rs).1, (load rs).2, by rw [ofText?_eq, listed]; rfl, ?_, ?_⟩
  · rw [(accounts_load rs).loaded, size, records, List.length_map]
  · intro r member
    have back : Text.trim r.name = r.name → (load rs).1.Reaches r.name r := reaches_of_trim member
    refine ⟨⟨trim_name_of_reaches, back⟩, ?_, fun trimmed => ⟨r.name, back trimmed⟩⟩
    rintro ⟨name, reaches⟩
    exact trim_name_of_reaches reaches

/-! ## A document with a padded name -/

namespace PaddedName

def mineral : TypeRecord := { id := 34, name := "Tritanium" }

def padded : TypeRecord := { id := 35, name := " Pyerite" }

def document : String :=
  "[\x7b\"id\":34,\"name\":\"Tritanium\"\x7d,\x7b\"id\":35,\"name\":\" Pyerite\"\x7d]"

theorem recordsOf?_document : recordsOf? document = some [mineral, padded] := by decide +kernel

theorem records_load : (load [mineral, padded]).1.records = [mineral, padded] := by
  have loadable : [mineral, padded].filter isLoadable = [mineral, padded] := by decide +kernel
  show ((enter ∅ [] [] ([mineral, padded].filter isLoadable)).1).map (·.record) = _
  rw [loadable]
  simp [enter, mineral, padded, CatalogEntry.ofRecord]

end PaddedName

open PaddedName

theorem reaches_iff_in_document : recordsOf? document = some [mineral, padded] ∧
    ∃ c summary, ofText? document = some (c, summary) ∧ summary.loaded = 2 ∧
      c.Reaches "Tritanium" mineral ∧ ∀ name, ¬c.Reaches name padded := by
  refine ⟨recordsOf?_document, ?_⟩
  obtain ⟨c, summary, loaded, counted, reached⟩ :=
    reaches_iff document [mineral, padded] recordsOf?_document
  have same : some (c, summary) = some (load [mineral, padded]) := by
    rw [← loaded, ofText?_eq, recordsOf?_document]
    rfl
  have records : c.records = [mineral, padded] := by
    rw [← records_load, ← Option.some.inj same]
  rw [records] at counted reached
  refine ⟨c, summary, loaded, counted, ?_, ?_⟩
  · exact (reached mineral (by simp)).1.2 (by decide +kernel)
  · intro name found
    have trimmed := (reached padded (by simp)).2.1 ⟨name, found⟩
    exact absurd trimmed (by decide +kernel)

/-- A type with a space in front of its name counts as loaded, and its own name does not find it. -/
theorem padded_unreached : ∃ c summary, ofText? document = some (c, summary) ∧ summary.loaded = 2 ∧
    padded ∈ c.records ∧ c.byName? padded.name = none := by
  refine ⟨(load [mineral, padded]).1, (load [mineral, padded]).2, ?_, ?_, ?_, ?_⟩
  · rw [ofText?_eq, recordsOf?_document]
    rfl
  · rw [(accounts_load _).loaded, size, ← List.length_map CatalogEntry.record]
    exact congrArg List.length records_load
  · simp [records_load]
  · rw [byName?_eq_find?, records_load]
    decide +kernel

end ItemAppraisal
