import ItemAppraisal.Proofs.CaseFolding
import ItemAppraisal.Proofs.ItemResolution
import ItemAppraisal.Proofs.Trimming

/-!
# Prices and spellings

An item is priced by its type, except that the qualities of ores are recognised by the name as it was
listed. So two spellings of one type have the same prices if the ores are read off them alike
(`prices_of_spellings`). A name in small letters stands for the type, but no ore is read off it, and the
prices are others (`prices_of_spellings_differ`).
-/

namespace ItemAppraisal

/-! ## Blank names -/

/-- A blank name is no name of a blueprint. -/
theorem CopyValue.productName_of_blank {name : String} (blank : TypeCatalog.nameKey name = "") :
    productName name = name := by
  have chars := Text.trim_eq_empty_iff.1 (Text.lowercase_eq_empty_iff.1 blank)
  have kept : Text.beforeEnding? blueprintEnding name.toList = none := by
    rw [Option.eq_none_iff_forall_ne_some]
    intro front found
    have letter : 'B' ∈ name.toList := by
      rw [Text.beforeEnding?_eq_some_iff.1 found]
      exact List.mem_append_right _ (by decide)
    exact absurd (chars 'B' letter) (by decide)
  rw [productName, Text.withoutEnding, kept]
  exact String.ofList_toList

/-! ## What prices are read off -/

namespace Pricing

variable {p : Pricing} {i j : AppraisedItem} {r : TypeRecord} {market : String}

/-- The ore that is read off a name, if its plain ore is a known type. -/
def oreOf? (p : Pricing) (name : String) : Option (OreMatch × TypeRecord) :=
  (OreFamily.match? p.ores name).bind fun m => (p.types.byName? m.base).map (m, ·)

theorem ordinaryPrices_eq (p : Pricing) (market : String) (item : AppraisedItem) :
    p.ordinaryPrices market item = match p.oreOf? item.name with
      | some (m, base) => p.orePrices market m base
      | none => p.marketPrices market item.typeId := rfl

/-- An item whose name stands for a type and which has no other type yet. -/
structure Spells (p : Pricing) (i : AppraisedItem) (r : TypeRecord) : Prop where
  found : p.types.byName? i.name = some r
  typed : i.typeId = 0 ∨ i.typeId = r.id

theorem record?_of_spells (spells : p.Spells i r) : p.record? i = some r := by
  by_cases unresolved : i.typeId = 0
  · rw [record?_of_unresolved unresolved]
    exact spells.found
  · have same : i.typeId = r.id := spells.typed.resolve_left unresolved
    rw [record?_of_resolved unresolved, same]
    exact TypeCatalog.byId?_of_byName? spells.found

theorem prices_priceItem (known : p.record? i = some r) (adjustments : Table Int Float) :
    (p.priceItem market adjustments i).prices =
      if i.rejected then {} else p.pricesFor market (withRecord i r) := by
  rw [priceItem, known]
  cases rejected : i.rejected <;> simp [withRecord, rejected]

/-- A blueprint is read off the name of its type, or, where the type has no name, off a name that is as
blank. -/
theorem product_of_spells (spells : p.Spells i r) (spells' : p.Spells j r) :
    p.types.byName? (CopyValue.productName (withRecord i r).displayName) =
      p.types.byName? (CopyValue.productName (withRecord j r).displayName) := by
  by_cases nameless : r.name = ""
  · have named (k : AppraisedItem) (spells : p.Spells k r) :
        p.types.byName? (CopyValue.productName (withRecord k r).displayName) = some r := by
      have blank : TypeCatalog.nameKey k.name = "" := by
        rw [TypeCatalog.nameKey_of_byName? spells.found, nameless]
        rfl
      have shown : (withRecord k r).displayName = k.name := by
        simp [AppraisedItem.displayName, withRecord, nameless]
      rw [shown, CopyValue.productName_of_blank blank]
      exact spells.found
    rw [named i spells, named j spells']
  · simp [AppraisedItem.displayName, withRecord, nameless]

theorem pricesFor_of_spells (spells : p.Spells i r) (spells' : p.Spells j r)
    (details : i.details = j.details)
    (ore : i.details.blueprintCopy = false → p.oreOf? i.name = p.oreOf? j.name) :
    p.pricesFor market (withRecord i r) = p.pricesFor market (withRecord j r) := by
  have product := product_of_spells spells spells'
  have details' : (withRecord i r).details = (withRecord j r).details := details
  rw [pricesFor, pricesFor, CopyValue.ofItem?, CopyValue.ofItem?, product, details']
  split
  · rfl
  · rename_i ordinary
    have same : p.oreOf? (withRecord i r).name = p.oreOf? (withRecord j r).name := by
      refine ore ?_
      rw [details]
      exact Bool.not_eq_true _ ▸ ordinary
    rw [ordinaryPrices_eq, ordinaryPrices_eq, same]
    rfl

end Pricing

open Pricing

/-- Two items of one type with the same details have the same prices if the same ore, or none, is read off
their names as they are spelled; for blueprint copies the spelling does not matter at all. -/
theorem prices_of_spellings (p : Pricing) (market : String) (adjustments : Table Int Float)
    {items : List AppraisedItem} {k l : Nat} {i j : AppraisedItem} {r : TypeRecord}
    (first : items[k]? = some i) (second : items[l]? = some j)
    (spells : p.Spells i r) (spells' : p.Spells j r)
    (details : i.details = j.details) (rejected : i.rejected = j.rejected)
    (ore : i.details.blueprintCopy = false → p.oreOf? i.name = p.oreOf? j.name) :
    ∃ priced priced', (p.priceItems market adjustments items).items[k]? = some priced ∧
      (p.priceItems market adjustments items).items[l]? = some priced' ∧
      priced.prices = priced'.prices := by
  refine ⟨p.priceItem market adjustments i, p.priceItem market adjustments j, ?_, ?_, ?_⟩
  · rw [priceItems, List.getElem?_map, first, Option.map_some]
  · rw [priceItems, List.getElem?_map, second, Option.map_some]
  · rw [prices_priceItem (record?_of_spells spells), prices_priceItem (record?_of_spells spells'),
      rejected, pricesFor_of_spells spells spells' details ore]

/-! ## A quality of an ore -/

namespace OreSpelling

def plain : TypeRecord := { id := 1230, name := "Veldspar" }

def quality : TypeRecord := { id := 17470, name := "Concentrated Veldspar" }

/-- A pricing that knows an ore and one of its qualities, at 12 and at 13 for a unit. -/
def pricing : Pricing where
  types := .ofEntries [.ofRecord plain, .ofRecord quality] (by decide)
  prices := ⟨[("jita", [(1230, { sell := { min := 12 } }), (17470, { sell := { min := 13 } })])]⟩
  ores := OreFamily.standard
  settings := {}

/-- An item with a name only. -/
def named (name : String) : AppraisedItem := { name }

theorem byName?_eq (name : String) : pricing.types.byName? name =
    [plain, quality].find? (Text.lowercase ·.name == TypeCatalog.nameKey name) := by
  rw [TypeCatalog.byName?_eq_find?]
  rfl

theorem spells_plain (name : String) (key : TypeCatalog.nameKey name = "veldspar") :
    pricing.Spells (named name) plain := by
  refine ⟨?_, .inl rfl⟩
  rw [byName?_eq, named, key]
  decide +kernel

theorem spells_quality (name : String) (key : TypeCatalog.nameKey name = "concentrated veldspar") :
    pricing.Spells (named name) quality := by
  refine ⟨?_, .inl rfl⟩
  rw [byName?_eq, named, key]
  decide +kernel

theorem oreOf?_eq (name : String) : pricing.oreOf? name =
    (OreFamily.match? OreFamily.standard name).bind fun m =>
      ([plain, quality].find? (Text.lowercase ·.name == TypeCatalog.nameKey m.base)).map (m, ·) := by
  rw [oreOf?]
  simp only [byName?_eq]
  rfl

end OreSpelling

open OreSpelling

theorem prices_of_spellings_plain_ore :
    let items := [named "Veldspar", named "VELDSPAR "]
    pricing.Spells (named "Veldspar") plain ∧ pricing.Spells (named "VELDSPAR ") plain ∧
    pricing.oreOf? "Veldspar" = pricing.oreOf? "VELDSPAR " ∧
    ∃ priced priced', (pricing.priceItems "jita" [] items).items[0]? = some priced ∧
      (pricing.priceItems "jita" [] items).items[1]? = some priced' ∧
      priced.prices = priced'.prices := by
  intro items
  have first := spells_plain "Veldspar" (by decide +kernel)
  have second := spells_plain "VELDSPAR " (by decide +kernel)
  have ore : pricing.oreOf? "Veldspar" = pricing.oreOf? "VELDSPAR " := by
    rw [oreOf?_eq, oreOf?_eq]
    decide +kernel
  exact ⟨first, second, ore,
    prices_of_spellings pricing "jita" [] rfl rfl first second rfl rfl fun _ => ore⟩

/-- A quality in small letters is an item of the same type with the same details, but it is priced as such
and not from the plain ore. -/
theorem prices_of_spellings_differ :
    pricing.Spells (named "Concentrated Veldspar") quality ∧
    pricing.Spells (named "concentrated veldspar") quality ∧
    (named "Concentrated Veldspar").details = (named "concentrated veldspar").details ∧
    (pricing.priceItems "jita" [] [named "Concentrated Veldspar", named "concentrated veldspar"]).items.map
        (fun i => (i.typeId, i.prices.sell.min, i.prices.strategy, i.prices.basis)) =
      [(17470, 12 * (1 + 5 / 100), "ore_yield", "Veldspar +5%"), (17470, 13, "market", "")] := by
  have first := spells_quality "Concentrated Veldspar" (by decide +kernel)
  have second := spells_quality "concentrated veldspar" (by decide +kernel)
  have read : pricing.oreOf? "Concentrated Veldspar" = some (⟨"Veldspar", 5⟩, plain) := by
    rw [oreOf?_eq]
    decide +kernel
  have unread : pricing.oreOf? "concentrated veldspar" = none := by
    rw [oreOf?_eq]
    decide +kernel
  refine ⟨first, second, rfl, ?_⟩
  have prices (name : String) (spells : pricing.Spells (named name) quality) :
      pricing.priceItem "jita" [] (named name) = { withRecord (named name) quality with
        prices := match pricing.oreOf? name with
          | some (m, base) => pricing.orePrices "jita" m base
          | none => pricing.marketPrices "jita" quality.id
        adjustment := adjustmentFor [] quality.id } := by
    rw [priceItem, record?_of_spells spells]
    rfl
  rw [priceItems]
  simp only [List.map_cons, List.map_nil, prices _ first, prices _ second, read, unread]
  decide +kernel

end ItemAppraisal
