import ItemAppraisal.Markets.Catalog
import ItemAppraisal.Proofs.FoldedEnds
import Mathlib.Data.List.Induction
import Mathlib.Data.List.Nodup

/-!
# Loading prices

A price that is set is found under every spelling of its market, and no other price changes (`price?_insert`).
The prices of a document enter the catalog one after another (`load_eq`), each at its place: the name of its
market, without white space at its ends and in small letters, and its type. The last price of a place stays
(`at?_foldl_put`). A document that gives one price for each place loses none, and it makes no difference in
which order it is read (`prices_of_document`); of two prices for one place one is lost
(`market_spelled_twice`).
-/

namespace ItemAppraisal

namespace PriceCatalog

/-- Prices of types by market, as a file lists them. -/
abbrev PriceTable := Table String (Table Int Prices)

/-- The prices that the text of a document lists. -/
def listingOf? (text : String) : Option PriceTable :=
  (Json.parse text).bind (·.map? (some ·.text) (Json.map? Json.intKey? Prices.ofJson?))

theorem ofText?_eq (text : String) : ofText? text = (listingOf? text).map load := by
  rw [ofText?, listingOf?]
  cases Json.parse text <;> rfl

/-! ## Places -/

/-- The name of a market in small letters and a type. -/
abbrev Place := String × Int

/-- The price at a place. -/
def at? (c : PriceCatalog) (k : Place) : Option Prices :=
  (c.markets.get? k.1).bind (·.get? k.2)

/-- Puts a price at its place. -/
def put (c : PriceCatalog) (e : Place × Prices) : PriceCatalog :=
  ⟨c.markets.insert e.1.1 (((c.markets.get? e.1.1).getD []).insert e.1.2 e.2)⟩

theorem at?_put (c : PriceCatalog) (e : Place × Prices) (k : Place) :
    (c.put e).at? k = if k = e.1 then some e.2 else c.at? k := by
  obtain ⟨⟨market, id⟩, p⟩ := e
  obtain ⟨market', id'⟩ := k
  by_cases same : market' = market
  · simp only [at?, put, Table.get?_insert, same, if_true, Option.bind_some, Prod.mk.injEq, true_and]
    cases c.markets.get? market <;> simp
  · simp [at?, put, Table.get?_insert, same]

/-- A price that is set is found under every spelling of its market, and no other price changes. -/
theorem price?_insert (c : PriceCatalog) (market market' : String) (id id' : Int) (p : Prices) :
    (c.insert market id p).price? market' id' =
      if Text.lowercase market' = Text.lowercase market ∧ id' = id then some p
      else c.price? market' id' := by
  have placed := at?_put c ((Text.lowercase market, id), p) (Text.lowercase market', id')
  simp only [Prod.mk.injEq] at placed
  exact placed

/-- Of the prices for one place the last one stays. -/
theorem at?_foldl_put (c : PriceCatalog) (es : List (Place × Prices)) (k : Place) :
    (es.foldl put c).at? k = (Table.get? es.reverse k).or (c.at? k) := by
  induction es generalizing c with
  | nil => simp
  | cons e es ih =>
    have single : Table.get? [e] k = if k = e.1 then some e.2 else none := Table.get?_cons e.1 e.2 [] k
    rw [List.foldl_cons, ih, at?_put, List.reverse_cons, Table.get?_append, Option.or_assoc, single]
    by_cases own : k = e.1 <;> simp [own]

theorem mem_of_at?_foldl_put {es : List (Place × Prices)} {k : Place} {p : Prices}
    (found : (es.foldl put {}).at? k = some p) : (k, p) ∈ es := by
  have empty : ({} : PriceCatalog).at? k = none := rfl
  rw [at?_foldl_put, empty, Option.or_none] at found
  exact List.mem_reverse.1 (Table.mem_of_get? found)

theorem isSome_at?_foldl_put {es : List (Place × Prices)} {k : Place} :
    ((es.foldl put {}).at? k).isSome = true ↔ k ∈ es.map (·.1) := by
  have empty : ({} : PriceCatalog).at? k = none := rfl
  rw [at?_foldl_put, empty, Option.or_none, Table.isSome_get?, Table.keys, List.map_reverse, List.mem_reverse]

/-! ## Markets of a catalog -/

/-- No market is kept twice or without a price, and no type is kept twice in a market. -/
structure Sound (c : PriceCatalog) : Prop where
  markets : c.markets.keys.Nodup
  types : ∀ m ∈ c.markets, m.2.keys.Nodup
  filled : ∀ m ∈ c.markets, m.2 ≠ []

/-- The places that have a price. -/
def places (c : PriceCatalog) : List Place :=
  c.markets.flatMap fun m => m.2.keys.map (m.1, ·)

variable {c d : PriceCatalog}

theorem length_places (c : PriceCatalog) : c.places.length = c.size := by
  rw [places, size, List.length_flatMap, List.sum]
  simp [Table.keys]

theorem sound_empty : Sound {} :=
  ⟨List.nodup_nil, fun _ member => absurd member List.not_mem_nil,
    fun _ member => absurd member List.not_mem_nil⟩

theorem Sound.put (sound : c.Sound) (e : Place × Prices) : (c.put e).Sound := by
  refine ⟨Table.keys_insert_nodup sound.markets _ _, ?_, ?_⟩
  · intro m member
    obtain rfl | member := Table.mem_of_mem_insert member
    · apply Table.keys_insert_nodup
      cases found : c.markets.get? e.1.1 with
      | none => exact List.nodup_nil
      | some prices => exact sound.types _ (Table.mem_of_get? found)
    · exact sound.types m member
  · intro m member
    obtain rfl | member := Table.mem_of_mem_insert member
    · have inserted : e.1.2 ∈ (((c.markets.get? e.1.1).getD []).insert e.1.2 e.2).keys := by
        rw [← Table.isSome_get?, Table.get?_insert, if_pos rfl]
        rfl
      intro empty
      have none : (((c.markets.get? e.1.1).getD []).insert e.1.2 e.2) = [] := empty
      rw [none] at inserted
      exact List.not_mem_nil inserted
    · exact sound.filled m member

theorem sound_foldl_put (sound : c.Sound) (es : List (Place × Prices)) :
    (es.foldl PriceCatalog.put c).Sound := by
  induction es generalizing c with
  | nil => exact sound
  | cons e es ih => exact ih (sound.put e)

theorem Sound.mem_places (sound : c.Sound) {k : Place} : k ∈ c.places ↔ (c.at? k).isSome = true := by
  rw [places, List.mem_flatMap, at?]
  constructor
  · rintro ⟨m, member, inside⟩
    obtain ⟨id, listed, rfl⟩ := List.mem_map.1 inside
    rw [Table.get?_of_mem sound.markets member, Option.bind_some]
    exact (Table.isSome_get? _ _).2 listed
  · intro found
    cases market : c.markets.get? k.1 with
    | none => simp [market] at found
    | some prices =>
      rw [market, Option.bind_some, Table.isSome_get?] at found
      exact ⟨(k.1, prices), Table.mem_of_get? market, List.mem_map.2 ⟨k.2, found, rfl⟩⟩

theorem Sound.nodup_places (sound : c.Sound) : c.places.Nodup := by
  rw [places, List.nodup_flatMap]
  constructor
  · intro m member
    exact (sound.types m member).map fun id id' same => congrArg Prod.snd same
  · have apart : c.markets.Pairwise fun m m' => m.1 ≠ m'.1 := List.pairwise_map.1 sound.markets
    refine apart.imp fun {m m'} other k inside inside' => ?_
    obtain ⟨id, -, rfl⟩ := List.mem_map.1 inside
    obtain ⟨id', -, same⟩ := List.mem_map.1 inside'
    exact other (congrArg Prod.fst same).symm

theorem Sound.mem_markets (sound : c.Sound) {market : String} :
    market ∈ c.markets.keys ↔ ∃ id, (market, id) ∈ c.places := by
  constructor
  · intro member
    obtain ⟨m, listed, rfl⟩ := List.mem_map.1 member
    obtain ⟨e, rest, split⟩ := List.exists_cons_of_ne_nil (sound.filled m listed)
    refine ⟨e.1, List.mem_flatMap.2 ⟨m, listed, List.mem_map.2 ⟨e.1, ?_, rfl⟩⟩⟩
    rw [split]
    exact List.mem_cons_self
  · rintro ⟨id, member⟩
    obtain ⟨m, listed, inside⟩ := List.mem_flatMap.1 member
    obtain ⟨id', -, same⟩ := List.mem_map.1 inside
    exact List.mem_map.2 ⟨m, listed, congrArg Prod.fst same⟩

/-- Two catalogs have prices at the same places. -/
def SamePlaces (c d : PriceCatalog) : Prop :=
  ∀ k, (c.at? k).isSome = (d.at? k).isSome

theorem SamePlaces.perm (same : SamePlaces c d) (sound : c.Sound) (sound' : d.Sound) :
    c.places.Perm d.places := by
  rw [List.perm_ext_iff_of_nodup sound.nodup_places sound'.nodup_places]
  intro k
  rw [sound.mem_places, sound'.mem_places, same]

theorem SamePlaces.size_eq (same : SamePlaces c d) (sound : c.Sound) (sound' : d.Sound) :
    c.size = d.size := by
  rw [← length_places, ← length_places, (same.perm sound sound').length_eq]

theorem SamePlaces.markets_perm (same : SamePlaces c d) (sound : c.Sound) (sound' : d.Sound) :
    c.markets.keys.Perm d.markets.keys := by
  rw [List.perm_ext_iff_of_nodup sound.markets sound'.markets]
  intro market
  simp only [sound.mem_markets, sound'.mem_markets, (same.perm sound sound').mem_iff]

theorem SamePlaces.marketNames_eq (same : SamePlaces c d) (sound : c.Sound) (sound' : d.Sound) :
    c.marketNames = d.marketNames := by
  have atMost (a b : String) : (!decide (b < a)) = true ↔ a ≤ b := by
    rw [Bool.not_eq_true', decide_eq_false_iff_not, String.not_lt]
  have sorted (names : List String) : (names.mergeSort fun a b => !(b < a)).Pairwise (· ≤ ·) := by
    have ordered : (names.mergeSort fun a b => !(b < a)).Pairwise fun a b => (!decide (b < a)) = true := by
      apply List.pairwise_mergeSort
      · intro a b c first second
        rw [atMost] at *
        exact String.le_trans first second
      · intro a b
        rw [Bool.or_eq_true, atMost, atMost]
        exact String.le_total a b
    exact ordered.imp fun {a b} precedes => (atMost a b).1 precedes
  have perm : c.marketNames.Perm d.marketNames :=
    (List.mergeSort_perm _ _).trans ((same.markets_perm sound sound').trans (List.mergeSort_perm _ _).symm)
  exact perm.eq_of_pairwise (fun a b _ _ => String.le_antisymm) (sorted _) (sorted _)

theorem SamePlaces.hasMarket_eq (same : SamePlaces c d) (sound : c.Sound) (sound' : d.Sound)
    (market : String) : c.hasMarket market = d.hasMarket market := by
  rw [Bool.eq_iff_iff, hasMarket, hasMarket, market?, market?, Table.isSome_get?, Table.isSome_get?,
    (same.markets_perm sound sound').mem_iff]

/-! ## What a document lists -/

/-- The place of a price that is listed under the name of a market. -/
def place (name : String) (id : Int) : Place :=
  (Text.lowercase (Text.trim name), id)

/-- The prices that are entered of those listed for one market. -/
def entriesOf (m : String × Table Int Prices) : List (Place × Prices) :=
  if (Text.trim m.1).isEmpty then [] else (m.2.filter (0 < ·.1)).map fun e => (place m.1 e.1, e.2)

/-- The prices that are entered of a list, in the order of their coming. -/
def entries (listed : PriceTable) : List (Place × Prices) :=
  listed.flatMap entriesOf

variable {listed listed' : PriceTable}

theorem mem_entries {k : Place} {p : Prices} : (k, p) ∈ entries listed ↔
    ∃ m prices id, (m, prices) ∈ listed ∧ (id, p) ∈ prices ∧
      Text.trim m ≠ "" ∧ 0 < id ∧ k = place m id := by
  rw [entries, List.mem_flatMap]
  constructor
  · rintro ⟨⟨m, prices⟩, member, entered⟩
    rw [entriesOf] at entered
    split at entered
    · cases entered
    · rename_i named
      obtain ⟨⟨id, q⟩, kept, same⟩ := List.mem_map.1 entered
      obtain ⟨inside, positive⟩ := List.mem_filter.1 kept
      obtain ⟨rfl, rfl⟩ := Prod.mk.inj same
      exact ⟨m, prices, id, member, inside, by simpa using named, by simpa using positive, rfl⟩
  · rintro ⟨m, prices, id, member, inside, named, positive, rfl⟩
    refine ⟨(m, prices), member, ?_⟩
    rw [entriesOf, if_neg (by simpa using named)]
    exact List.mem_map.2 ⟨(id, p), List.mem_filter.2 ⟨inside, by simpa using positive⟩, rfl⟩

theorem length_entriesOf_le (m : String × Table Int Prices) : (entriesOf m).length ≤ m.2.length := by
  rw [entriesOf]
  split
  · exact Nat.zero_le _
  · rw [List.length_map]
    exact List.length_filter_le _ _

/-- The prices of one more market are entered in their order and counted as found, and as loaded or
invalid. -/
theorem loadMarket_eq (c : PriceCatalog) (summary : LoadSummary) (m : String × Table Int Prices) :
    loadMarket (c, summary) m = ((entriesOf m).foldl put c,
      { summary with
        found := summary.found + m.2.length
        loaded := summary.loaded + (entriesOf m).length
        invalid := summary.invalid + (m.2.length - (entriesOf m).length)
        notices := summary.notices ++ if (Text.trim m.1).isEmpty then [.namelessMarket] else [] }) := by
  rw [loadMarket, entriesOf]
  by_cases nameless : (Text.trim m.1).isEmpty = true
  · simp [nameless]
  · simp only [nameless, Bool.false_eq_true, if_false, List.foldl_map, List.length_map, List.append_nil]
    rfl

/-- The number of prices that a file lists. -/
def total (listed : PriceTable) : Nat :=
  (listed.flatMap (·.2)).length

theorem length_entries_le (listed : PriceTable) : (entries listed).length ≤ total listed := by
  induction listed with
  | nil => exact Nat.le_refl 0
  | cons m rest ih =>
    have fewer := length_entriesOf_le m
    simp only [entries, total, List.flatMap_cons, List.length_append] at ih ⊢
    omega

theorem load_eq (listed : PriceTable) :
    load listed = ((entries listed).foldl put {},
      { found := total listed
        loaded := (entries listed).length
        invalid := total listed - (entries listed).length
        notices := .replicate (listed.countP fun m => (Text.trim m.1).isEmpty) .namelessMarket }) := by
  induction listed using List.reverseRecOn with
  | nil => rfl
  | append_singleton listed m ih =>
    have fewer := length_entriesOf_le m
    have fewer' := length_entries_le listed
    have more : entries (listed ++ [m]) = entries listed ++ entriesOf m := by simp [entries]
    have counted : total (listed ++ [m]) = total listed + m.2.length := by simp [total]
    have step : load (listed ++ [m]) = loadMarket (load listed) m := by
      rw [load, load, List.foldl_append, List.foldl_cons, List.foldl_nil]
    rw [step, ih, loadMarket_eq, more, counted, List.foldl_append, List.length_append, List.countP_append]
    have invalid : total listed - (entries listed).length + (m.2.length - (entriesOf m).length) =
        total listed + m.2.length - ((entries listed).length + (entriesOf m).length) := by omega
    simp only [invalid]
    by_cases nameless : (Text.trim m.1).isEmpty = true
    · simp [nameless, List.replicate_succ']
    · simp [nameless]

/-- The markets of a file in another order, and the prices of each market in another order. -/
def Reordered (listed listed' : PriceTable) : Prop :=
  ∃ between, listed.Perm between ∧ between.Forall₂ (fun m m' => m.1 = m'.1 ∧ m.2.Perm m'.2) listed'

theorem entriesOf_perm {m m' : String × Table Int Prices} (named : m.1 = m'.1) (perm : m.2.Perm m'.2) :
    (entriesOf m).Perm (entriesOf m') := by
  rw [entriesOf, entriesOf, named]
  split
  · exact .refl []
  · exact (perm.filter _).map _

theorem Reordered.entries_perm (reordered : Reordered listed listed') :
    (entries listed).Perm (entries listed') := by
  obtain ⟨between, perm, alike⟩ := reordered
  refine (perm.flatMap_right _).trans ?_
  clear perm
  induction alike with
  | nil => exact .refl _
  | cons same _ ih => exact (entriesOf_perm same.1 same.2).append ih

theorem Reordered.summary_eq (reordered : Reordered listed listed') :
    (load listed').2 = (load listed).2 := by
  have counted : total listed = total listed' ∧
      (listed.countP fun m => (Text.trim m.1).isEmpty) = listed'.countP fun m => (Text.trim m.1).isEmpty := by
    obtain ⟨between, perm, alike⟩ := reordered
    rw [total, (perm.flatMap_right _).length_eq, perm.countP_eq]
    clear perm
    induction alike with
    | nil => exact ⟨rfl, rfl⟩
    | cons same _ ih =>
      rw [total] at ih ⊢
      simp [List.countP_cons, same.1, same.2.length_eq, ih.1, ih.2]
  rw [load_eq, load_eq, counted.1, counted.2, reordered.entries_perm.length_eq]

/-- A file does not list two different prices for a place. -/
def Agrees (listed : PriceTable) (k : Place) : Prop :=
  ∀ p q, (k, p) ∈ entries listed → (k, q) ∈ entries listed → p = q

/-- A catalog holds a price at a place if and only if the file lists one there. -/
theorem isSome_at?_load {k : Place} :
    ((load listed).1.at? k).isSome = true ↔ k ∈ (entries listed).map (·.1) := by
  rw [load_eq]
  exact isSome_at?_foldl_put

theorem mem_of_at?_load {k : Place} {p : Prices} (found : (load listed).1.at? k = some p) :
    (k, p) ∈ entries listed := by
  rw [load_eq] at found
  exact mem_of_at?_foldl_put found

theorem sound_load (listed : PriceTable) : (load listed).1.Sound := by
  rw [load_eq]
  exact sound_foldl_put sound_empty _

theorem Reordered.samePlaces (reordered : Reordered listed listed') :
    SamePlaces (load listed').1 (load listed).1 := by
  intro k
  rw [Bool.eq_iff_iff, isSome_at?_load, isSome_at?_load, (reordered.entries_perm.map _).mem_iff]

theorem Reordered.at?_eq (reordered : Reordered listed listed')
    {k : Place} (agrees : Agrees listed k) : (load listed').1.at? k = (load listed).1.at? k := by
  have same := reordered.samePlaces k
  cases found : (load listed).1.at? k with
  | none => simpa [found] using same
  | some p =>
    rw [found, Option.isSome_some, Option.isSome_iff_exists] at same
    obtain ⟨q, found'⟩ := same
    have entered := reordered.entries_perm.mem_iff.2 (mem_of_at?_load found')
    rw [found', agrees p q (mem_of_at?_load found) entered]

theorem loaded_eq_size (apart : ((entries listed).map (·.1)).Nodup) :
    (load listed).2.loaded = (load listed).1.size := by
  have same : ((entries listed).map (·.1)).Perm (load listed).1.places := by
    rw [List.perm_ext_iff_of_nodup apart (sound_load listed).nodup_places]
    intro k
    rw [(sound_load listed).mem_places, isSome_at?_load]
  rw [← length_places, ← same.length_eq, List.length_map, load_eq]

end PriceCatalog

open PriceCatalog

/-- Every price that a document lists under a market with a name and a positive id is found there under the
trimmed name, or another one of the document for the same market and type, and nothing else is found. Every
price is counted as loaded or as invalid, and as many are kept as are loaded if no two are for one market and
type. Read in any other order, the document gives the same summary and a catalog with prices for the same
markets and types, and with the same price wherever the document does not list two different ones. -/
theorem prices_of_document (text : String) (listed : PriceTable)
    (read : listingOf? text = some listed) :
    ∃ c summary, ofText? text = some (c, summary) ∧
      (∀ m prices id p, (m, prices) ∈ listed → (id, p) ∈ prices → Text.trim m ≠ "" → 0 < id →
        (∃ q, c.price? (Text.trim m) id = some q ∧ (place m id, q) ∈ entries listed) ∧
        (Agrees listed (place m id) → c.price? (Text.trim m) id = some p)) ∧
      (∀ m id p, c.price? m id = some p →
        Text.trim m = m ∧ ((Text.lowercase m, id), p) ∈ entries listed) ∧
      summary.found = total listed ∧
      summary.found = summary.loaded + summary.invalid ∧
      (((entries listed).map (·.1)).Nodup → summary.loaded = c.size) ∧
      ∀ listed', Reordered listed listed' →
        (load listed').2 = summary ∧
        (load listed').1.size = c.size ∧
        (load listed').1.marketNames = c.marketNames ∧
        (∀ m, (load listed').1.hasMarket m = c.hasMarket m) ∧
        (∀ m id, ((load listed').1.price? m id).isSome = (c.price? m id).isSome) ∧
        ∀ m id, Agrees listed (Text.lowercase m, id) →
          (load listed').1.price? m id = c.price? m id := by
  refine ⟨(load listed).1, (load listed).2, by rw [ofText?_eq, read, Option.map_some], ?_, ?_,
    by rw [load_eq], ?_, loaded_eq_size, ?_⟩
  · intro m prices id p member inside named positive
    have entered : (place m id, p) ∈ entries listed :=
      mem_entries.2 ⟨m, prices, id, member, inside, named, positive, rfl⟩
    have found : ((load listed).1.at? (place m id)).isSome = true :=
      isSome_at?_load.2 (List.mem_map.2 ⟨_, entered, rfl⟩)
    obtain ⟨q, found⟩ := Option.isSome_iff_exists.1 found
    refine ⟨⟨q, found, mem_of_at?_load found⟩, ?_⟩
    intro agrees
    rw [agrees p q entered (mem_of_at?_load found)]
    exact found
  · intro m id p found
    have entered : ((Text.lowercase m, id), p) ∈ entries listed := mem_of_at?_load found
    refine ⟨?_, entered⟩
    obtain ⟨name, prices, id', -, -, -, -, same⟩ := mem_entries.1 entered
    rw [← Text.trim_lowercase_eq_iff, (Prod.mk.inj same).1, Text.trim_lowercase_eq_iff]
    exact Text.trim_trim name
  · have fewer := length_entries_le listed
    rw [load_eq]
    simp only
    omega
  · intro listed' reordered
    have same := reordered.samePlaces
    have sound := sound_load listed
    have sound' := sound_load listed'
    exact ⟨reordered.summary_eq, same.size_eq sound' sound, same.marketNames_eq sound' sound,
      same.hasMarket_eq sound' sound, fun m id => same (Text.lowercase m, id), fun m id => reordered.at?_eq⟩

/-! ## Documents -/

namespace PriceDocument

def byOrders : Prices := { strategy := "orders" }

def byContracts : Prices := { strategy := "contracts" }

/-- Two markets, one with a padded name and one with a price for no type, and prices for no market. -/
def plain : String :=
  "\x7b\"Jita\":\x7b\"34\":\x7b\"strategy\":\"orders\"\x7d,\"0\":\x7b\x7d\x7d," ++
    "\" amarr \":\x7b\"34\":\x7b\"strategy\":\"contracts\"\x7d\x7d,\" \":\x7b\"35\":\x7b\x7d\x7d\x7d"

def plainListing : PriceTable :=
  [("Jita", [(34, byOrders), (0, {})]), (" amarr ", [(34, byContracts)]), (" ", [(35, {})])]

theorem listingOf?_plain : listingOf? plain = some plainListing := by decide +kernel

/-- One market in two spellings and one with a padded name. -/
def spelledTwice : String :=
  "\x7b\"Jita\":\x7b\"34\":\x7b\"strategy\":\"orders\"\x7d\x7d," ++
    "\"jita\":\x7b\"34\":\x7b\"strategy\":\"contracts\"\x7d\x7d,\" amarr \":\x7b\"34\":\x7b\x7d\x7d\x7d"

def spelledTwiceListing : PriceTable :=
  [("Jita", [(34, byOrders)]), ("jita", [(34, byContracts)]), (" amarr ", [(34, {})])]

theorem listingOf?_spelledTwice : listingOf? spelledTwice = some spelledTwiceListing := by decide +kernel

end PriceDocument

open PriceDocument

theorem prices_of_document_plain : listingOf? plain = some plainListing ∧
    ∃ c summary, ofText? plain = some (c, summary) ∧
      c.price? "Jita" 34 = some byOrders ∧ c.price? "amarr" 34 = some byContracts ∧
      c.price? " amarr " 34 = none ∧ summary.found = 4 ∧ summary.loaded = c.size ∧
      (load plainListing.reverse).1.price? "Jita" 34 = some byOrders := by
  refine ⟨listingOf?_plain, ?_⟩
  obtain ⟨c, summary, loaded, found, only, counted, -, size, reordered⟩ :=
    prices_of_document plain plainListing listingOf?_plain
  have apart : ((entries plainListing).map (·.1)).Nodup := by decide +kernel
  have agrees (k : Place) : Agrees plainListing k := by
    intro p q first second
    exact congrArg Prod.snd (List.inj_on_of_nodup_map apart first second rfl)
  have jita : c.price? "Jita" 34 = some byOrders := by
    rw [← show Text.trim "Jita" = "Jita" by decide +kernel]
    exact (found "Jita" [(34, byOrders), (0, {})] 34 byOrders (by simp [plainListing]) (by simp)
      (by decide +kernel) (by decide)).2 (agrees _)
  have amarr : c.price? "amarr" 34 = some byContracts := by
    rw [← show Text.trim " amarr " = "amarr" by decide +kernel]
    exact (found " amarr " [(34, byContracts)] 34 byContracts (by simp [plainListing]) (by simp)
      (by decide +kernel) (by decide)).2 (agrees _)
  have padded : c.price? " amarr " 34 = none := by
    rw [Option.eq_none_iff_forall_ne_some]
    intro p there
    exact absurd (only _ _ _ there).1 (by decide +kernel)
  have backwards : Reordered plainListing plainListing.reverse :=
    ⟨_, (List.reverse_perm _).symm, List.forall₂_same.2 fun m _ => ⟨rfl, .refl _⟩⟩
  obtain ⟨-, -, -, -, -, same⟩ := reordered _ backwards
  exact ⟨c, summary, loaded, jita, amarr, padded, counted, size apart, (same _ _ (agrees _)).trans jita⟩

/-- The price that is listed for one spelling of a market is not the one that is found under it, but it is
when the document is read backwards. More prices are loaded than are kept, and the market with the padded
name is not found under it. -/
theorem market_spelled_twice : listingOf? spelledTwice = some spelledTwiceListing ∧
    ∃ c summary, ofText? spelledTwice = some (c, summary) ∧
      c.price? " amarr " 34 = none ∧ c.price? "Jita" 34 = some byContracts ∧ byContracts ≠ byOrders ∧
      summary.loaded = 3 ∧ c.size = 2 ∧
      (load spelledTwiceListing.reverse).1.price? "Jita" 34 = some byOrders := by
  refine ⟨listingOf?_spelledTwice, (load spelledTwiceListing).1, (load spelledTwiceListing).2, ?_, ?_⟩
  · rw [ofText?_eq, listingOf?_spelledTwice, Option.map_some]
  · decide +kernel

end ItemAppraisal
