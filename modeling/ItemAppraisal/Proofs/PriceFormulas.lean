import ItemAppraisal.Pricing.BlueprintCopy
import ItemAppraisal.Quantity
import Mathlib.Algebra.Order.BigOperators.Group.List
import Mathlib.Algebra.Order.Ring.Int

/-!
# Formulas over prices

Prices are added, subtracted, scaled and set to a single price, and formulas combine these operations. The
figures are computed as the formula says, but traded volumes only add up, also where prices are subtracted
(`Prices.Formula.volume_value`), and all labels are those of the leftmost prices
(`Prices.Formula.sameLabels_value`). Where no volume is negative, no sum on the way leaves the range if the
last one is in it (`Prices.Formula.addsUp_iff`). The net value of a blueprint copy is the value of a
formula (`CopyValue.map_net_ofItem?`). Main statement: `volumes_and_labels_of_leaves`.
-/

namespace ItemAppraisal

namespace Prices

/-- A side of a market. -/
inductive Side where
  | all
  | buy
  | sell
  deriving DecidableEq

/-- The statistics of a side. -/
def side (p : Prices) : Side → PriceStats
  | .all => p.all
  | .buy => p.buy
  | .sell => p.sell

/-- What was traded on a side. -/
def volume (p : Prices) (side : Side) : Int :=
  (p.side side).volume

/-- What was traded on a side of several prices. -/
def totalVolume (prices : List Prices) (side : Side) : Int :=
  (prices.map (·.volume side)).foldr (· + ·) 0

/-- Prices that agree in all but their figures and volumes. -/
structure SameLabels (p q : Prices) : Prop where
  orderCount : ∀ side, (p.side side).orderCount = (q.side side).orderCount
  updated : p.updated = q.updated
  strategy : p.strategy = q.strategy
  basis : p.basis = q.basis

/-! ## What each operation keeps -/

section

variable {f : PriceStats → PriceStats} {g : PriceStats → PriceStats → PriceStats} {p q r : Prices}

theorem side_mapSides (side : Side) : (p.mapSides f).side side = f (p.side side) := by
  cases side <;> rfl

theorem side_zipSides (side : Side) : (zipSides g p q).side side = g (p.side side) (q.side side) := by
  cases side <;> rfl

theorem volume_add (side : Side) : (p + q).volume side = p.volume side + q.volume side :=
  congrArg PriceStats.volume (side_zipSides side)

theorem volume_sub (side : Side) : (p - q).volume side = p.volume side + q.volume side :=
  congrArg PriceStats.volume (side_zipSides side)

theorem volume_scale (factor : Float) (side : Side) : (p.scale factor).volume side = p.volume side := by
  rw [scale, volume, side_mapSides]
  rfl

theorem volume_setPrice (price : Float) (side : Side) : (p.setPrice price).volume side = p.volume side := by
  rw [setPrice, volume, side_mapSides]
  rfl

theorem SameLabels.refl (p : Prices) : p.SameLabels p :=
  ⟨fun _ => rfl, rfl, rfl, rfl⟩

theorem SameLabels.trans (first : p.SameLabels q) (second : q.SameLabels r) : p.SameLabels r where
  orderCount side := (first.orderCount side).trans (second.orderCount side)
  updated := first.updated.trans second.updated
  strategy := first.strategy.trans second.strategy
  basis := first.basis.trans second.basis

theorem sameLabels_mapSides (kept : ∀ s, (f s).orderCount = s.orderCount) : (p.mapSides f).SameLabels p where
  orderCount side := (congrArg PriceStats.orderCount (side_mapSides side)).trans (kept _)
  updated := rfl
  strategy := rfl
  basis := rfl

theorem sameLabels_zipSides (kept : ∀ s t, (g s t).orderCount = s.orderCount) :
    (zipSides g p q).SameLabels p where
  orderCount side := (congrArg PriceStats.orderCount (side_zipSides side)).trans (kept _ _)
  updated := rfl
  strategy := rfl
  basis := rfl

theorem sameLabels_add : (p + q).SameLabels p :=
  sameLabels_zipSides (g := .add) fun _ _ => rfl

theorem sameLabels_sub : (p - q).SameLabels p :=
  sameLabels_zipSides (g := .sub) fun _ _ => rfl

theorem sameLabels_scale (factor : Float) : (p.scale factor).SameLabels p :=
  sameLabels_mapSides (f := (·.scale factor)) fun _ => rfl

theorem sameLabels_setPrice (price : Float) : (p.setPrice price).SameLabels p :=
  sameLabels_mapSides (f := (·.setPrice price)) fun _ => rfl

end

theorem totalVolume_append (prices more : List Prices) (side : Side) :
    totalVolume (prices ++ more) side = totalVolume prices side + totalVolume more side := by
  rw [totalVolume, List.map_append]
  exact Quantity.sum_append _ _

/-! ## Formulas -/

/-- A formula over prices. -/
inductive Formula where
  | leaf (p : Prices)
  | add (f g : Formula)
  | sub (f g : Formula)
  | scale (f : Formula) (factor : Float)
  | setPrice (f : Formula) (price : Float)

namespace Formula

/-- The prices that a formula stands for. -/
def value : Formula → Prices
  | leaf p => p
  | add f g => f.value + g.value
  | sub f g => f.value - g.value
  | scale f factor => f.value.scale factor
  | setPrice f price => f.value.setPrice price

/-- The prices that a formula combines, from left to right. -/
def leaves : Formula → List Prices
  | leaf p => [p]
  | add f g => f.leaves ++ g.leaves
  | sub f g => f.leaves ++ g.leaves
  | scale f _ => f.leaves
  | setPrice f _ => f.leaves

/-- The leftmost prices. -/
def first : Formula → Prices
  | leaf p => p
  | add f _ => f.first
  | sub f _ => f.first
  | scale f _ => f.first
  | setPrice f _ => f.first

/-- All formulas within a formula, itself included. -/
def parts : Formula → List Formula
  | leaf p => [leaf p]
  | add f g => add f g :: (f.parts ++ g.parts)
  | sub f g => sub f g :: (f.parts ++ g.parts)
  | scale f factor => scale f factor :: f.parts
  | setPrice f price => setPrice f price :: f.parts

/-- The volumes of a side can be added up in 64 bits: no sum on the way leaves the range. -/
def AddsUp (f : Formula) (side : Side) : Prop :=
  ∀ part ∈ f.parts, Quantity.InRange (part.value.volume side)

theorem head?_leaves (f : Formula) : f.leaves.head? = some f.first := by
  induction f with
  | leaf p => rfl
  | add f g ih _ => rw [leaves, List.head?_append, ih]; rfl
  | sub f g ih _ => rw [leaves, List.head?_append, ih]; rfl
  | scale f factor ih => exact ih
  | setPrice f price ih => exact ih

theorem volume_value (f : Formula) (side : Side) : f.value.volume side = totalVolume f.leaves side := by
  induction f with
  | leaf p => exact (Int.add_zero _).symm
  | add f g ih ih' => rw [value, volume_add, ih, ih', leaves, totalVolume_append]
  | sub f g ih ih' => rw [value, volume_sub, ih, ih', leaves, totalVolume_append]
  | scale f factor ih => rw [value, volume_scale, ih, leaves]
  | setPrice f price ih => rw [value, volume_setPrice, ih, leaves]

/-- What is added and taken away again was traded twice. -/
example : (value (.sub (.add (.leaf { all := { volume := 10 } }) (.leaf { all := { volume := 4 } }))
    (.leaf { all := { volume := 4 } }))).volume .all = 18 := by
  decide

theorem sameLabels_value (f : Formula) : f.value.SameLabels f.first := by
  induction f with
  | leaf p => exact .refl p
  | add f g ih _ => exact sameLabels_add.trans ih
  | sub f g ih _ => exact sameLabels_sub.trans ih
  | scale f factor ih => exact (sameLabels_scale factor).trans ih
  | setPrice f price ih => exact (sameLabels_setPrice price).trans ih

/-! ## Sums in the range -/

theorem self_mem_parts (f : Formula) : f ∈ f.parts := by
  cases f <;> exact List.mem_cons_self

theorem leaves_sublist {f part : Formula} (member : part ∈ f.parts) : part.leaves.Sublist f.leaves := by
  induction f with
  | leaf p =>
    rw [List.mem_singleton.1 member]
  | add f g ih ih' | sub f g ih ih' =>
    rcases List.mem_cons.1 member with rfl | inside
    · exact .refl _
    · rcases List.mem_append.1 inside with left | right
      · exact (ih left).trans (List.sublist_append_left _ _)
      · exact (ih' right).trans (List.sublist_append_right _ _)
  | scale f _ ih | setPrice f _ ih =>
    rcases List.mem_cons.1 member with rfl | inside
    · exact .refl _
    · exact ih inside

theorem addsUp_iff {f : Formula} {side : Side} (nonneg : ∀ p ∈ f.leaves, 0 ≤ p.volume side) :
    f.AddsUp side ↔ Quantity.InRange (totalVolume f.leaves side) := by
  constructor
  · intro adds
    rw [← volume_value]
    exact adds f f.self_mem_parts
  · -- The leaves outside a part only add to what was traded.
    rintro ⟨-, small⟩ part member
    have fewer := (leaves_sublist member).map (·.volume side)
    have whole : ∀ n ∈ f.leaves.map (·.volume side), 0 ≤ n := List.forall_mem_map.2 nonneg
    have positive : 0 ≤ totalVolume part.leaves side :=
      Quantity.sum_nonneg fun n inside => whole n (fewer.subset inside)
    have less : totalVolume part.leaves side ≤ totalVolume f.leaves side := fewer.sum_le_sum whole
    rw [volume_value]
    exact ⟨Int.le_trans (by decide) positive, less.trans small⟩

end Formula

end Prices

/-! ## Blueprint copies -/

namespace CopyValue

open Prices (Formula totalVolume)

/-- The prices that a market has for components. -/
def pricesOf (prices : PriceCatalog) (market : String) (components : List Component) : List Prices :=
  components.filterMap fun c => prices.price? market c.typeId

section

variable (prices : PriceCatalog) (market : String) (unit : Prices → Float)

/-- A formula with a component more, if the market has a price for it. -/
def withComponent (sum : Formula) (c : Component) : Formula :=
  match prices.price? market c.typeId with
  | some p => .add sum (.scale (.setPrice (.leaf p) (unit p)) (Float.ofInt c.quantity))
  | none => sum

/-- The sum over components of unit prices times quantities. -/
def sumFormula (components : List Component) : Formula :=
  components.foldl (withComponent prices market unit) (.leaf (.ofStrategy blueprintCopyStrategy))

theorem value_sumFormula (components : List Component) :
    (sumFormula prices market unit components).value = sumPrices prices market unit components := by
  refine (List.foldl_hom Formula.value fun sum c => ?_).symm
  rw [withComponent]
  cases prices.price? market c.typeId <;> rfl

theorem first_sumFormula (components : List Component) :
    (sumFormula prices market unit components).first = .ofStrategy blueprintCopyStrategy := by
  refine List.foldlRecOn (motive := fun sum : Formula => sum.first = .ofStrategy blueprintCopyStrategy)
    components _ rfl fun sum found c _ => ?_
  rw [withComponent]
  cases prices.price? market c.typeId <;> exact found

theorem leaves_sumFormula (components : List Component) :
    (sumFormula prices market unit components).leaves =
      .ofStrategy blueprintCopyStrategy :: pricesOf prices market components := by
  have onto (sum : Formula) : (components.foldl (withComponent prices market unit) sum).leaves =
      sum.leaves ++ pricesOf prices market components := by
    induction components generalizing sum with
    | nil => exact (List.append_nil _).symm
    | cons c components ih =>
      rw [List.foldl_cons, ih, withComponent, pricesOf, pricesOf, List.filterMap_cons]
      cases prices.price? market c.typeId with
      | none => rfl
      | some p => exact List.append_assoc sum.leaves [p] _
  exact onto _

end

variable (prices : PriceCatalog) (s : PricingSettings) (market : String) (product : TypeRecord)

/-- The products less a share of the materials, as often as there are runs. -/
def netFormula (runs : Int) : Formula :=
  let sales := sumFormula prices (productMarket s market) (·.sell.min) (productsOf product)
  let cost := sumFormula prices market (fun p => Decimal.least p.sell.min p.buy.max) product.components
  .scale (.sub sales (.scale cost s.productionEfficiency)) (Float.ofInt (max runs 1))

/-- All prices that the net value of a copy is made of: those of its products and of its materials. -/
def tradedPrices : List Prices :=
  pricesOf prices (productMarket s market) (productsOf product) ++ pricesOf prices market product.components

theorem map_net_ofItem? (types : TypeCatalog) (item : AppraisedItem) :
    (ofItem? types prices s market item).map net =
      (types.byName? (productName item.displayName)).map fun product =>
        (netFormula prices s market product item.details.copyRuns).value := by
  rw [ofItem?, Option.map_map]
  congr 1
  funext product
  simp only [netFormula, Formula.value, value_sumFormula]
  rfl

theorem totalVolume_leaves_netFormula (runs : Int) (side : Prices.Side) :
    totalVolume (netFormula prices s market product runs).leaves side =
      totalVolume (tradedPrices prices s market product) side := by
  have unpriced (rest : List Prices) : totalVolume (.ofStrategy blueprintCopyStrategy :: rest) side =
      totalVolume rest side := by
    have nothing : (Prices.ofStrategy blueprintCopyStrategy).volume side = 0 := by cases side <;> rfl
    rw [totalVolume, List.map_cons, List.foldr_cons, nothing, Int.zero_add, totalVolume]
  simp only [netFormula, Formula.leaves, leaves_sumFormula, Prices.totalVolume_append, tradedPrices, unpriced]

variable {prices s market}

theorem sameLabels_net {types : TypeCatalog} {item : AppraisedItem} {v : CopyValue}
    (valued : ofItem? types prices s market item = some v) :
    v.net.SameLabels (.ofStrategy blueprintCopyStrategy) := by
  have nets := map_net_ofItem? prices s market types item
  rw [valued] at nets
  obtain ⟨product, -, net⟩ := Option.map_eq_some_iff.1 nets.symm
  rw [← net, ← first_sumFormula prices (productMarket s market) (·.sell.min) (productsOf product)]
  exact Formula.sameLabels_value (netFormula prices s market product _)

end CopyValue

open CopyValue in
/-- The value of a formula over prices has on each side the volumes of all leaves, and the number of orders on
each side, the time, the strategy and the basis of the leftmost leaf; where no volume is negative, no sum of
volumes leaves the range if and only if that of all leaves does not. So a blueprint copy of a known product has
a net value, found in the way of blueprint copies, with the volumes of all prices that the markets have for its
products and its materials. -/
theorem volumes_and_labels_of_leaves :
    (∀ f : Prices.Formula,
      (∀ side, f.value.volume side = Prices.totalVolume f.leaves side ∧
        ((∀ p ∈ f.leaves, 0 ≤ p.volume side) →
          (f.AddsUp side ↔ Quantity.InRange (Prices.totalVolume f.leaves side)))) ∧
      f.leaves.head? = some f.first ∧ f.value.SameLabels f.first) ∧
    ∀ (types : TypeCatalog) (prices : PriceCatalog) (s : PricingSettings) (market : String)
      (item : AppraisedItem) (product : TypeRecord),
      types.byName? (productName item.displayName) = some product →
      ∃ v, ofItem? types prices s market item = some v ∧
        v.net.strategy = blueprintCopyStrategy ∧
        ∀ side, v.net.volume side = Prices.totalVolume (tradedPrices prices s market product) side := by
  constructor
  · intro f
    refine ⟨fun side => ⟨f.volume_value side, ?_⟩, f.head?_leaves, f.sameLabels_value⟩
    exact Prices.Formula.addsUp_iff
  · intro types prices s market item product found
    have nets := map_net_ofItem? prices s market types item
    rw [found, Option.map_some] at nets
    obtain ⟨v, valued, net⟩ := Option.map_eq_some_iff.1 nets
    refine ⟨v, valued, (sameLabels_net valued).strategy, fun side => ?_⟩
    rw [net, Prices.Formula.volume_value, totalVolume_leaves_netFormula]

/-! ## A copy of a ship -/

namespace ShipCopy

def ship : TypeRecord := { id := 587, name := "Rifter", components := [⟨34, 32000⟩, ⟨35, 6000⟩] }

def types : TypeCatalog := .ofEntries [.ofRecord ship] (by decide)

/-- The ship is traded in a hub and everywhere, one of its materials everywhere, the other one nowhere. -/
def prices : PriceCatalog where
  markets :=
    [("jita", [(587, { sell := { min := 400000, volume := 10, orderCount := 7 }, strategy := "market" })]),
      ("universe", [(587, { sell := { min := 1, volume := 90 } }),
        (34, { buy := { max := 4, volume := 700 }, sell := { min := 5, volume := 500 } })])]

/-- A copy of five runs. -/
def copy : AppraisedItem :=
  { name := "Rifter Blueprint", details := { blueprintCopy := true, copyRuns := 5 } }

end ShipCopy

open ShipCopy CopyValue in
theorem volumes_and_labels_of_ship_copy :
    let net := netFormula prices {} "universe" ship 5
    (∀ p ∈ net.leaves, 0 ≤ p.volume .sell) ∧ net.AddsUp .sell ∧
    types.byName? (productName copy.displayName) = some ship ∧
    ∃ v, ofItem? types prices {} "universe" copy = some v ∧ v.net.strategy = "bpc" ∧
      v.net.volume .buy = 700 ∧ v.net.volume .sell = 510 := by
  intro net
  obtain ⟨formulas, copies⟩ := volumes_and_labels_of_leaves
  have nonneg : ∀ p ∈ net.leaves, 0 ≤ p.volume .sell := by decide +kernel
  have small : Quantity.InRange (Prices.totalVolume net.leaves .sell) := by decide +kernel
  have adds : net.AddsUp .sell := (((formulas net).1 .sell).2 nonneg).2 small
  have known : types.byName? (productName copy.displayName) = some ship := by
    rw [TypeCatalog.byName?_eq_find?]
    decide +kernel
  obtain ⟨v, valued, strategy, volumes⟩ := copies types prices {} "universe" copy ship known
  refine ⟨nonneg, adds, known, v, valued, strategy, ?_, ?_⟩
  · rw [volumes]
    decide +kernel
  · rw [volumes]
    decide +kernel

end ItemAppraisal
