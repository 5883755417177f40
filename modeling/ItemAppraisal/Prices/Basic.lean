import ItemAppraisal.Decimal.Fixed
import ItemAppraisal.Timestamp

/-!
# Prices

Price statistics of one type in one market, and their arithmetic. Baskets add prices, quantities and
bonuses scale them, and a blueprint copy is worth a difference. Traded volumes are no prices: they add
up in sums and differences alike. What describes the market, such as the number of orders, is taken from
the left side.
-/

namespace ItemAppraisal

/-- Statistics of one side of a market. -/
structure PriceStats where
  average : Float := 0
  max : Float := 0
  median : Float := 0
  min : Float := 0
  percentile : Float := 0
  stddev : Float := 0
  volume : Int := 0
  orderCount : Int := 0
  deriving DecidableEq, Inhabited

namespace PriceStats

/-- One number for every price figure; spread and volume stay. -/
def setPrice (s : PriceStats) (price : Float) : PriceStats :=
  { s with average := price, max := price, median := price, min := price, percentile := price }

/-- The sum of all figures and of the traded volumes. -/
def add (s t : PriceStats) : PriceStats :=
  { s with
    average := s.average + t.average
    max := s.max + t.max
    median := s.median + t.median
    min := s.min + t.min
    percentile := s.percentile + t.percentile
    stddev := s.stddev + t.stddev
    volume := s.volume + t.volume }

/-- The difference of all figures; the traded volumes add up. -/
def sub (s t : PriceStats) : PriceStats :=
  { s with
    average := s.average - t.average
    max := s.max - t.max
    median := s.median - t.median
    min := s.min - t.min
    percentile := s.percentile - t.percentile
    stddev := s.stddev - t.stddev
    volume := s.volume + t.volume }

/-- Every figure times a factor; the volume stays. -/
def scale (s : PriceStats) (factor : Float) : PriceStats :=
  { s with
    average := s.average * factor
    max := s.max * factor
    median := s.median * factor
    min := s.min * factor
    percentile := s.percentile * factor
    stddev := s.stddev * factor }

end PriceStats

/-- Price statistics of one type in one market. -/
structure Prices where
  all : PriceStats := {}
  buy : PriceStats := {}
  sell : PriceStats := {}
  updated : Timestamp := Timestamp.epoch
  /-- How the prices were found. -/
  strategy : String := ""
  /-- What they were derived from, empty if they were not. -/
  basis : String := ""
  deriving DecidableEq, Inhabited

namespace Prices

/-- No prices, with the name of the way in which none were found. -/
def ofStrategy (strategy : String) : Prices :=
  { strategy }

/-- The same function on every side. -/
def mapSides (f : PriceStats → PriceStats) (p : Prices) : Prices :=
  { p with all := f p.all, buy := f p.buy, sell := f p.sell }

/-- The same function on every pair of sides. -/
def zipSides (f : PriceStats → PriceStats → PriceStats) (p q : Prices) : Prices :=
  { p with all := f p.all q.all, buy := f p.buy q.buy, sell := f p.sell q.sell }

/-- One price on every side. -/
def setPrice (p : Prices) (price : Float) : Prices :=
  p.mapSides (·.setPrice price)

instance : Add Prices := ⟨zipSides PriceStats.add⟩

instance : Sub Prices := ⟨zipSides PriceStats.sub⟩

/-- Prices times a factor. -/
def scale (p : Prices) (factor : Float) : Prices :=
  p.mapSides (·.scale factor)

/-- Whether no side carries a price. -/
def isZero (p : Prices) : Bool :=
  p.buy.max == 0 && p.sell.min == 0 && p.all.average == 0

/-- The best prices in one line. -/
def display (p : Prices) : String :=
  "Sell = " ++ Decimal.fixed 2 p.sell.min ++ " ISK, Buy = " ++ Decimal.fixed 2 p.buy.max ++
    " ISK (Updated " ++ p.updated.display ++ ") (Using " ++ p.strategy ++ ")"

end Prices

end ItemAppraisal
