import ItemAppraisal.Prices.Basic
import ItemAppraisal.Json.Decode

/-!
# Prices as documents

The JSON form of prices. Every field may be missing and then has its default value; an empty basis is not
written.
-/

namespace ItemAppraisal

namespace Timestamp

/-- A point in time as a text. -/
def toJson (t : Timestamp) : Json :=
  .string t.documentText

/-- Reads a point in time from a text. -/
def ofJson? (j : Json) : Option Timestamp :=
  j.string?.bind read?

end Timestamp

namespace PriceStats

/-- The names of the fields in their order. -/
def fieldNames : List String :=
  ["avg", "max", "median", "min", "percentile", "stddev", "volume", "order_count"]

/-- The statistics as an object. -/
def toJson (s : PriceStats) : Json :=
  .ofFields [("avg", .float s.average), ("max", .float s.max), ("median", .float s.median),
    ("min", .float s.min), ("percentile", .float s.percentile), ("stddev", .float s.stddev),
    ("volume", .int s.volume), ("order_count", .int s.orderCount)]

/-- Reads statistics. -/
def ofJson? (j : Json) : Option PriceStats := do
  let fs ← j.record? fieldNames
  let average ← fs.fieldOr? Json.float? 0 "avg"
  let max ← fs.fieldOr? Json.float? 0 "max"
  let median ← fs.fieldOr? Json.float? 0 "median"
  let min ← fs.fieldOr? Json.float? 0 "min"
  let percentile ← fs.fieldOr? Json.float? 0 "percentile"
  let stddev ← fs.fieldOr? Json.float? 0 "stddev"
  let volume ← fs.fieldOr? Json.int? 0 "volume"
  let orderCount ← fs.fieldOr? Json.int? 0 "order_count"
  return { average, max, median, min, percentile, stddev, volume, orderCount }

end PriceStats

namespace Prices

/-- The names of the fields in their order. -/
def fieldNames : List String :=
  ["all", "buy", "sell", "updated", "strategy", "basis"]

/-- The fields that are written. -/
def fields (p : Prices) : List (String × Json) :=
  [("all", p.all.toJson), ("buy", p.buy.toJson), ("sell", p.sell.toJson),
    ("updated", p.updated.toJson), ("strategy", .string p.strategy)] ++ Json.textField "basis" p.basis

/-- The prices as an object. -/
def toJson (p : Prices) : Json :=
  .ofFields p.fields

/-- Reads prices. -/
def ofJson? (j : Json) : Option Prices := do
  let fs ← j.record? fieldNames
  let all ← fs.fieldOr? PriceStats.ofJson? {} "all"
  let buy ← fs.fieldOr? PriceStats.ofJson? {} "buy"
  let sell ← fs.fieldOr? PriceStats.ofJson? {} "sell"
  let updated ← fs.fieldOr? Timestamp.ofJson? Timestamp.epoch "updated"
  let strategy ← fs.fieldOr? Json.string? "" "strategy"
  let basis ← fs.fieldOr? Json.string? "" "basis"
  return { all, buy, sell, updated, strategy, basis }

end Prices

end ItemAppraisal
