import ItemAppraisal.Json.Parser
import ItemAppraisal.LoadSummary
import ItemAppraisal.Prices.Document
import ItemAppraisal.Table
import ItemAppraisal.Text.Blank
import ItemAppraisal.Text.Case

/-!
# The catalog of prices

Prices of types by market. Market names are compared in small letters.
-/

namespace ItemAppraisal

/-- The prices of each market by type id, under the name of the market in small letters. -/
structure PriceCatalog where
  markets : Table String (Table Int Prices) := []

namespace PriceCatalog

/-- The prices of a market. -/
def market? (c : PriceCatalog) (market : String) : Option (Table Int Prices) :=
  c.markets.get? (Text.lowercase market)

/-- The price of a type in a market. -/
def price? (c : PriceCatalog) (market : String) (typeId : Int) : Option Prices :=
  (c.market? market).bind (·.get? typeId)

/-- The price of a type in a market, or the failure to find one. -/
def require (c : PriceCatalog) (market : String) (typeId : Int) : Except Error Prices :=
  match c.price? market typeId with
  | some p => .ok p
  | none => .error (.priceNotFound market typeId)

/-- Whether there are prices for a market. -/
def hasMarket (c : PriceCatalog) (market : String) : Bool :=
  (c.market? market).isSome

/-- The names of the markets in order. -/
def marketNames (c : PriceCatalog) : List String :=
  c.markets.keys.mergeSort fun a b => !(b < a)

/-- The number of prices in all markets. -/
def size (c : PriceCatalog) : Nat :=
  (c.markets.map fun m => m.2.length).foldr (· + ·) 0

/-- Sets the price of a type in a market. -/
def insert (c : PriceCatalog) (market : String) (typeId : Int) (p : Prices) : PriceCatalog :=
  let prices := (c.market? market).getD []
  ⟨c.markets.insert (Text.lowercase market) (prices.insert typeId p)⟩

/-! ## Loading -/

/-- Enters the prices that a file lists for one market. A blank market name and an id that is not
positive are skipped. -/
def loadMarket (state : PriceCatalog × LoadSummary) (listed : String × Table Int Prices) :
    PriceCatalog × LoadSummary :=
  let (catalog, summary) := state
  let (name, prices) := listed
  let market := Text.trim name
  let summary := { summary with found := summary.found + prices.length }
  if market.isEmpty then
    (catalog, { summary with
      invalid := summary.invalid + prices.length
      notices := summary.notices ++ [.namelessMarket] })
  else
    let valid := prices.filter (0 < ·.1)
    (valid.foldl (fun c (id, p) => c.insert market id p) catalog,
      { summary with
        loaded := summary.loaded + valid.length
        invalid := summary.invalid + (prices.length - valid.length) })

/-- The catalog of the prices that a file lists by market, with what became of them. -/
def load (listed : Table String (Table Int Prices)) : PriceCatalog × LoadSummary :=
  listed.foldl loadMarket ({}, {})

/-- The catalog of a document: prices by type id by market. -/
def ofJson? (j : Json) : Option (PriceCatalog × LoadSummary) :=
  (j.map? (some ·.text) (Json.map? Json.intKey? Prices.ofJson?)).map load

/-- The catalog of the text of a document. -/
def ofText? (text : String) : Option (PriceCatalog × LoadSummary) :=
  (Json.parse text).bind ofJson?

end PriceCatalog

end ItemAppraisal
