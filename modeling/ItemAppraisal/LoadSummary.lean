import ItemAppraisal.Error

/-!
# Summaries of loading

How many records of a catalog file were found, kept and skipped, and what was wrong with them.
-/

namespace ItemAppraisal

/-- Something noticed while a catalog was loaded. -/
inductive LoadNotice where
  /-- A second record with the id of a kept one. -/
  | duplicateType (id : Int)
  /-- Prices under a blank market name. -/
  | namelessMarket
  deriving DecidableEq, Repr

/-- The text of a notice. -/
def LoadNotice.message : LoadNotice → String
  | duplicateType id => "Duplicate type id " ++ Json.integerText id
  | namelessMarket => "Prices listed under an empty market name"

/-- What became of the records of a catalog file. -/
structure LoadSummary where
  found : Nat := 0
  loaded : Nat := 0
  duplicates : Nat := 0
  invalid : Nat := 0
  notices : List LoadNotice := []
  deriving DecidableEq, Repr

namespace LoadSummary

/-- The share of skipped records in percent, zero if there were none. -/
def skipRate (s : LoadSummary) : Float :=
  if s.found = 0 then 0
  else Float.ofNat (s.duplicates + s.invalid) / Float.ofNat s.found * 100

/-- The summary in one line. -/
def display (s : LoadSummary) : String :=
  "Found " ++ countText s.found ++ " records, loaded " ++ countText s.loaded ++ " (" ++
    Decimal.fixed 1 s.skipRate ++ "% skipped)"

end LoadSummary

end ItemAppraisal
