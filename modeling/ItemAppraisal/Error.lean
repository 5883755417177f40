import ItemAppraisal.Decimal.Shortest
import ItemAppraisal.Json.Printer

/-!
# What can go wrong

The causes for which an appraisal, a look-up or the loading of a file fails, and their texts.
-/

namespace ItemAppraisal

/-- A number as it stands in a text. -/
def countText (n : Nat) : String :=
  String.ofList (Decimal.digits n)

/-- A setting or a request that cannot be used. -/
inductive ConfigurationError where
  /-- A rate outside `(0, 100]`, with the name under which it was given. -/
  | rate (name : String) (value : Float)
  | negativeBaseAdjustment (value : Float)
  | noDepth
  | blankBuybackMarket
  | productionEfficiency (value : Float)
  | noInputAllowed
  | blankInput
  | longInput (bytes limit : Nat)
  | blankMarket
  | blankMarketOption
  | missingInputFile (path : String)
  deriving DecidableEq

/-- The text of a configuration error. -/
def ConfigurationError.message : ConfigurationError → String
  | rate name value => name ++ " must be in (0, 100], got " ++ Decimal.display value
  | negativeBaseAdjustment value =>
    "base_adjustment must not be negative, got " ++ Decimal.display value
  | noDepth => "max_depth must be at least 1"
  | blankBuybackMarket => "buyback market must not be empty"
  | productionEfficiency value =>
    "production_efficiency must be in (0, 1], got " ++ Decimal.display value
  | noInputAllowed => "max_input_bytes must be positive"
  | blankInput => "Input is empty"
  | longInput bytes limit =>
    "Input is " ++ countText bytes ++ " bytes, limit is " ++ countText limit
  | blankMarket => "Market name is empty"
  | blankMarketOption => "--market must not be empty"
  | missingInputFile path => "Input file does not exist: " ++ path

/-- A file that the program reads. -/
inductive Source where
  | settings (path : String)
  | types (path : String)
  | prices (path : String)
  deriving DecidableEq

/-- A failure of the program. -/
inductive Error where
  /-- No line with text was recognised; `unparsed` lines hold text. -/
  | noValidInput (unparsed : Nat)
  | typeNotFound (name : String)
  | priceNotFound (market : String) (typeId : Int)
  /-- A file could not be read. -/
  | unreadable (source : Source)
  /-- The text of a file is no document of its kind. -/
  | malformed (source : Source)
  /-- A catalog file is not there. -/
  | missing (source : Source)
  | configuration (cause : ConfigurationError)
  deriving DecidableEq

/-- The text of a failure to read a file. -/
def Source.unreadableText : Source → String
  | settings path => "Failed to read config file " ++ path
  | types path => "Failed to read type catalog " ++ path
  | prices path => "Failed to read price catalog " ++ path

/-- The text of a file that is no document of its kind. -/
def Source.malformedText : Source → String
  | settings path => "Invalid config file " ++ path
  | types _ => "Invalid type catalog JSON"
  | prices _ => "Invalid price catalog JSON"

/-- The text of a file that is not there. -/
def Source.missingText : Source → String
  | settings path => "Config file does not exist: " ++ path
  | types path => "Type catalog file does not exist: " ++ path
  | prices path => "Price catalog file does not exist: " ++ path

/-- The text of a failure. -/
def Error.message : Error → String
  | noValidInput unparsed => "No valid lines found (" ++ countText unparsed ++ " unparsed lines)"
  | typeNotFound name => "Type not found: " ++ name
  | priceNotFound market typeId =>
    "No price for type " ++ Json.integerText typeId ++ " in market '" ++ market ++ "'"
  | unreadable source => "I/O error: " ++ source.unreadableText
  | malformed source => "Serialization error: " ++ source.malformedText
  | missing source => "Catalog error: " ++ source.missingText
  | configuration cause => "Configuration error: " ++ cause.message

end ItemAppraisal
