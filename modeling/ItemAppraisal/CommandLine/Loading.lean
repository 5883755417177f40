import ItemAppraisal.CommandLine.Files
import ItemAppraisal.Json.Parser
import ItemAppraisal.Markets.Catalog
import ItemAppraisal.Settings
import ItemAppraisal.Types.Catalog

/-!
# Loading

Settings and catalogs out of files. Settings are checked before they are used; a catalog file has to be
there.
-/

namespace ItemAppraisal.CommandLine

/-- A failure to load a file, with what kept it from being read. -/
structure LoadFailure where
  error : Error
  cause : Option ReadFailure := none
  deriving DecidableEq

/-- The text of a failure and its cause. -/
def LoadFailure.message (f : LoadFailure) : String :=
  f.error.message ++ f.cause.elim "" fun cause => ": " ++ cause.message

/-- The text of a file of the program. -/
def readSource (source : Source) (node : Node) : Except LoadFailure String :=
  match node.read with
  | .ok text => .ok text
  | .error cause => .error ⟨.unreadable source, some cause⟩

/-- What a file of the program holds. -/
def decodeSource {α : Type} (source : Source) (decode : String → Option α) (text : String) :
    Except LoadFailure α :=
  match decode text with
  | some a => .ok a
  | none => .error ⟨.malformed source, none⟩

/-! ## Settings -/

/-- The settings in a file, if they can be used. -/
def readSettings (path : String) (node : Node) : Except LoadFailure Settings := do
  let text ← readSource (.settings path) node
  let settings ← decodeSource (.settings path) (fun text => (Json.parse text).bind Settings.ofJson?) text
  match settings.problem? with
  | some cause => .error ⟨.configuration cause, none⟩
  | none => .ok settings

/-- The path of the settings of the user. -/
def userSettingsPath {m : Type → Type} (host : Host m) : String :=
  joinPath (joinPath host.settingsHome "appraisal-engine") "config.json"

/-- The settings of a file that is named, or else those of the user, or else the defaults. -/
def loadSettings {m : Type → Type} [Monad m] (host : Host m) (file : Option String) :
    m (Except LoadFailure Settings) := do
  match file with
  | some path => return readSettings path (← host.node path)
  | none =>
    let path := userSettingsPath host
    let node ← host.node path
    return if node.isPresent then readSettings path node else .ok {}

/-! ## Catalogs -/

/-- The catalog in a file. -/
def readCatalog {α : Type} (source : Source) (decode : String → Option (α × LoadSummary))
    (node : Node) : Except LoadFailure α :=
  if node.isPresent then do
    let text ← readSource source node
    return (← decodeSource source decode text).1
  else .error ⟨.missing source, none⟩

/-- The path of the catalog of types in a directory. -/
def typesPath (directory : String) : String :=
  joinPath directory "types.json"

/-- The path of the catalog of prices in a directory. -/
def pricesPath (directory : String) : String :=
  joinPath directory "prices.json"

/-- The catalog of types in a directory. -/
def loadTypes {m : Type → Type} [Monad m] (host : Host m) (directory : String) :
    m (Except LoadFailure TypeCatalog) := do
  let path := typesPath directory
  return readCatalog (.types path) TypeCatalog.ofText? (← host.node path)

/-- The catalog of prices in a directory. -/
def loadPrices {m : Type → Type} [Monad m] (host : Host m) (directory : String) :
    m (Except LoadFailure PriceCatalog) := do
  let path := pricesPath directory
  return readCatalog (.prices path) PriceCatalog.ofText? (← host.node path)

end ItemAppraisal.CommandLine
