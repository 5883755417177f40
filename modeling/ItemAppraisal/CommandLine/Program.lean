import ItemAppraisal.Appraisal.Appraiser
import ItemAppraisal.CommandLine.AppraisalTable
import ItemAppraisal.CommandLine.Loading
import ItemAppraisal.CommandLine.Request
import ItemAppraisal.CommandLine.TypeSheet

/-!
# The program

From the words of a command line to what is printed. All that the program needs from outside comes from
its host, so that the same program runs on files in memory.
-/

namespace ItemAppraisal.CommandLine

/-- The name and the version of the program. -/
def versionLine : String := "appraisal-engine 0.1.0"

/-- What is printed when no command is given. -/
def overview : List String :=
  ["Appraisal Engine - price pasted game item text",
    "==============================================",
    "",
    "Recognises inventory lists, contracts, fittings, kill reports, scans and",
    "other copied text, prices every item and computes a buyback valuation.",
    "",
    "USAGE:",
    "    appraisal-engine <COMMAND> [OPTIONS]",
    "",
    "COMMANDS:",
    "    appraise    Appraise text from a file or standard input",
    "    type        Show a type's data, price and buyback eligibility",
    "    help        Show this help message or help for specific commands",
    "",
    "EXAMPLES:",
    "    # Appraise a copied inventory in Jita:",
    "    appraisal-engine appraise --input cargo.txt",
    "",
    "    # Pipe text in and get JSON with ineligible items rejected:",
    "    pbpaste | appraisal-engine appraise --format json --reject-ineligible",
    "",
    "    # Inspect a type:",
    "    appraisal-engine type \"Scordite\"",
    "",
    "Catalogs are read from types.json and prices.json in the user data",
    "directory (appraisal-engine/) unless --data-dir is given."]

/-! ## Failures -/

/-- Why a request could not be answered. -/
inductive Failure where
  | program (error : Error)
  | settings (failure : LoadFailure)
  | noDataDirectory (path : String)
  | types (path : String) (failure : LoadFailure)
  | prices (path : String) (failure : LoadFailure)
  | inputFile (path : String) (cause : ReadFailure)
  | standardInput (cause : ReadFailure)
  /-- A type that is not known, with the names of types that are like it. -/
  | unknownType (name : String) (similar : List String)
  deriving DecidableEq

namespace Failure

/-- The text of a failure. -/
def message : Failure → String
  | program error => error.message
  | settings failure => "Failed to load configuration: " ++ failure.message
  | noDataDirectory path =>
    "Data directory not found: " ++ path ++
      "\nIt must contain types.json and prices.json; pass --data-dir to use another location."
  | types path failure => "Failed to load type catalog from " ++ path ++ ": " ++ failure.message
  | prices path failure => "Failed to load price catalog from " ++ path ++ ": " ++ failure.message
  | inputFile path cause => "Failed to read input file " ++ path ++ ": " ++ cause.message
  | standardInput cause => "Failed to read standard input: " ++ cause.message
  | unknownType name _ => (Error.typeNotFound name).message

/-- The greatest number of similar names that are shown. -/
def mostSuggestions : Nat := 10

/-- The lines that report a failure. -/
def lines (f : Failure) : List String :=
  (match f with
    | unknownType _ (name :: names) =>
      "Did you mean:" :: ((name :: names).take mostSuggestions).map ("  " ++ ·)
    | _ => []) ++ ["Error: " ++ f.message]

end Failure

/-! ## Answers -/

section Answers
variable {m : Type → Type} [Monad m]

/-- What is printed for a request, unless it fails. -/
abbrev Answer (m : Type → Type) := ExceptT Failure m

/-- An action of the host that may fail, with its failure as one of the program. -/
def attempt {ε α : Type} (toFailure : ε → Failure) (action : m (Except ε α)) : Answer m α :=
  ExceptT.mk (action >>= fun result => pure (result.mapError toFailure))

/-- An action of the host that cannot fail. -/
def ask {α : Type} (action : m α) : Answer m α :=
  ExceptT.lift action

/-- Fails with what is wrong, if anything is. -/
def require (problem : Option ConfigurationError) : Answer m Unit :=
  match problem with
  | some cause => throw (.program (.configuration cause))
  | none => pure ()

/-- The directory of the catalogs: the one that is named, or else that of the user. -/
def findDataDirectory (host : Host m) (named : Option String) : Answer m String := do
  let path := named.getD (joinPath host.dataHome "appraisal-engine")
  if (← ask (host.node path)).isDirectory then return path
  else throw (.noDataDirectory path)

/-- The catalogs of a directory. -/
def loadCatalogs (host : Host m) (directory : String) : Answer m (TypeCatalog × PriceCatalog) := do
  let types ← attempt (.types (typesPath directory)) (loadTypes host directory)
  let prices ← attempt (.prices (pricesPath directory)) (loadPrices host directory)
  return (types, prices)

/-- The text that is to be appraised. -/
def readInput (host : Host m) (r : AppraiseRequest) : Answer m String :=
  match r.inputFile? with
  | some path => attempt (.inputFile path) (Node.read <$> host.node path)
  | none => attempt .standardInput host.standardInput

/-- Whether the input file of a request is there; there is nothing to miss if it names none. -/
def inputExists (host : Host m) (r : AppraiseRequest) : m Bool :=
  match r.inputFile? with
  | some path => Node.isPresent <$> host.node path
  | none => pure true

/-- The answer to a request to appraise a text. -/
def answerAppraise (host : Host m) (r : AppraiseRequest) : Answer m String := do
  require (r.problem? (← ask (inputExists host r)))
  let settings ← attempt .settings (loadSettings host r.settingsFile)
  let settings := r.override settings
  require settings.problem?
  let directory ← findDataDirectory host r.dataDirectory
  let (types, prices) ← loadCatalogs host directory
  let raw ← readInput host r
  let appraiser : Appraiser := { settings, types, prices }
  match appraiser.appraise r.market raw with
  | .error e => throw (.program e)
  | .ok value =>
    let appraisal := { value with id := ← ask host.newId, created := ← ask host.now }
    match r.format with
    | .json => return appraisal.toJson.pretty ++ "\n"
    | .table => return unlines (appraisalLines r.showBaskets appraisal)

/-- The answer to a request to show a type. -/
def answerType (host : Host m) (r : TypeRequest) : Answer m String := do
  let settings ← attempt .settings (loadSettings host r.settingsFile)
  let directory ← findDataDirectory host r.dataDirectory
  let (types, prices) ← loadCatalogs host directory
  match types.byName? r.name with
  | some record => return unlines (typeLines types prices settings.buyback r.market record)
  | none => throw (.unknownType r.name ((types.search r.name).map (·.name)))

end Answers

/-! ## Running -/

/-- What a run of the program leaves behind. -/
structure Outcome where
  status : Nat
  output : String := ""
  errors : String := ""
  deriving DecidableEq, Repr

namespace Outcome

/-- The outcome of an answer or a failure. -/
def ofAnswer : Except Failure String → Outcome
  | .ok output => { status := 0, output }
  | .error f => { status := 1, errors := unlines f.lines }

/-- The text of an error in the command line. -/
def usageText : UsageError → String
  | .unknownArgument => "unexpected argument"
  | .unknownCommand => "unrecognized command"
  | .invalidValue => "missing or unsuitable value"
  | .notANumber => "value is not a number"
  | .missingArgument => "missing argument"
  | .conflict => "conflicting arguments"
  | .surplusValue => "unexpected value"
  | .help => "help requested"
  | .version => "version requested"

/-- The outcome of a command line that is no request. Help and the version are printed, all else is an
error. -/
def ofUsageError : UsageError → Outcome
  | .help => { status := 0, output := unlines overview }
  | .version => { status := 0, output := unlines [versionLine] }
  | e => { status := 2, errors := unlines ["error: " ++ usageText e, "", "For more, try --help."] }

end Outcome

/-- Runs the program on the words of a command line. -/
def run {m : Type → Type} [Monad m] (host : Host m) (words : List String) : m Outcome :=
  match Request.ofWords? words with
  | .error e => pure (.ofUsageError e)
  | .ok none => pure { status := 0, output := unlines overview }
  | .ok (some (.appraise r)) => Outcome.ofAnswer <$> (answerAppraise host r).run
  | .ok (some (.type r)) => Outcome.ofAnswer <$> (answerType host r).run

end ItemAppraisal.CommandLine
