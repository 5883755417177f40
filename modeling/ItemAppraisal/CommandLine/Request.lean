import ItemAppraisal.CommandLine.Token
import ItemAppraisal.Error
import ItemAppraisal.Settings

/-!
# Requests

What a command line asks for: to appraise a text, to show a type, or nothing in particular.
-/

namespace ItemAppraisal.CommandLine

/-- How much is reported while the program runs. -/
inductive LogLevel where
  | error
  | warn
  | info
  | debug
  | trace
  deriving DecidableEq, Repr

namespace LogLevel

/-- The name of a level. -/
def name : LogLevel → String
  | error => "error"
  | warn => "warn"
  | info => "info"
  | debug => "debug"
  | trace => "trace"

/-- The level after a number of requests for more. -/
def ofVerbosity : Nat → LogLevel
  | 0 => warn
  | 1 => info
  | 2 => debug
  | _ => trace

end LogLevel

/-- The form in which an appraisal is printed. -/
inductive OutputFormat where
  | table
  | json
  deriving DecidableEq, Repr

/-- The word for a form. -/
def OutputFormat.name : OutputFormat → String
  | table => "table"
  | json => "json"

/-- The form of a word. -/
def OutputFormat.ofName (name : String) : OutputFormat :=
  if name = json.name then json else table

/-- The market of a request that names none. -/
def defaultMarket : String := "jita"

/-- A request to appraise a text. -/
structure AppraiseRequest where
  /-- The file with the text; standard input if there is none or if it is a dash. -/
  input : Option String := none
  market : String := defaultMarket
  dataDirectory : Option String := none
  settingsFile : Option String := none
  format : OutputFormat := .table
  buybackMarket : Option String := none
  refineRate : Option Float := none
  reprocessRate : Option Float := none
  rejectIneligible : Bool := false
  valueBlueprintCopies : Bool := false
  showBaskets : Bool := false
  verbosity : Nat := 0
  quiet : Bool := false

/-- A request to show a type. -/
structure TypeRequest where
  name : String
  market : String := defaultMarket
  dataDirectory : Option String := none
  settingsFile : Option String := none
  verbosity : Nat := 0

/-- A request with a command. -/
inductive Request where
  | appraise (r : AppraiseRequest)
  | type (r : TypeRequest)

/-! ## The options -/

/-- The option that shows help. -/
def helpOption : OptionRule := ⟨"help", some 'h', .help⟩

/-- The options that both commands have. -/
def sharedOptions : List OptionRule :=
  [⟨"market", some 'm', .value .text⟩, ⟨"data-dir", some 'd', .value .path⟩,
    ⟨"config", some 'c', .value .path⟩, ⟨"verbose", some 'v', .counter⟩, helpOption]

/-- The grammar of the command that appraises. -/
def appraiseGrammar : Grammar where
  options := sharedOptions ++
    [⟨"input", some 'i', .value .path⟩,
      ⟨"format", some 'f', .value (.choice [OutputFormat.table.name, OutputFormat.json.name])⟩,
      ⟨"buyback-market", none, .value .text⟩, ⟨"refine-rate", none, .value .number⟩,
      ⟨"reprocess-rate", none, .value .number⟩, ⟨"reject-ineligible", none, .flag⟩,
      ⟨"value-bpc", none, .flag⟩, ⟨"show-baskets", none, .flag⟩, ⟨"quiet", some 'q', .flag⟩]

/-- The grammar of the command that shows a type. -/
def typeGrammar : Grammar where
  options := sharedOptions
  positions := 1

/-- The grammar of what stands in front of a command. -/
def frontGrammar : Grammar where
  options := [helpOption, ⟨"version", some 'V', .version⟩]

namespace AppraiseRequest

/-- The request of options. -/
def ofGiven (given : Given) : Except UsageError AppraiseRequest :=
  if given.has "quiet" && given.has "verbose" then .error .conflict
  else .ok
    { input := given.value? "input"
      market := (given.value? "market").getD defaultMarket
      dataDirectory := given.value? "data-dir"
      settingsFile := given.value? "config"
      format := .ofName ((given.value? "format").getD OutputFormat.table.name)
      buybackMarket := given.value? "buyback-market"
      refineRate := given.number? "refine-rate"
      reprocessRate := given.number? "reprocess-rate"
      rejectIneligible := given.has "reject-ineligible"
      valueBlueprintCopies := given.has "value-bpc"
      showBaskets := given.has "show-baskets"
      verbosity := given.count "verbose"
      quiet := given.has "quiet" }

/-- How much is reported. -/
def logLevel (r : AppraiseRequest) : LogLevel :=
  if r.quiet then .error else .ofVerbosity r.verbosity

/-- The file with the text, `none` if it comes from standard input. -/
def inputFile? (r : AppraiseRequest) : Option String :=
  r.input.filter (· != "-")

/-- A rate that is given and is none. -/
def rateProblem? (name : String) (rate : Option Float) : Option ConfigurationError :=
  rate.bind fun x => if isRate 100 x then none else some (.rate name x)

/-- What is wrong with a request, where `inputExists` says whether its input file is there. -/
def problem? (r : AppraiseRequest) (inputExists : Bool) : Option ConfigurationError :=
  if Text.isBlankText r.market then some .blankMarketOption
  else (rateProblem? "--refine-rate" r.refineRate).or <|
    (rateProblem? "--reprocess-rate" r.reprocessRate).or <|
    r.inputFile?.bind fun path => if inputExists then none else some (.missingInputFile path)

/-- Settings with what the request says instead. -/
def override (r : AppraiseRequest) (s : Settings) : Settings :=
  { s with
    pricing := { s.pricing with
      valueBlueprintCopies := s.pricing.valueBlueprintCopies || r.valueBlueprintCopies }
    buyback := { s.buyback with
      market := r.buybackMarket.getD s.buyback.market
      refineRate := r.refineRate.getD s.buyback.refineRate
      reprocessRate := r.reprocessRate.getD s.buyback.reprocessRate
      rejectIneligible := s.buyback.rejectIneligible || r.rejectIneligible } }

end AppraiseRequest

namespace TypeRequest

/-- The request of options and a name. -/
def ofGiven (given : Given) : Except UsageError TypeRequest :=
  match given.positionals with
  | [] => .error .missingArgument
  | name :: _ => .ok
    { name
      market := (given.value? "market").getD defaultMarket
      dataDirectory := given.value? "data-dir"
      settingsFile := given.value? "config"
      verbosity := given.count "verbose" }

/-- How much is reported. -/
def logLevel (r : TypeRequest) : LogLevel :=
  .ofVerbosity r.verbosity

end TypeRequest

namespace Request

/-- The names of the commands. -/
def commands : List String := ["appraise", "type", "help"]

/-- What is wrong with the words after a request for help: they may name one command. -/
def helpError : List String → UsageError
  | [] => .help
  | [word] => if commands.contains word then .help else .unknownCommand
  | _ => .unknownCommand

/-- The request of the words of a command line, `none` if there is no command. -/
def ofWords? : List String → Except UsageError (Option Request)
  | [] => .ok none
  | "appraise" :: words => do
    let given ← Given.ofWords appraiseGrammar words
    return some (.appraise (← AppraiseRequest.ofGiven given))
  | "type" :: words => do
    let given ← Given.ofWords typeGrammar words
    return some (.type (← TypeRequest.ofGiven given))
  | "help" :: words => .error (helpError words)
  | "--" :: [] => .ok none
  | "--" :: word :: _ =>
    .error (if commands.contains word then .unknownArgument else .unknownCommand)
  | word :: _ =>
    match WordForm.of word with
    | .plain => .error .unknownCommand
    | _ => (Given.ofWords frontGrammar [word]).map fun _ => none

end Request

end ItemAppraisal.CommandLine
