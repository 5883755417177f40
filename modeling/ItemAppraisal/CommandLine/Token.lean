import ItemAppraisal.CommandLine.Grammar
import ItemAppraisal.Text.Part

/-!
# The tokens of command lines

What the words of a command line say one after the other. An option that takes a value finds it in its
own word or else in the next one, unless that starts with a dash. After two dashes every word stands for
itself.
-/

namespace ItemAppraisal.CommandLine

/-- The form of a word. -/
inductive WordForm where
  /-- Two dashes. -/
  | separator
  /-- A name after two dashes, perhaps with a value after an equals sign. -/
  | named (name : String) (value : Option String)
  /-- Letters after one dash. -/
  | lettered (letters : List Char)
  | plain
  deriving DecidableEq, Repr

/-- The form of a word. A single dash is a plain word. -/
def WordForm.of (word : String) : WordForm :=
  match word.toList with
  | ['-', '-'] => separator
  | '-' :: '-' :: rest =>
    match rest.span (· != '=') with
    | (name, _ :: value) => named (String.ofList name) (some (String.ofList value))
    | (name, []) => named (String.ofList name) none
  | '-' :: c :: rest => lettered (c :: rest)
  | _ => plain

/-- A part of a command line. -/
inductive Token where
  /-- A flag, or an option with its value in one word. -/
  | whole (rule : OptionRule) (value : Option String)
  /-- An option with its value in the next word, if there is one. -/
  | split (rule : OptionRule) (value : Option String)
  | positional (text : String)
  /-- The place where a command line goes wrong. -/
  | fault (error : UsageError)
  deriving DecidableEq, Repr

namespace Token

/-- The tokens of the letters after a dash, with the option that takes the next word for its value. What
follows the letter of such an option in its word is its value, without an equals sign at the front. -/
def ofLetters (g : Grammar) : List Char → List Token × Option OptionRule
  | [] => ([], none)
  | c :: rest =>
    match g.lettered? c with
    | none => ([fault .unknownArgument], none)
    | some rule =>
      match rule.role with
      | .value _ =>
        if rest.isEmpty then ([], some rule)
        else
          let value := (Text.afterLead? ['='] rest).getD rest
          ([whole rule (some (String.ofList value))], none)
      | _ =>
        let (tokens, waiting) := ofLetters g rest
        (whole rule none :: tokens, waiting)

/-- The tokens of an option that is given by its name, with the option that takes the next word for its
value. -/
def ofName (g : Grammar) (name : String) (value : Option String) :
    List Token × Option OptionRule :=
  match g.named? name with
  | none => ([fault .unknownArgument], none)
  | some rule =>
    match rule.role, value with
    | .value _, none => ([], some rule)
    | .value _, some value => ([whole rule (some value)], none)
    | _, none => ([whole rule none], none)
    | _, some _ => ([fault .surplusValue], none)

/-- The token of an option that got no value. -/
def abandoned : Option OptionRule → List Token
  | some rule => [split rule none]
  | none => []

/-- The tokens of words that stand for themselves, of which `room` more are taken. -/
def ofPlain : Nat → List String → List Token
  | _, [] => []
  | 0, _ :: _ => [fault .unknownArgument]
  | room + 1, word :: words => positional word :: ofPlain room words

/-- The tokens of words, of which `room` may stand for themselves; `waiting` takes the first one for its
value. -/
def ofWords (g : Grammar) : Nat → Option OptionRule → List String → List Token
  | _, waiting, [] => abandoned waiting
  | room, waiting, word :: words =>
    match WordForm.of word with
    | .separator => abandoned waiting ++ ofPlain room words
    | .named name value =>
      let (tokens, next) := ofName g name value
      abandoned waiting ++ tokens ++ ofWords g room next words
    | .lettered letters =>
      let (tokens, next) := ofLetters g letters
      abandoned waiting ++ tokens ++ ofWords g room next words
    | .plain =>
      match waiting, room with
      | some rule, _ => split rule (some word) :: ofWords g room none words
      | none, 0 => [fault .unknownArgument]
      | none, room + 1 => positional word :: ofWords g room none words

end Token

/-! ## Checking -/

/-- What a command line gives: options with their values, and the words that stand for themselves. -/
structure Given where
  options : List (String × String) := []
  positionals : List String := []
  deriving DecidableEq, Repr

namespace Given

/-- The value of an option. -/
def value? (given : Given) (name : String) : Option String :=
  given.options.lookup name

/-- Whether an option is given. -/
def has (given : Given) (name : String) : Bool :=
  (given.value? name).isSome

/-- How often an option is given. -/
def count (given : Given) (name : String) : Nat :=
  given.options.countP (·.1 == name)

/-- The value of an option that takes numbers. -/
def number? (given : Given) (name : String) : Option Float :=
  (given.value? name).bind fun value => Decimal.double? value.toList

/-- Adds an option. -/
def add (given : Given) (name value : String) : Given :=
  { given with options := given.options ++ [(name, value)] }

/-- Adds an option that may be given once. -/
def addOnce (given : Given) (name value : String) : Except UsageError Given :=
  if given.has name then .error .conflict else .ok (given.add name value)

/-- Enters an option. A missing value is noticed before a repetition, and that before a value that does
not fit. -/
def enter (given : Given) (rule : OptionRule) (value : Option String) : Except UsageError Given :=
  match rule.role with
  | .help => .error .help
  | .version => .error .version
  | .counter => .ok (given.add rule.name "")
  | .flag => given.addOnce rule.name ""
  | .value valueRule =>
    match value with
    | none => .error .invalidValue
    | some value => do
      let entered ← given.addOnce rule.name value
      match valueRule.problem? value with
      | some e => .error e
      | none => .ok entered

/-- Enters tokens up to the first fault. An option with its value in the next word is entered only when
something else follows it that is no fault. -/
def enterAll (given : Given) : List Token → Except UsageError Given
  | [] => .ok given
  | .fault e :: _ => .error e
  | .split _ _ :: .fault e :: _ => .error e
  | .positional text :: rest =>
    enterAll { given with positionals := given.positionals ++ [text] } rest
  | .whole rule value :: rest | .split rule value :: rest => do
    enterAll (← given.enter rule value) rest

/-- What the words of a command line give. -/
def ofWords (g : Grammar) (words : List String) : Except UsageError Given :=
  enterAll {} (Token.ofWords g g.positions none words)

end Given

end ItemAppraisal.CommandLine
