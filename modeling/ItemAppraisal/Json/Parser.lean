import ItemAppraisal.Json.Basic
import ItemAppraisal.Decimal.Reading

/-!
# Reading JSON

A text is one value between blanks. `parse` needs no bound on the depth of a value: of two steps of the
reader one takes a character, so that the fuel left is never less than the length of what is left.
-/

namespace ItemAppraisal.Json

/-- Drops blanks between tokens. -/
def skipBlanks (s : List Char) : List Char :=
  s.dropWhile fun c => c == ' ' || c == '\n' || c == '\t' || c == '\r'

/-! ## Numbers -/

/-- A whole number in its shortest spelling: no leading zero. -/
def numeral? (s : List Char) : Option (List Char × List Char) :=
  let (row, rest) := s.span Char.isDigit
  match row with
  | [] => none
  | '0' :: _ :: _ => none
  | _ => some (row, rest)

/-- The digits after a point, none without a point. -/
def fraction? : List Char → Option (List Char × List Char)
  | '.' :: s =>
    let (row, rest) := s.span Char.isDigit
    if row.isEmpty then none else some (row, rest)
  | s => some ([], s)

/-- The exponent, if the text goes on with one. -/
def exponent? : List Char → Option (Option Int × List Char)
  | c :: s =>
    if c = 'e' ∨ c = 'E' then
      let (negative, s) := Decimal.splitSign s
      let (row, rest) := s.span Char.isDigit
      if row.isEmpty then none
      else some (some (if negative then -(Decimal.value row : Int) else Decimal.value row), rest)
    else some (none, c :: s)
  | [] => some (none, [])

/-- A double with a sign, if it is finite. -/
def finite (negative : Bool) (x : Float) : Json :=
  if Decimal.isFinite x then float (if negative then -x else x) else unrepresentable

/-- The value of a number without fraction and exponent. A number that is no word of 64 bits is a
double, and so is negative zero. -/
def ofNumeral (negative : Bool) (n : Nat) : Json :=
  if negative then
    if n ≠ 0 ∧ 2 * n ≤ Decimal.wordCount then int (-(n : Int)) else finite true (Decimal.toDouble n 0)
  else if n < Decimal.wordCount then int n
  else finite false (Decimal.toDouble n 0)

/-- A number at the front of a text. A decimal is rounded to the nearest double however many digits and however
large an exponent it has; a reader that computes in doubles may be off in the last place there. No theorem
depends on the value that is read. -/
def number? (s : List Char) : Option (Json × List Char) := do
  let (negative, s) := match s with
    | '-' :: rest => (true, rest)
    | s => (false, s)
  let (whole, s) ← numeral? s
  let (places, s) ← fraction? s
  let (exponent, s) ← exponent? s
  if places.isEmpty && exponent.isNone then
    return (ofNumeral negative (Decimal.value whole), s)
  else
    let x := Decimal.toDouble (Decimal.value (whole ++ places)) (exponent.getD 0 - places.length)
    return (finite negative x, s)

/-! ## Strings -/

/-- The value of a hexadecimal digit. -/
def hexDigit? (c : Char) : Option Nat :=
  if c.isDigit then some (c.toNat - '0'.toNat)
  else if 'a' ≤ c ∧ c ≤ 'f' then some (c.toNat - 'a'.toNat + 10)
  else if 'A' ≤ c ∧ c ≤ 'F' then some (c.toNat - 'A'.toNat + 10)
  else none

/-- A code unit of four hexadecimal digits at the front of a text. -/
def codeUnit? : List Char → Option (Nat × List Char)
  | a :: b :: c :: d :: rest => do
    let a ← hexDigit? a
    let b ← hexDigit? b
    let c ← hexDigit? c
    let d ← hexDigit? d
    return (((a * 16 + b) * 16 + c) * 16 + d, rest)
  | _ => none

/-- The character that a letter after a backslash stands for. -/
def escaped? : Char → Option Char
  | '"' => some '"'
  | '\\' => some '\\'
  | '/' => some '/'
  | 'b' => some (Char.ofNat 8)
  | 'f' => some (Char.ofNat 12)
  | 'n' => some '\n'
  | 'r' => some '\r'
  | 't' => some '\t'
  | _ => none

/-- What stands for one character or half of a surrogate pair at the front of a string. -/
inductive Unit where
  | char (c : Char)
  /-- Half of a surrogate pair without the other half. -/
  | half

/-- The character written at the front of the inside of a string, with what follows it. -/
def unit? : List Char → Option (Unit × List Char)
  | '\\' :: 'u' :: s => do
    let (high, rest) ← codeUnit? s
    if 0xd800 ≤ high && high < 0xdc00 then
      match rest with
      | '\\' :: 'u' :: s =>
        let (low, rest') ← codeUnit? s
        if 0xdc00 ≤ low && low < 0xe000 then
          return (.char (Char.ofNat (0x10000 + (high - 0xd800) * 0x400 + (low - 0xdc00))), rest')
        else return (.half, rest)
      | _ => return (.half, rest)
    else if 0xdc00 ≤ high && high < 0xe000 then return (.half, rest)
    else return (.char (Char.ofNat high), rest)
  | '\\' :: c :: rest => (escaped? c).map fun c => (.char c, rest)
  | c :: rest => if c.toNat < 0x20 then none else some (.char c, rest)
  | [] => none

/-- The characters up to the closing quote, `none` in place of them if one is half of a pair. `taken`
holds the characters before, the last one first. -/
def characters? : Nat → Option (List Char) → List Char → Option (Option (List Char) × List Char)
  | _, taken, '"' :: rest => some (taken.map List.reverse, rest)
  | 0, _, _ => none
  | fuel + 1, taken, s =>
    match unit? s with
    | some (.char c, rest) => characters? fuel (taken.map (c :: ·)) rest
    | some (.half, rest) => characters? fuel none rest
    | none => none

/-- The rest of a string of at most `fuel` characters after its opening quote; no text in place of one
that has no value. -/
def text? (fuel : Nat) (s : List Char) : Option (Option String × List Char) :=
  (characters? fuel (some []) s).map fun (cs, rest) => (cs.map String.ofList, rest)

/-- A name that is written at the front of a text, after an opening quote. Were there an escape in it,
the text would go on with a backslash where the name has another character or the closing quote stands. -/
def nameAt (name : String) (written : List Char) : Name :=
  ⟨name, (name.toList ++ ['"']).isPrefixOf written⟩

/-! ## Values -/

/-- What stands after a fixed word. -/
def word? (word : String) (j : Json) (s : List Char) : Option (Json × List Char) :=
  if word.toList.isPrefixOf s then some (j, s.drop word.length) else none

mutual

/-- A value at the front of a text. -/
def value? : Nat → List Char → Option (Json × List Char)
  | 0, _ => none
  | fuel + 1, s =>
    match skipBlanks s with
    | '"' :: rest => (text? fuel rest).map fun (t, rest) => (t.elim unrepresentable string, rest)
    | '[' :: rest =>
      match skipBlanks rest with
      | ']' :: rest => some (array [], rest)
      | rest => elements? fuel [] rest
    | '{' :: rest =>
      match skipBlanks rest with
      | '}' :: rest => some (object [], rest)
      | rest => members? fuel (some []) rest
    | 'n' :: rest => word? "ull" null rest
    | 't' :: rest => word? "rue" (bool true) rest
    | 'f' :: rest => word? "alse" (bool false) rest
    | s => number? s

/-- The rest of an array, after the elements `taken`, the last one first. -/
def elements? : Nat → List Json → List Char → Option (Json × List Char)
  | 0, _, _ => none
  | fuel + 1, taken, s =>
    match value? fuel s with
    | none => none
    | some (j, rest) =>
      match skipBlanks rest with
      | ',' :: rest => elements? fuel (j :: taken) rest
      | ']' :: rest => some (array (j :: taken).reverse, rest)
      | _ => none

/-- The rest of an object, after the fields `taken`, the last one first; `none` in place of them if a
name has no value. -/
def members? : Nat → Option (List Field) → List Char → Option (Json × List Char)
  | 0, _, _ => none
  | fuel + 1, taken, s =>
    match skipBlanks s with
    | '"' :: written =>
      match text? fuel written with
      | none => none
      | some (name, rest) =>
        match skipBlanks rest with
        | ':' :: rest =>
          match value? fuel rest with
          | none => none
          | some (j, rest) =>
            let taken := name.bind fun n => taken.map ((nameAt n written, j) :: ·)
            match skipBlanks rest with
            | ',' :: rest => members? fuel taken rest
            | '}' :: rest => some (taken.elim unrepresentable (object ·.reverse), rest)
            | _ => none
        | _ => none
    | _ => none

end

/-- The value of a text that holds exactly one. -/
def parse (text : String) : Option Json :=
  let s := text.toList
  match value? (2 * s.length + 1) s with
  | some (j, rest) => if (skipBlanks rest).isEmpty then some j else none
  | none => none

end ItemAppraisal.Json
