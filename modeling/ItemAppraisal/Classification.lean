import ItemAppraisal.Error
import ItemAppraisal.Format.Kind

/-!
# Classification

The formats are tried in order, each on the lines that the ones before it left. The format that took the
most lines with text gives its name to the whole; of equals it is the earlier one.
-/

namespace ItemAppraisal

/-- What formats made of a paste: their readings, and the lines that none of them took. -/
structure Parse where
  /-- The readings that took lines, in the order of the formats. -/
  readings : List Reading
  rest : Paste

namespace Parse

/-- Tries formats in order, until no lines are left. -/
def withKinds (types : TypeCatalog) : List Format.Kind → Paste → Parse
  | [], paste => ⟨[], paste⟩
  | kind :: kinds, paste =>
    if paste.lines.isEmpty then ⟨[], paste⟩
    else
      let reading := kind.read types paste
      let later := withKinds types kinds (paste.without reading.lines)
      ⟨if reading.lines.isEmpty then later.readings else reading :: later.readings, later.rest⟩

/-- Tries every format. -/
def all (types : TypeCatalog) (paste : Paste) : Parse :=
  withKinds types Format.Kind.all paste

/-- The numbers of the lines that were taken, in ascending order. -/
def lines (p : Parse) : List Nat :=
  (p.readings.flatMap (·.lines)).mergeSort

/-- The listed items of all readings, repetitions included. -/
def listed (p : Parse) : List ListedItem :=
  p.readings.flatMap (·.content.listed)

end Parse

/-- The next name takes the place of the best one so far if its number is greater. -/
def overtake {α : Type} (best : Option α × Nat) (next : α × Nat) : Option α × Nat :=
  if best.2 < next.2 then (some next.1, next.2) else best

/-- The name with the greatest number, if it is not zero; of equals the earlier one. -/
def dominant? {α : Type} (counted : List (α × Nat)) : Option α :=
  (counted.foldl overtake (none, 0)).1

/-- The format that took the most lines with text. The failure reports how many lines with text were
left. -/
def dominantKind (paste : Paste) (p : Parse) (unparsed : Nat) : Except Error Format.Kind :=
  match dominant? (p.readings.map fun r => (r.kind, paste.payload r.lines)) with
  | some kind => .ok kind
  | none => .error (.noValidInput unparsed)

/-- A paste with the format that took most of it. -/
structure Classification where
  parse : Parse
  kind : Format.Kind
  /-- The lines with text that no format took, without spacing at their ends. -/
  unparsed : List Line

/-- Reads a paste in every format. -/
def classify (types : TypeCatalog) (paste : Paste) : Except Error Classification :=
  let parse := Parse.all types paste
  let unparsed := parse.rest.trimmedLines
  (dominantKind paste parse unparsed.length).map fun kind => ⟨parse, kind, unparsed⟩

end ItemAppraisal
