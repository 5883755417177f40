import ItemAppraisal.Format.Cell

/-!
# Kill reports

A time and the details of the victim, then the parties involved, then the destroyed and the dropped
items. A header starts each of the last three sections; lines before the first header belong to the
victim. Sections may repeat. A paste without a victim and without items holds no report.
-/

namespace ItemAppraisal

open Text (Pattern)

/-- What a report says of the victim. -/
structure Victim where
  name : String := ""
  corporation : String := ""
  alliance : String := ""
  faction : String := ""
  ship : String := ""
  system : String := ""
  security : String := ""
  damageTaken : Int := 0
  deriving DecidableEq, Repr

/-- What a report says of a party involved. -/
structure Party where
  name : String := ""
  finalBlow : Bool := false
  security : String := ""
  corporation : String := ""
  alliance : String := ""
  faction : String := ""
  ship : String := ""
  weapon : String := ""
  damageDone : Int := 0
  deriving DecidableEq, Repr

/-- An item that was on board. -/
structure LostItem where
  name : String
  quantity : Int
  location : String
  deriving DecidableEq, Repr

/-- A kill report. -/
structure KillReport where
  time : String := ""
  victim : Victim := {}
  involved : List Party := []
  destroyed : List LostItem := []
  dropped : List LostItem := []
  deriving DecidableEq, Repr

namespace KillReport

/-! ## Lines -/

/-- The sections of a report. -/
inductive Section where
  | victim
  | involved
  | destroyed
  | dropped
  deriving DecidableEq, Repr

/-- The section that a header starts. -/
def section? (s : List Char) : Option Section :=
  if s = "Involved parties:".toList then some .involved
  else if s = "Destroyed items:".toList then some .destroyed
  else if s = "Dropped items:".toList then some .dropped
  else none

/-- The shape of a time. -/
def timeShape : Pattern :=
  Format.line [Format.dateTime]

/-- An ASCII letter. -/
def isLetter (c : Char) : Bool :=
  c.isAlpha

/-- The shape of a field: a name of letters and spaces, and a value. -/
def fieldShape : Pattern :=
  Format.line [.group 1 (.seq (.one isLetter) (.eager fun c => isLetter c || c == ' ')), .text ": ",
    .group 2 (.eager (Format.noneOf "\n"))]

/-- The shape of an item: a name, and perhaps a quantity and a location. -/
def itemShape : Pattern :=
  Format.line [.group 1 (.few (Format.noneOf ",()\t")),
    .optional (.seq (.text ", Qty: ") (.group 2 Format.number)),
    .optional (.all [.text " (", .group 3 (.many (Format.noneOf ")")), .text ")"])]

/-- The name and the value of a field, the value without white space at its ends. -/
def field? (s : List Char) : Option (String × List Char) :=
  (fieldShape.match? s).map fun caps => (caps.text 1, Text.trimBy Text.isBlank (caps.get 2))

/-- The item of a line. -/
def item? (s : List Char) : Option LostItem :=
  (itemShape.match? s).map fun caps =>
    { name := String.ofList (Text.trimBy Text.isBlank (caps.get 1))
      quantity := ((caps.get? 2).map Quantity.read).getD 1
      location := caps.text 3 }

/-- The mark after the name of the party that dealt the last damage. -/
def finalBlowMark : List Char := " (laid the final blow)".toList

/-- What a line says. -/
inductive Entry where
  /-- A blank line or a header. -/
  | nothing
  | time (s : String)
  | victimField (name : String) (value : List Char)
  /-- A party, with its name. -/
  | party (name : String) (finalBlow : Bool)
  | partyField (name : String) (value : List Char)
  | destroyed (item : LostItem)
  | dropped (item : LostItem)

/-- What a field of the section of parties says. -/
def partyEntry (name : String) (value : List Char) : Entry :=
  if name = "Name" then
    .party (String.ofList (Text.withoutEnding finalBlowMark value)) (finalBlowMark.isSuffixOf value)
  else .partyField name value

/-- What a line of a section says, if it is part of a report. -/
def entryOf? (current : Section) (s : List Char) : Option Entry :=
  if s.isEmpty || (section? s).isSome then some .nothing
  else match current with
    | .victim =>
      if timeShape.fits s then some (.time (String.ofList s))
      else (field? s).map fun (name, value) => .victimField name value
    | .involved => (field? s).map fun (name, value) => partyEntry name value
    | .destroyed => (item? s).map .destroyed
    | .dropped => (item? s).map .dropped

/-! ## Reports -/

/-- A victim with a field set; fields with other names change nothing. -/
def setVictim (v : Victim) (name : String) (value : List Char) : Victim :=
  let text := String.ofList value
  match name with
  | "Victim" => { v with name := text }
  | "Corp" => { v with corporation := text }
  | "Alliance" => { v with alliance := text }
  | "Faction" => { v with faction := text }
  | "Destroyed" => { v with ship := text }
  | "System" => { v with system := text }
  | "Security" => { v with security := text }
  | "Damage Taken" => { v with damageTaken := Quantity.read value }
  | _ => v

/-- A party with a field set; fields with other names change nothing. -/
def setParty (p : Party) (name : String) (value : List Char) : Party :=
  let text := String.ofList value
  match name with
  | "Security" => { p with security := text }
  | "Corp" => { p with corporation := text }
  | "Alliance" => { p with alliance := text }
  | "Faction" => { p with faction := text }
  | "Ship" => { p with ship := text }
  | "Weapon" => { p with weapon := text }
  | "Damage Done" => { p with damageDone := Quantity.read value }
  | _ => p

/-- Changes the last element. -/
def changeLast {α : Type} (f : α → α) : List α → List α
  | [] => []
  | [a] => [f a]
  | a :: rest => a :: changeLast f rest

/-- A report with one more entry. Fields of a party belong to the latest one, or to none. -/
def add (r : KillReport) : Entry → KillReport
  | .nothing => r
  | .time s => { r with time := s }
  | .victimField name value => { r with victim := setVictim r.victim name value }
  | .party name finalBlow => { r with involved := r.involved ++ [{ name, finalBlow }] }
  | .partyField name value =>
    { r with involved := changeLast (setParty · name value) r.involved }
  | .destroyed item => { r with destroyed := r.destroyed ++ [item] }
  | .dropped item => { r with dropped := r.dropped ++ [item] }

/-- The lines that are part of a report, with what they say, from a section on. -/
def entries : Section → List Line → List (Nat × Entry)
  | _, [] => []
  | current, line :: rest =>
    let s := line.clean
    let current := (section? s).getD current
    match entryOf? current s with
    | some e => (line.number, e) :: entries current rest
    | none => entries current rest

/-- Whether a line shows that a paste holds a report. -/
def marksReport (s : List Char) : Bool :=
  "Victim: ".toList.isPrefixOf s || section? s == some .destroyed || section? s == some .dropped

/-- Reads a report, with the numbers of its lines. -/
def readReport (paste : Paste) : Option (KillReport × List Nat) :=
  if paste.lines.any fun line => marksReport line.clean then
    let entries := entries .victim paste.lines
    some (entries.foldl (fun r e => r.add e.2) {}, entries.map (·.1))
  else none

/-- The listed items of a report: the dropped ones, then the destroyed ones. -/
def listed (r : KillReport) : List ListedItem :=
  r.dropped.map (fun i =>
    { name := i.name, quantity := i.quantity
      details := { dropped := true, location := i.location } }) ++
  r.destroyed.map fun i =>
    { name := i.name, quantity := i.quantity
      details := { destroyed := true, location := i.location } }

/-! ## Laws -/

theorem entries_cons_header {current : Section} {line : Line} {rest : List Line}
    (header : section? line.clean = some .dropped) :
    entries current (line :: rest) = (line.number, .nothing) :: entries .dropped rest := by
  have nothing : entryOf? .dropped line.clean = some .nothing := by
    rw [entryOf?, header, if_pos (by simp)]
  rw [entries, header, Option.getD_some, nothing]

theorem entries_cons_item {line : Line} {rest : List Line} {item : LostItem}
    (filled : line.clean.isEmpty = false) (inside : section? line.clean = none)
    (shaped : item? line.clean = some item) :
    entries .dropped (line :: rest) = (line.number, .dropped item) :: entries .dropped rest := by
  have dropped : entryOf? .dropped line.clean = some (.dropped item) := by
    rw [entryOf?, filled, inside, if_neg (by simp), shaped]
    rfl
  rw [entries, inside, Option.getD_none, dropped]

end KillReport

end ItemAppraisal
