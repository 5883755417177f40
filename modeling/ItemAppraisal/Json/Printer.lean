import ItemAppraisal.Json.Basic
import ItemAppraisal.Decimal.Shortest

/-!
# Writing JSON

Two layouts: everything on one line, and one element or field on each line with two spaces of indent for
each level. A double that is not finite is written as null. Main statement: what is written for a value
does not depend on what stands before it (`write_eq_append`).
-/

namespace ItemAppraisal.Json

/-- A hexadecimal digit. -/
def hexDigit (n : Nat) : Char :=
  Nat.digitChar n

/-- A character inside a string. -/
def escapedChar (c : Char) : List Char :=
  if c == '"' then ['\\', '"']
  else if c == '\\' then ['\\', '\\']
  else if c.toNat == 8 then ['\\', 'b']
  else if c.toNat == 12 then ['\\', 'f']
  else if c == '\n' then ['\\', 'n']
  else if c == '\r' then ['\\', 'r']
  else if c == '\t' then ['\\', 't']
  else if c.toNat < 0x20 then
    ['\\', 'u', '0', '0', hexDigit (c.toNat / 16), hexDigit (c.toNat % 16)]
  else [c]

/-- A string between quotes. -/
def quoted (s : String) : String :=
  String.ofList ('"' :: s.toList.flatMap escapedChar ++ ['"'])

/-- An integer in digits. -/
def integerText (n : Int) : String :=
  String.ofList ((if n < 0 then ['-'] else []) ++ Decimal.digits n.natAbs)

/-- A double as a document shows it. -/
def floatText (x : Float) : String :=
  match Decimal.documentText? x with
  | some s => String.ofList s
  | none => "null"

/-- How a document is laid out. -/
structure Layout where
  /-- What stands between the name of a field and its value. -/
  colon : String
  /-- What stands before an element or a closing bracket at a level of nesting. -/
  newline : Nat → String

/-- Everything on one line without blanks. -/
def compactLayout : Layout := ⟨":", fun _ => ""⟩

/-- A line for each element and field. -/
def prettyLayout : Layout :=
  ⟨": ", fun level => String.ofList ('\n' :: List.replicate (2 * level) ' ')⟩

mutual

/-- Writes a value in a layout, at a level of nesting, after what is written already. -/
def write (l : Layout) (level : Nat) (out : String) : Json → String
  | null | unrepresentable => out ++ "null"
  | bool b => out ++ if b then "true" else "false"
  | int n => out ++ integerText n
  | float x => out ++ floatText x
  | string s => out ++ quoted s
  | array [] => out ++ "[]"
  | array (j :: js) =>
    writeElements l level (write l (level + 1) (out ++ "[" ++ l.newline (level + 1)) j) js ++
      l.newline level ++ "]"
  | object [] => out ++ "\x7b\x7d"
  | object ((name, j) :: fs) =>
    writeFields l level (write l (level + 1)
      (out ++ "\x7b" ++ l.newline (level + 1) ++ quoted name.text ++ l.colon) j) fs ++
      l.newline level ++ "\x7d"

/-- Writes the elements of an array after the first. -/
def writeElements (l : Layout) (level : Nat) (out : String) : List Json → String
  | [] => out
  | j :: js =>
    writeElements l level (write l (level + 1) (out ++ "," ++ l.newline (level + 1)) j) js

/-- Writes the fields of an object after the first. -/
def writeFields (l : Layout) (level : Nat) (out : String) : List Field → String
  | [] => out
  | (name, j) :: fs =>
    writeFields l level (write l (level + 1)
      (out ++ "," ++ l.newline (level + 1) ++ quoted name.text ++ l.colon) j) fs

end

/-- A value on one line. -/
def compact (j : Json) : String :=
  write compactLayout 0 "" j

/-- A value with a line for each element and field. -/
def pretty (j : Json) : String :=
  write prettyLayout 0 "" j

mutual

/-- How a value is written does not depend on what is written before it. -/
theorem write_eq_append (l : Layout) (level : Nat) (out : String) (j : Json) :
    write l level out j = out ++ write l level "" j := by
  cases j with
  | array js =>
    cases js with
    | nil => simp [write]
    | cons j js =>
      rw [write, write, writeElements_eq_append, write_eq_append l (level + 1) _ j,
        writeElements_eq_append _ _ (write _ _ ("" ++ _ ++ _) _),
        write_eq_append l (level + 1) ("" ++ _ ++ _) j]
      simp [String.append_assoc]
  | object fs =>
    cases fs with
    | nil => simp [write]
    | cons f fs =>
      obtain ⟨name, j⟩ := f
      rw [write, write, writeFields_eq_append, write_eq_append l (level + 1) _ j,
        writeFields_eq_append _ _ (write _ _ ("" ++ _ ++ _ ++ _ ++ _) _),
        write_eq_append l (level + 1) ("" ++ _ ++ _ ++ _ ++ _) j]
      simp [String.append_assoc]
  | _ => simp [write]

theorem writeElements_eq_append (l : Layout) (level : Nat) (out : String) (js : List Json) :
    writeElements l level out js = out ++ writeElements l level "" js := by
  cases js with
  | nil => simp [writeElements]
  | cons j js =>
    rw [writeElements, writeElements, writeElements_eq_append, write_eq_append l (level + 1) _ j,
      writeElements_eq_append _ _ (write _ _ ("" ++ _ ++ _) _),
      write_eq_append l (level + 1) ("" ++ _ ++ _) j]
    simp [String.append_assoc]

theorem writeFields_eq_append (l : Layout) (level : Nat) (out : String) (fs : List Field) :
    writeFields l level out fs = out ++ writeFields l level "" fs := by
  cases fs with
  | nil => simp [writeFields]
  | cons f fs =>
    obtain ⟨name, j⟩ := f
    rw [writeFields, writeFields, writeFields_eq_append, write_eq_append l (level + 1) _ j,
      writeFields_eq_append _ _ (write _ _ ("" ++ _ ++ _ ++ _ ++ _) _),
      write_eq_append l (level + 1) ("" ++ _ ++ _ ++ _ ++ _) j]
    simp [String.append_assoc]

end

end ItemAppraisal.Json
