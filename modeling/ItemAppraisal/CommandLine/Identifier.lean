import ItemAppraisal.Json.Printer

/-!
# Identifiers

Random identifiers of 128 bits as texts: 32 hexadecimal digits in five groups.
-/

namespace ItemAppraisal.CommandLine

/-- Two hexadecimal digits. -/
def hexPair (n : Nat) : List Char :=
  [Json.hexDigit (n / 16 % 16), Json.hexDigit (n % 16)]

/-- Sixteen random bytes with the marks of their version and variant. -/
def markRandom (bytes : List Nat) : List Nat :=
  bytes.zipIdx.map fun (n, i) =>
    if i = 6 then 0x40 + n % 0x10 else if i = 8 then 0x80 + n % 0x40 else n

/-- The identifier of sixteen random bytes. -/
def identifierOf (bytes : List Nat) : String :=
  String.ofList <| (markRandom bytes).zipIdx.flatMap fun (n, i) =>
    (if [4, 6, 8, 10].contains i then ['-'] else []) ++ hexPair n

end ItemAppraisal.CommandLine
