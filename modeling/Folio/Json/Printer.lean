import Folio.Decimal.Layout
import Folio.Json.Value

/-!
# Writing JSON

## Main definitions

* `Json.compact` — one line, without blanks.
* `Json.pretty` — two blanks for each level; empty arrays and objects on one line.
* `Json.realLayout` — how numbers that are not whole are written.
-/

namespace Folio.Json

/-- Numbers are written positionally from `1e-5` to below `1e16`, and an exponent has at least
two digits. -/
def realLayout : DecimalLayout := ⟨-5, 15, 2⟩

/-- A hexadecimal digit in lower case. -/
def hexDigit (n : Nat) : Char := Nat.digitChar n

/-- One character of a string: the quote, the backslash and control characters are escaped. -/
def escapeChar (c : Char) : List Char :=
  if c == '\x22' then ['\\', '\x22']
  else if c == '\\' then ['\\', '\\']
  else if c == '\x08' then ['\\', 'b']
  else if c == '\x0c' then ['\\', 'f']
  else if c == '\n' then ['\\', 'n']
  else if c == '\r' then ['\\', 'r']
  else if c == '\t' then ['\\', 't']
  else if c.toNat < 0x20 then
    ['\\', 'u', '0', '0', hexDigit (c.toNat / 16), hexDigit (c.toNat % 16)]
  else [c]

/-- A string with its quotes. -/
def quote (s : String) : String :=
  "\"" ++ String.ofList (s.toList.flatMap escapeChar) ++ "\""

mutual

/-- The value on one line, without blanks. -/
def compact : Json → String
  | .null => "null"
  | .bool true => "true"
  | .bool false => "false"
  | .int n => toString n
  | .real x => realLayout.write x
  | .string s => quote s
  | .array items => "[" ++ ",".intercalate (compactItems items) ++ "]"
  | .object members => "\x7b" ++ ",".intercalate (compactMembers members) ++ "\x7d"

/-- The items of an array, each on one line. -/
def compactItems : List Json → List String
  | [] => []
  | v :: vs => compact v :: compactItems vs

/-- The members of an object, each on one line. -/
def compactMembers : List (String × Json) → List String
  | [] => []
  | (n, v) :: ms => (quote n ++ ":" ++ compact v) :: compactMembers ms

end

/-- Lines between two brackets, each two blanks deeper than the brackets. -/
def bracketed (left right : String) (depth : Nat) (lines : List String) : String :=
  let margin := String.ofList (List.replicate (2 * (depth + 1)) ' ')
  let outer := String.ofList (List.replicate (2 * depth) ' ')
  if lines.isEmpty then left ++ right
  else left ++ "\n" ++ ",\n".intercalate (lines.map (margin ++ ·)) ++ "\n" ++ outer ++ right

mutual

/-- The value at a depth of nesting, over several lines. -/
def prettyAt (depth : Nat) : Json → String
  | .array items => bracketed "[" "]" depth (prettyItems (depth + 1) items)
  | .object members => bracketed "\x7b" "\x7d" depth (prettyMembers (depth + 1) members)
  | .null => "null"
  | .bool true => "true"
  | .bool false => "false"
  | .int n => toString n
  | .real x => realLayout.write x
  | .string s => quote s

/-- The items of an array, over several lines. -/
def prettyItems (depth : Nat) : List Json → List String
  | [] => []
  | v :: vs => prettyAt depth v :: prettyItems depth vs

/-- The members of an object, over several lines. -/
def prettyMembers (depth : Nat) : List (String × Json) → List String
  | [] => []
  | (n, v) :: ms => (quote n ++ ": " ++ prettyAt depth v) :: prettyMembers depth ms

end

/-- The value over several lines. -/
def pretty (v : Json) : String := prettyAt 0 v

end Folio.Json
