import Folio.Json.Value

/-!
# TOML values

## Main definitions

* `Value` — a value of a TOML document.
* `Value.entries?` — the entries of a value that is a table, or reads as one.
* `Value.json` — the JSON value that says the same.
* `Value.isStorable` — its integers have 64 bits.
-/

namespace Folio.Toml

/-- A value of a TOML document. -/
inductive Value where
  | string (s : String)
  | integer (n : Int)
  /-- A number that is not whole; none for infinities and what is not a number. -/
  | float (x : Option Binary64)
  | boolean (b : Bool)
  /-- A date, a time or both. -/
  | moment (text : String)
  | array (items : List Value)
  /-- Entries in order of their keys. -/
  | table (entries : List (String × Value))
  deriving Repr, Inhabited, BEq

namespace Value

/-- The key under which a moment reads as a table. -/
def momentKey : String := "$__toml_private_datetime"

/-- The entries of a value that is a table.  A moment reads as a table of one entry. -/
def entries? : Value → Option (List (String × Value))
  | .table entries => some entries
  | .moment text => some [(momentKey, .string text)]
  | _ => none

mutual

/-- The JSON value that says the same as a value. -/
def json : Value → Json
  | .string s => .string s
  | .integer n => .int n
  | .float x => Json.ofReal? x
  | .boolean b => .bool b
  | .moment text => .object [(momentKey, .string text)]
  | .array items => .array (jsonItems items)
  | .table entries => .object (jsonMembers entries)

/-- The JSON values that say the same as values. -/
def jsonItems : List Value → List Json
  | [] => []
  | v :: vs => v.json :: jsonItems vs

/-- The members of an object that say the same as entries. -/
def jsonMembers : List (String × Value) → List (String × Json)
  | [] => []
  | (k, v) :: es => (k, v.json) :: jsonMembers es

end

/-- The integer has at most `n` bits with its sign. -/
def fits (n : Int) (bits : Nat) : Bool := -(Nat.pow 2 (bits - 1)) ≤ n && n < Nat.pow 2 (bits - 1)

mutual

/-- Every integer in the value has 64 bits. -/
def isStorable : Value → Bool
  | .integer n => fits n 64
  | .array items => areStorable items
  | .table entries => entriesAreStorable entries
  | _ => true

/-- Every integer in the values has 64 bits. -/
def areStorable : List Value → Bool
  | [] => true
  | v :: vs => v.isStorable && areStorable vs

/-- Every integer in the entries has 64 bits. -/
def entriesAreStorable : List (String × Value) → Bool
  | [] => true
  | (_, v) :: es => v.isStorable && entriesAreStorable es

end

mutual

/-- Every integer in the value is within the range of 128 bits, with a sign or without. -/
def isReadable : Value → Bool
  | .integer n => fits n 128 || (0 ≤ n && n < Nat.pow 2 128)
  | .array items => areReadable items
  | .table entries => entriesAreReadable entries
  | _ => true

/-- Every integer in the values is within the range. -/
def areReadable : List Value → Bool
  | [] => true
  | v :: vs => v.isReadable && areReadable vs

/-- Every integer in the entries is within the range. -/
def entriesAreReadable : List (String × Value) → Bool
  | [] => true
  | (_, v) :: es => v.isReadable && entriesAreReadable es

end

end Value

end Folio.Toml
