import Folio.Decimal.Binary64

/-!
# JSON values

## Main definitions

* `Json` — a value; the members of an object are in order of their names.
* `Json.Members` — the members of an object, with `insert` and `find?`.
-/

namespace Folio

/-- A JSON value.  A number is whole or binary, and the two are written differently. -/
inductive Json where
  | null
  | bool (b : Bool)
  | int (n : Int)
  | real (x : Binary64)
  | string (s : String)
  | array (items : List Json)
  | object (members : List (String × Json))
  deriving Repr, Inhabited, BEq

namespace Json

/-- Named values in order of their names, each name once. -/
abbrev Members := List (String × Json)

/-- The members with `value` under `name`, in place of an earlier value of that name. -/
def Members.insert : Members → String → Json → Members
  | [], name, value => [(name, value)]
  | (n, v) :: rest, name, value =>
    if name < n then (name, value) :: (n, v) :: rest
    else if name == n then (name, value) :: rest
    else (n, v) :: Members.insert rest name value

/-- The value under a name. -/
def Members.find? (members : Members) (name : String) : Option Json :=
  members.lookup name

/-- The members of a list of pairs; of two with one name the later counts. -/
def Members.ofList (pairs : List (String × Json)) : Members :=
  pairs.foldl (fun m p => m.insert p.1 p.2) []

/-- The object with these members. -/
def ofPairs (pairs : List (String × Json)) : Json :=
  .object (Members.ofList pairs)

/-- A number, or null if there is none. -/
def ofReal? : Option Binary64 → Json
  | some x => .real x
  | none => .null

end Json

end Folio
