import Folio.Json.Value
import Folio.Yaml.Event

/-!
# Values of YAML

The events of a document make a JSON value.  A plain scalar without a tag is null, a truth value
or a number if it has the form of one, and a string otherwise.

## Main definitions

* `plainValue?` — the value of a plain scalar.
* `Anchors` — what the names in a document refer to.
* `value?` — the value of a text.
-/

namespace Folio.Yaml

/-! ### Scalars -/

/-- The value of digits to a base; none if there are none or another character is among them. -/
def digitsTo? (base : Nat) (cs : List Char) : Option Nat :=
  match cs.mapM hexDigit? with
  | some ds =>
    if ds.isEmpty || ds.any fun d => base ≤ d then none
    else some (ds.foldl (fun n d => base * n + d) 0)
  | none => none

/-- Digits that begin with a superfluous zero. -/
def hasLeadingZero (cs : List Char) : Bool :=
  let digits := match cs with
    | '-' :: ds => ds
    | '+' :: ds => ds
    | ds => ds
  1 < digits.length && digits.head? == some '0' && digits.all Char.isDigit

/-- A whole number without its sign: to base 16, 8 or 2 behind a mark, else to base 10. -/
def magnitude? (cs : List Char) : Option Nat :=
  match cs with
  | '0' :: 'x' :: ds => digitsTo? 16 ds
  | '0' :: 'o' :: ds => digitsTo? 8 ds
  | '0' :: 'b' :: ds => digitsTo? 2 ds
  | ds => digitsTo? 10 ds

/-- A whole number that 128 bits can hold.  Digits with a superfluous zero are no number. -/
def wholeNumber? (cs : List Char) : Option Int :=
  if hasLeadingZero cs then none
  else match cs with
    | '-' :: ds =>
      (magnitude? ds).bind fun n => if n ≤ Nat.pow 2 127 then some (-(n : Int)) else none
    | '+' :: ds => (magnitude? ds).bind fun n => if n < Nat.pow 2 128 then some (n : Int) else none
    | ds => (magnitude? ds).bind fun n => if n < Nat.pow 2 128 then some (n : Int) else none

/-- A whole number that a JSON value can hold: one of 64 bits. -/
def isStorable (n : Int) : Bool := -(Nat.pow 2 63 : Int) ≤ n && n < (Nat.pow 2 64 : Int)

/-- The exponent of a decimal number, if the text is one or is empty. -/
def exponent? (cs : List Char) : Option Int :=
  match cs with
  | [] => some 0
  | e :: rest =>
    if e == 'e' || e == 'E' then
      match rest with
      | '-' :: ds => (digitsTo? 10 ds).map fun n => -(n : Int)
      | '+' :: ds => (digitsTo? 10 ds).map fun n => (n : Int)
      | ds => (digitsTo? 10 ds).map fun n => (n : Int)
    else none

/-- A decimal number without its sign.  It has a digit before or behind its point. -/
def decimal? (negative : Bool) (cs : List Char) : Option Binary64 := do
  let whole := cs.takeWhile Char.isDigit
  let rest := cs.drop whole.length
  let (fraction, rest) := match rest with
    | '.' :: after => (after.takeWhile Char.isDigit, after.dropWhile Char.isDigit)
    | after => ([], after)
  let power ← exponent? rest
  let digits ← digitsTo? 10 (whole ++ fraction)
  Binary64.ofDecimal? negative digits (power - fraction.length)

/-- A number that is not whole: a decimal number, an infinity or not a number.  The last two have
no JSON value. -/
def real? (cs : List Char) : Option (Option Binary64) :=
  let unsigned := match cs with
    | '+' :: ds => ds
    | ds => ds
  if [".inf", ".Inf", ".INF"].contains (String.ofList unsigned)
    || ["-.inf", "-.Inf", "-.INF", ".nan", ".NaN", ".NAN"].contains (String.ofList cs) then
    some none
  else
    (match unsigned with
      | '-' :: ds => if cs.head? == some '+' then none else decimal? true ds
      | ds =>
        if cs.head? == some '+' && ds.head? == some '+' then none
        else decimal? false ds).map some

/-- A truth value. -/
def truth? (cs : List Char) : Option Bool :=
  let s := String.ofList cs
  if ["true", "True", "TRUE"].contains s then some true
  else if ["false", "False", "FALSE"].contains s then some false
  else none

/-- The text stands for null. -/
def isNull (cs : List Char) : Bool := ["null", "Null", "NULL", "~"].contains (String.ofList cs)

/-- A whole number as a JSON value; none if it is too large. -/
def storeWhole? (n : Int) : Option Json := if isStorable n then some (.int n) else none

/-- The value of a plain scalar without a tag; none for a whole number that is too large. -/
def plainValue? (cs : List Char) : Option Json :=
  if cs.isEmpty || isNull cs then some .null
  else match truth? cs with
    | some b => some (.bool b)
    | none =>
      match wholeNumber? cs with
      | some n => storeWhole? n
      | none =>
        match if hasLeadingZero cs then none else real? cs with
        | some x => some (.ofReal? x)
        | none => some (.string (String.ofList cs))

/-- The value of a scalar; none if it has not the form that its tag asks for. -/
def scalarValue? (tag : Option String) (plain : Bool) (cs : List Char) : Option Json :=
  match tag with
  | none => if plain then plainValue? cs else some (.string (String.ofList cs))
  | some tag =>
    if tag.toList.head? == some '!' then none
    else if tag == "tag:yaml.org,2002:bool" then (truth? cs).map .bool
    else if tag == "tag:yaml.org,2002:int" then (wholeNumber? cs).bind storeWhole?
    else if tag == "tag:yaml.org,2002:float" then (real? cs).map .ofReal?
    else if tag == "tag:yaml.org,2002:null" then (if isNull cs then some .null else none)
    else some (.string (String.ofList cs))

/-! ### Collections -/

/-- An event of a document in which references have numbers. -/
inductive Linked where
  | event (e : Event)
  | reference (number : Nat)
  deriving Repr, Inhabited

/-- What the names in a document refer to.  Each name has a number, and each number refers to the
event that begins a node.  A name that is used again gets the number that comes after those of all
names, and the next new name gets that number too. -/
structure Anchors where
  /-- The numbers of the names. -/
  numbers : List (List Char × Nat) := []
  /-- The places of the nodes; the first entry of a number counts. -/
  nodes : List (Nat × Nat) := []

/-- The name refers to the node that begins with the event at `index`. -/
def Anchors.add (a : Anchors) (name : List Char) (index : Nat) : Anchors :=
  let number := a.numbers.length
  { numbers := (name, number) :: a.numbers.filter fun p => p.1 != name
    nodes := (number, index) :: a.nodes }

/-- The anchor of a node. -/
def Event.anchor? : Event → Option (List Char)
  | .scalar p _ _ | .sequenceStart p | .mappingStart p => p.anchor
  | _ => none

/-- Gives the references their numbers, from the event at `index` on; none if a name is used
before its node. -/
def link? (a : Anchors) (index : Nat) : List Event → Option (List Linked × Anchors)
  | [] => some ([], a)
  | e :: es =>
    match e with
    | .aliasOf name => do
      let number ← a.numbers.lookup name
      let (linked, a) ← link? a (index + 1) es
      some (.reference number :: linked, a)
    | e => do
      let a := match e.anchor? with
        | some name => a.add name index
        | none => a
      let (linked, a) ← link? a (index + 1) es
      some (.event e :: linked, a)

/-- A document in which references have numbers. -/
structure Document where
  /-- The events. -/
  events : List Linked
  /-- The places of the nodes. -/
  nodes : List (Nat × Nat)

namespace Document

/-- A value, the number of references that have been followed, and the events behind it. -/
abbrev Reading (α : Type) := α × Nat × List Linked

/-- Follows a reference.  A document may follow a hundred times as many as it has events. -/
def follow? (d : Document) (number used : Nat) : Option (Nat × List Linked) :=
  if d.events.length * 100 ≤ used then none
  else (d.nodes.lookup number).map fun index => (used + 1, d.events.drop index)

/-- A tag of a document's own. -/
def isOwnTag (properties : Properties) : Bool :=
  match properties.tag with
  | some tag => tag.toList.head? == some '!'
  | none => false

/-- A key: the text of a scalar. -/
def key? (d : Document) (used : Nat) : List Linked → Option (Reading String)
  | .event (.scalar _ _ text) :: rest => some (String.ofList text, used, rest)
  | .reference number :: rest =>
    match d.follow? number used with
    | some (used, .event (.scalar _ _ text) :: _) => some (String.ofList text, used, rest)
    | _ => none
  | _ => none

mutual

/-- The value of the node at the beginning of the events.  Collections are nested at most `depth`
deep, and `fuel` bounds the number of steps. -/
def value? (d : Document) : Nat → (depth used : Nat) → List Linked → Option (Reading Json)
  | 0, _, _, _ => none
  | fuel + 1, depth, used, events =>
    match events with
    | .event (.scalar p plain text) :: rest =>
      (scalarValue? p.tag plain text).map fun v => (v, used, rest)
    | .reference number :: rest => do
      let (used, target) ← d.follow? number used
      let (v, used, _) ← d.value? fuel depth used target
      some (v, used, rest)
    | .event (.sequenceStart p) :: rest =>
      if isOwnTag p || depth == 0 then none
      else (d.items? fuel (depth - 1) used rest).map fun (vs, r) => (.array vs, r)
    | .event (.mappingStart p) :: rest =>
      if isOwnTag p || depth == 0 then none
      else (d.members? fuel (depth - 1) used rest).map fun (ms, r) => (.ofPairs ms, r)
    | _ => none

/-- The values up to the end of a sequence. -/
def items? (d : Document) : Nat → (depth used : Nat) → List Linked → Option (Reading (List Json))
  | 0, _, _, _ => none
  | fuel + 1, depth, used, events =>
    match events with
    | .event .sequenceEnd :: rest => some ([], used, rest)
    | events => do
      let (v, used, rest) ← d.value? fuel depth used events
      let (vs, r) ← d.items? fuel depth used rest
      some (v :: vs, r)

/-- The pairs up to the end of a mapping. -/
def members? (d : Document) :
    Nat → (depth used : Nat) → List Linked → Option (Reading (List (String × Json)))
  | 0, _, _, _ => none
  | fuel + 1, depth, used, events =>
    match events with
    | .event .mappingEnd :: rest => some ([], used, rest)
    | events => do
      let (name, used, rest) ← d.key? used events
      let (v, used, rest) ← d.value? fuel depth used rest
      let (ms, r) ← d.members? fuel depth used rest
      some ((name, v) :: ms, r)

end

/-- How deep collections may be nested. -/
def depthLimit : Nat := 128

end Document

/-- The value of a text; null if it has no document. -/
def value? (text : List Char) : Option Json := do
  let events ← events? text
  if events.isEmpty then some .null
  else
    let (linked, anchors) ← link? {} 0 events
    let d : Document := ⟨linked, anchors.nodes⟩
    let fuel := (2 * Document.depthLimit + 2) * (linked.length + 2)
    (d.value? fuel Document.depthLimit 0 linked).map Prod.fst

end Folio.Yaml
