import Folio.Yaml.Lexer

/-!
# Events of YAML

The nodes of a document from left to right: scalars, references to anchors, and the starts and
ends of sequences and mappings.

## Main definitions

* `Event` — one event.
* `Parse` — the tokens that are left, and the events so far.
* `events?` — the events of the only document of a text.
-/

namespace Folio.Yaml

/-- The anchor and the tag before a node. -/
structure Properties where
  /-- The anchor. -/
  anchor : Option (List Char) := none
  /-- The complete tag. -/
  tag : Option String := none
  deriving DecidableEq, Repr, Inhabited

/-- One event. -/
inductive Event where
  | scalar (properties : Properties) (plain : Bool) (text : List Char)
  | aliasOf (name : List Char)
  | sequenceStart (properties : Properties)
  | sequenceEnd
  | mappingStart (properties : Properties)
  | mappingEnd
  deriving DecidableEq, Repr, Inhabited

/-- The tokens that are left, and the events so far. -/
structure Parse where
  /-- The tokens that are left. -/
  tokens : List Token
  /-- The events, last first. -/
  events : List Event := []
  /-- What the handles of tags stand for. -/
  handles : List (List Char × List Char) := []

/-- What the handles stand for unless a directive says otherwise. -/
def defaultHandles : List (List Char × List Char) :=
  [(['!'], ['!']), (['!', '!'], "tag:yaml.org,2002:".toList)]

namespace Parse

/-- Adds an event. -/
def emit (s : Parse) (e : Event) : Parse := { s with events := e :: s.events }

/-- Passes over a token. -/
def skip (s : Parse) : Parse := { s with tokens := s.tokens.tail }

/-- The next token. -/
def next (s : Parse) : Token := s.tokens.headD .streamEnd

/-- Adds a scalar without text. -/
def emitEmpty (s : Parse) (properties : Properties) : Parse :=
  s.emit (.scalar properties true [])

/-- The tag that a handle and its tail make. -/
def resolveTag? (s : Parse) (handle tail : List Char) : Option String :=
  if handle.isEmpty then some (String.ofList tail)
  else ((s.handles ++ defaultHandles).lookup handle).map fun start => String.ofList (start ++ tail)

/-- Reads an anchor, if there is one. -/
def readAnchor (s : Parse) (properties : Properties) : Properties × Parse :=
  match s.next with
  | .anchor name => ({ properties with anchor := some name }, s.skip)
  | _ => (properties, s)

/-- Reads a tag, if there is one. -/
def readTag? (s : Parse) (properties : Properties) : Option (Properties × Parse) :=
  match s.next with
  | .tag handle tail => do
    let tag ← s.resolveTag? handle tail
    some ({ properties with tag := some tag }, s.skip)
  | _ => some (properties, s)

/-- Reads an anchor and a tag in either order. -/
def readProperties? (s : Parse) : Option (Properties × Parse) := do
  let (properties, s) := s.readAnchor {}
  let (properties, s) ← s.readTag? properties
  if properties.anchor.isNone && properties.tag.isSome then some (s.readAnchor properties)
  else some (properties, s)

/-- An entry of a block has no node. -/
def lacksBlockNode (t : Token) : Bool :=
  t == .key || t == .value || t == .blockEnd

/-- What may be in a node. -/
structure NodeKind where
  /-- A block. -/
  block : Bool
  /-- Entries that are not indented. -/
  entries : Bool

mutual

/-- Reads a node.  `fuel` bounds the number of steps. -/
def node? (kind : NodeKind) : Nat → Parse → Option Parse
  | 0, _ => none
  | fuel + 1, s =>
    match s.next with
    | .aliasOf name => some (s.skip.emit (.aliasOf name))
    | _ => do
      let (properties, s) ← s.readProperties?
      match s.next with
      | .scalar plain text => some (s.skip.emit (.scalar properties plain text))
      | .blockEntry =>
        if kind.entries then looseEntries? fuel (s.emit (.sequenceStart properties))
        else if properties == {} then none else some (s.emitEmpty properties)
      | .flowSequenceStart => flowSequence? true fuel (s.skip.emit (.sequenceStart properties))
      | .flowMappingStart => flowMapping? true fuel (s.skip.emit (.mappingStart properties))
      | .blockSequenceStart =>
        if kind.block then blockSequence? fuel (s.skip.emit (.sequenceStart properties))
        else if properties == {} then none else some (s.emitEmpty properties)
      | .blockMappingStart =>
        if kind.block then blockMapping? fuel (s.skip.emit (.mappingStart properties))
        else if properties == {} then none else some (s.emitEmpty properties)
      | _ => if properties == {} then none else some (s.emitEmpty properties)

/-- Reads the entries of a sequence that is no deeper than its key. -/
def looseEntries? : Nat → Parse → Option Parse
  | 0, _ => none
  | fuel + 1, s =>
    if s.next == .blockEntry then do
      let s := s.skip
      let s ← if s.next == .blockEntry || lacksBlockNode s.next then some (s.emitEmpty {})
        else node? ⟨true, false⟩ fuel s
      looseEntries? fuel s
    else some (s.emit .sequenceEnd)

/-- Reads the entries of a sequence that is a block. -/
def blockSequence? : Nat → Parse → Option Parse
  | 0, _ => none
  | fuel + 1, s =>
    match s.next with
    | .blockEntry => do
      let s := s.skip
      let s ← if s.next == .blockEntry || s.next == .blockEnd then some (s.emitEmpty {})
        else node? ⟨true, false⟩ fuel s
      blockSequence? fuel s
    | .blockEnd => some (s.skip.emit .sequenceEnd)
    | _ => none

/-- Reads the pairs of a mapping that is a block. -/
def blockMapping? : Nat → Parse → Option Parse
  | 0, _ => none
  | fuel + 1, s =>
    match s.next with
    | .key => do
      let s := s.skip
      let s ← if lacksBlockNode s.next then some (s.emitEmpty {}) else node? ⟨true, true⟩ fuel s
      let s ← if s.next == .value then
          let s := s.skip
          if lacksBlockNode s.next then some (s.emitEmpty {}) else node? ⟨true, true⟩ fuel s
        else some (s.emitEmpty {})
      blockMapping? fuel s
    | .blockEnd => some (s.skip.emit .mappingEnd)
    | _ => none

/-- Reads the value of a pair between brackets, which `stop` closes. -/
def flowValue? (stop : Token) : Nat → Parse → Option Parse
  | 0, _ => none
  | fuel + 1, s =>
    if s.next == .value then
      let s := s.skip
      if s.next == .flowEntry || s.next == stop then some (s.emitEmpty {})
      else node? ⟨false, false⟩ fuel s
    else some (s.emitEmpty {})

/-- Reads the entries of a sequence between brackets.  An entry with a key is a mapping of its
own. -/
def flowSequence? (first : Bool) : Nat → Parse → Option Parse
  | 0, _ => none
  | fuel + 1, s =>
    if s.next == .flowSequenceEnd then some (s.skip.emit .sequenceEnd)
    else do
      let s ← if first then some s else if s.next == .flowEntry then some s.skip else none
      match s.next with
      | .flowSequenceEnd => some (s.skip.emit .sequenceEnd)
      | .key =>
        let s := s.skip.emit (.mappingStart {})
        let s ← if s.next == .value || s.next == .flowEntry || s.next == .flowSequenceEnd then
            some (s.skip.emitEmpty {})
          else node? ⟨false, false⟩ fuel s
        let s ← flowValue? .flowSequenceEnd fuel s
        flowSequence? false fuel (s.emit .mappingEnd)
      | _ =>
        let s ← node? ⟨false, false⟩ fuel s
        flowSequence? false fuel s

/-- Reads the pairs of a mapping between brackets. -/
def flowMapping? (first : Bool) : Nat → Parse → Option Parse
  | 0, _ => none
  | fuel + 1, s =>
    if s.next == .flowMappingEnd then some (s.skip.emit .mappingEnd)
    else do
      let s ← if first then some s else if s.next == .flowEntry then some s.skip else none
      match s.next with
      | .flowMappingEnd => some (s.skip.emit .mappingEnd)
      | .key =>
        let s := s.skip
        let s ← if s.next == .value || s.next == .flowEntry || s.next == .flowMappingEnd then
            some (s.emitEmpty {})
          else node? ⟨false, false⟩ fuel s
        let s ← flowValue? .flowMappingEnd fuel s
        flowMapping? false fuel s
      | _ =>
        let s ← node? ⟨false, false⟩ fuel s
        flowMapping? false fuel (s.emitEmpty {})

end

/-- Reads the directives before a document, each of which may stand once. -/
def directives? : Nat → (versionSeen : Bool) → Parse → Option Parse
  | 0, _, _ => none
  | fuel + 1, versionSeen, s =>
    match s.next with
    | .version major minor =>
      if versionSeen || major != 1 || (minor != 1 && minor != 2) then none
      else directives? fuel true s.skip
    | .tagDirective handle uri =>
      if (s.handles.lookup handle).isSome then none
      else directives? fuel versionSeen { s.skip with handles := (handle, uri) :: s.handles }
    | _ => some s

/-- No further document follows. -/
def atEnd (s : Parse) : Bool :=
  (s.tokens.dropWhile (· == .documentEnd)).head? == some .streamEnd

/-- Reads the only document. -/
def document? (s : Parse) : Option Parse := do
  let fuel := 8 * s.tokens.length + 8
  match s.next with
  | .streamEnd => some s
  | .version .. | .tagDirective .. | .documentStart =>
    let s ← s.directives? fuel false
    if s.next != .documentStart then none
    let s := s.skip
    match s.next with
    | .version .. | .tagDirective .. | .documentStart | .documentEnd | .streamEnd =>
      some (s.emitEmpty {})
    | _ => node? ⟨true, false⟩ fuel s
  | _ => node? ⟨true, false⟩ fuel s

end Parse

/-- The events of the only document of a text; none at all if there is no document. -/
def events? (text : List Char) : Option (List Event) := do
  let tokens ← tokens? text
  let s ← Parse.document? { tokens }
  if s.atEnd then some s.events.reverse else none

end Folio.Yaml
