import Folio.Yaml.Scalar

/-!
# Lexical tokens of YAML

Indentation is turned into tokens that begin and end blocks.  Whether a scalar is a key is known
only at the colon behind it, so the token that marks a key is spliced in before the scalar then.

## Main definitions

* `Token` — a lexical token.
* `KeyCandidate` — a place at which a key may begin.
* `Lexer` — the tokens so far, and what the next ones depend on.
* `tokens?` — the tokens of a text.
-/

namespace Folio.Yaml

/-- A lexical token. -/
inductive Token where
  | version (major minor : Nat)
  | tagDirective (handle uri : List Char)
  | documentStart
  | documentEnd
  | blockSequenceStart
  | blockMappingStart
  | blockEnd
  | flowSequenceStart
  | flowSequenceEnd
  | flowMappingStart
  | flowMappingEnd
  | blockEntry
  | flowEntry
  | key
  | value
  | aliasOf (name : List Char)
  | anchor (name : List Char)
  | tag (handle tail : List Char)
  | scalar (plain : Bool) (text : List Char)
  | streamEnd
  deriving DecidableEq, Repr, Inhabited

/-- A place at which a key may begin. -/
structure KeyCandidate where
  /-- There has to be a key. -/
  required : Bool
  /-- The number of tokens before. -/
  count : Nat
  /-- The place. -/
  index : Nat
  /-- Its line. -/
  line : Nat
  /-- Its column. -/
  column : Nat

/-- The tokens so far, and what the next ones depend on. -/
structure Lexer where
  /-- The place in the text. -/
  place : Place
  /-- The tokens, last first. -/
  tokens : List Token := []
  /-- The column of the innermost block; none outside of all blocks. -/
  indent : Option Nat := none
  /-- The columns of the blocks around it. -/
  indents : List (Option Nat) := []
  /-- For each open bracket, innermost first, the place at which a key may begin. -/
  flows : List (Option KeyCandidate) := []
  /-- The place at which a key may begin outside of all brackets. -/
  candidate : Option KeyCandidate := none
  /-- A key may begin here. -/
  keyAllowed : Bool := true

namespace Lexer

/-- The lexer is within brackets. -/
def inFlow (l : Lexer) : Bool := !l.flows.isEmpty

/-- Adds a token. -/
def push (l : Lexer) (t : Token) : Lexer := { l with tokens := t :: l.tokens }

/-- Splices a token in behind the first `n`. -/
def insert (l : Lexer) (n : Nat) (t : Token) : Lexer :=
  let later := l.tokens.take (l.tokens.length - n)
  { l with tokens := later ++ t :: l.tokens.drop (l.tokens.length - n) }

/-- The innermost place at which a key may begin. -/
def currentKey (l : Lexer) : Option KeyCandidate :=
  match l.flows with
  | k :: _ => k
  | [] => l.candidate

/-- Changes the innermost place at which a key may begin. -/
def setKey (l : Lexer) (k : Option KeyCandidate) : Lexer :=
  match l.flows with
  | _ :: outer => { l with flows := k :: outer }
  | [] => { l with candidate := k }

/-- No key begins at the innermost place; none if there has to be one. -/
def dropKey? (l : Lexer) : Option Lexer :=
  match l.currentKey with
  | some k => if k.required then none else some (l.setKey none)
  | none => some l

/-- A key may begin here. -/
def saveKey? (l : Lexer) : Option Lexer :=
  if l.keyAllowed then do
    let l ← l.dropKey?
    let p := l.place
    some (l.setKey (some ⟨!l.inFlow && l.indent == some p.column, l.tokens.length, p.index, p.line,
      p.column⟩))
  else some l

/-- A place is too far back for a key: in another line, or more than 1024 characters before. -/
def isStale (l : Lexer) (k : KeyCandidate) : Bool :=
  k.line < l.place.line || k.index + 1024 < l.place.index

/-- Forgets a place that is too far back; none if there has to be a key. -/
def refresh? (l : Lexer) : Option KeyCandidate → Option (Option KeyCandidate)
  | none => some none
  | some k => if l.isStale k then (if k.required then none else some none) else some (some k)

/-- Forgets the places that are too far back; none if there has to be a key at one of them. -/
def dropStale? (l : Lexer) : Option Lexer := do
  let candidate ← l.refresh? l.candidate
  let flows ← l.flows.mapM l.refresh?
  some { l with candidate, flows }

/-- The column is deeper than the innermost block. -/
def isDeeper (l : Lexer) (column : Nat) : Bool :=
  match l.indent with
  | some n => n < column
  | none => true

/-- Begins a block at a column that is deeper than the innermost block.  Its token comes behind
the first `count`. -/
def roll (l : Lexer) (column count : Nat) (t : Token) : Lexer :=
  if !l.inFlow && l.isDeeper column then
    { l with indent := some column, indents := l.indent :: l.indents }.insert count t
  else l

/-- Ends the blocks that are deeper than a column; all of them if there is none.  `fuel` bounds
their number. -/
def unrollWith (column : Option Nat) : Nat → Lexer → Lexer
  | 0, l => l
  | fuel + 1, l =>
    let deeper : Bool := match l.indent, column with
      | some n, some c => decide (c < n)
      | some _, none => true
      | none, _ => false
    if deeper then
      unrollWith column fuel
        ({ l with indent := (l.indents.head?).getD none, indents := l.indents.tail }.push .blockEnd)
    else l

/-- Ends the blocks that are deeper than a column; all of them if there is none. -/
def unroll (l : Lexer) (column : Option Nat) : Lexer :=
  if l.inFlow then l else unrollWith column (l.indents.length + 1) l

/-- Moves over blank space and comments before a token.  Behind a line break a key may begin.
Where a key may begin, a tab is no blank. -/
def toToken : Nat → Lexer → Lexer
  | 0, l => l
  | fuel + 1, l =>
    let tabs := l.inFlow || !l.keyAllowed
    let p := l.place.skipWhile fun c => c == ' ' || (tabs && c == '\t')
    let p := if p.at? '#' then p.skipWhile fun c => !isBreak c else p
    if (p.peek.map isBreak).getD false then
      toToken fuel { l with place := p.lineBreak.2, keyAllowed := l.keyAllowed || !l.inFlow }
    else { l with place := p }

/-! ### Directives, names and tags -/

/-- A number of at most nine digits, and the place behind it. -/
def number? (p : Place) : Option (Nat × Place) :=
  let ds := p.rest.takeWhile Char.isDigit
  if 1 ≤ ds.length && ds.length ≤ 9 then
    some (ds.foldl (fun n d => 10 * n + (d.toNat - 48)) 0, p.skipMany ds.length)
  else none

/-- The handle of a tag, with its exclamation marks. -/
def tagHandle? (directive : Bool) (p : Place) : Option (List Char × Place) :=
  match p.rest with
  | '!' :: rest =>
    let name := rest.takeWhile isWordChar
    match rest.drop name.length with
    | '!' :: _ => some ('!' :: name ++ ['!'], p.skipMany (name.length + 2))
    | _ =>
      if directive && !name.isEmpty then none else some ('!' :: name, p.skipMany (name.length + 1))
  | _ => none

/-- A character of the address of a tag.  Commas and brackets may stand in a complete address
only. -/
def isUriChar (complete : Bool) (c : Char) : Bool :=
  isWordChar c || ";/?:@&=+$.!~*\x27()".toList.contains c
    || (complete && (c == ',' || c == '[' || c == ']'))

/-- The byte behind a percent sign. -/
def percentByte? (cs : List Char) : Option (Nat × List Char) :=
  match cs with
  | '%' :: a :: b :: rest => (hexValue? [a, b]).map fun n => (n, rest)
  | _ => none

/-- Further bytes of a character, `n` of them. -/
def moreBytes? : Nat → Nat → List Char → Option (Nat × List Char)
  | 0, value, cs => some (value, cs)
  | n + 1, value, cs => do
    let (b, rest) ← percentByte? cs
    if b / 64 == 2 then moreBytes? n (value * 64 + b % 64) rest else none

/-- A character whose bytes are written behind percent signs. -/
def percentChar? (cs : List Char) : Option (Char × List Char) := do
  let (b, rest) ← percentByte? cs
  let (value, rest) ←
    if b < 128 then some (b, rest)
    else if b / 32 == 6 then moreBytes? 1 (b % 32) rest
    else if b / 16 == 14 then moreBytes? 2 (b % 16) rest
    else if b / 8 == 30 then moreBytes? 3 (b % 8) rest
    else none
  some (Char.ofNat value, rest)

/-- The address of a tag.  `fuel` bounds its length. -/
def uri? (complete : Bool) : Nat → Place → Option (List Char × Place)
  | 0, p => some ([], p)
  | fuel + 1, p =>
    match p.rest with
    | [] => some ([], p)
    | c :: _ =>
      if c == '%' then do
        let (d, rest) ← percentChar? p.rest
        let (more, next) ← uri? complete fuel (p.skipMany (p.rest.length - rest.length))
        some (d :: more, next)
      else if isUriChar complete c then do
        let (more, next) ← uri? complete fuel p.skip
        some (c :: more, next)
      else some ([], p)

/-- A tag: its handle and the rest of it. -/
def readTag? (inFlow : Bool) (p : Place) : Option (List Char × List Char × Place) := do
  let (handle, tail, next) ← (match p.rest with
    | '!' :: '<' :: _ => do
      let (address, next) ← uri? true p.rest.length (p.skipMany 2)
      if address.isEmpty || !next.at? '>' then none else some ([], address, next.skip)
    | _ => do
      let (handle, next) ← tagHandle? false p
      if 2 ≤ handle.length && handle.getLast? == some '!' then
        let (tail, next) ← uri? false p.rest.length next
        if tail.isEmpty then none else some (handle, tail, next)
      else
        let (more, next) ← uri? false p.rest.length next
        let tail := handle.tail ++ more
        if tail.isEmpty then some ([], ['!'], next) else some (['!'], tail, next)
    : Option (List Char × List Char × Place))
  if (inFlow && next.at? ',') || Place.endsWord next.rest then some (handle, tail, next) else none

/-- A directive from behind its percent sign. -/
def directive? (p : Place) : Option (Token × Place) := do
  let name := p.rest.takeWhile isWordChar
  let p := p.skipMany name.length
  if !Place.endsWord p.rest then none
  let p := p.skipWhile isBlank
  let (t, p) ←
    if name == "YAML".toList then do
      let (major, p) ← number? p
      if !p.at? '.' then none
      let (minor, p) ← number? p.skip
      some (Token.version major minor, p)
    else if name == "TAG".toList then do
      let (handle, p) ← tagHandle? true p
      if !(p.peek.map isBlank).getD false then none
      let p := p.skipWhile isBlank
      let (address, p) ← uri? true p.rest.length p
      if address.isEmpty || !Place.endsWord p.rest then none
      some (Token.tagDirective handle address, p)
    else none
  let p := p.skipWhile isBlank
  let p := if p.at? '#' then p.skipWhile fun c => !isBreak c else p
  if Place.endsLine p.rest then some (t, p.lineBreak.2) else none

/-- The name of an anchor or an alias, from behind its mark. -/
def anchorName? (p : Place) : Option (List Char × Place) :=
  let name := p.rest.takeWhile isWordChar
  let next := p.skipMany name.length
  let ends := match next.rest with
    | [] => true
    | c :: _ => isBlank c || isBreak c || "?:,]\x7d%@\x60".toList.contains c
  if name.isEmpty || !ends then none else some (name, next)

/-! ### One token -/

/-- An opening bracket. -/
def openFlow? (l : Lexer) (t : Token) : Option Lexer := do
  let l ← l.saveKey?
  some ({ l with flows := none :: l.flows, keyAllowed := true, place := l.place.skip }.push t)

/-- A closing bracket. -/
def closeFlow? (l : Lexer) (t : Token) : Option Lexer := do
  let l ← l.dropKey?
  some ({ l with flows := l.flows.tail, keyAllowed := false, place := l.place.skip }.push t)

/-- The dash of an entry, or the question mark of a key.  Outside of brackets it begins a block. -/
def indicator? (l : Lexer) (block mark : Token) (keyAllowed : Bool) : Option Lexer := do
  if !l.inFlow && !l.keyAllowed then none
  let l := l.roll l.place.column l.tokens.length block
  let l ← l.dropKey?
  some ({ l with keyAllowed, place := l.place.skip }.push mark)

/-- The colon behind a key. -/
def value? (l : Lexer) : Option Lexer :=
  match l.currentKey with
  | some k =>
    let l := (l.insert k.count .key).roll k.column k.count .blockMappingStart
    some ({ l.setKey none with keyAllowed := false, place := l.place.skip }.push .value)
  | none => do
    if !l.inFlow && !l.keyAllowed then none
    let l := l.roll l.place.column l.tokens.length .blockMappingStart
    some ({ l with keyAllowed := !l.inFlow, place := l.place.skip }.push .value)

/-- A token that may begin a key, and the place behind it. -/
def content? (l : Lexer) (read : Place → Option (Token × Place)) : Option Lexer := do
  let l ← l.saveKey?
  let (t, place) ← read l.place
  some ({ l with keyAllowed := false, place }.push t)

/-- The columns that a further line of a scalar has to be indented. -/
def scalarIndent (l : Lexer) : Nat :=
  match l.indent with
  | some n => n + 1
  | none => 0

/-- A plain scalar. -/
def plain? (l : Lexer) : Option Lexer := do
  let l ← l.saveKey?
  let (text, place, broken) ← plainScalar? l.inFlow l.scalarIndent l.place
  some ({ l with keyAllowed := broken, place }.push (.scalar true text))

/-- A scalar between quotes. -/
def quoted? (l : Lexer) (single : Bool) : Option Lexer :=
  l.content? fun p => (quotedScalar? single p.skip).map fun (text, next) =>
    (.scalar false text, next)

/-- A block scalar. -/
def block? (l : Lexer) (literal : Bool) : Option Lexer := do
  let l ← l.dropKey?
  let (text, place) ← blockScalar? literal l.indent l.place.skip
  some ({ l with keyAllowed := true, place }.push (.scalar false text))

/-- The end of the text. -/
def finish? (l : Lexer) : Option Lexer := do
  let l := l.unroll none
  let l ← l.dropKey?
  some (l.push .streamEnd)

/-- A directive or the mark of a document, which ends all blocks. -/
def boundary? (l : Lexer) (read : Place → Option (Token × Place)) : Option Lexer := do
  let l := l.unroll none
  let l ← l.dropKey?
  let (t, place) ← read l.place
  some ({ l with keyAllowed := false, place }.push t)

/-- A character that no plain scalar begins with, unless as `-`, `?` or `:` before a word. -/
def isIndicator (c : Char) : Bool :=
  isBlank c || isBreak c || "-?:,[]\x7b\x7d#&*!|>\x27\"%@\x60".toList.contains c

/-- Reads the token that begins with `c`, followed by `rest`, at the place. -/
def token? (l : Lexer) (c : Char) (rest : List Char) : Option Lexer :=
  let column := l.place.column
  if column == 0 && c == '%' then l.boundary? fun p => directive? p.skip
  else if l.place.atDocumentMark then
    l.boundary? fun p => some (if c == '-' then .documentStart else .documentEnd, p.skipMany 3)
  else if c == '[' then l.openFlow? .flowSequenceStart
  else if c == '\x7b' then l.openFlow? .flowMappingStart
  else if c == ']' then l.closeFlow? .flowSequenceEnd
  else if c == '\x7d' then l.closeFlow? .flowMappingEnd
  else if c == ',' then do
    let l ← l.dropKey?
    some ({ l with keyAllowed := true, place := l.place.skip }.push .flowEntry)
  else if c == '-' && Place.endsWord rest then l.indicator? .blockSequenceStart .blockEntry true
  else if c == '?' && (l.inFlow || Place.endsWord rest) then
    l.indicator? .blockMappingStart .key !l.inFlow
  else if c == ':' && (l.inFlow || Place.endsWord rest) then l.value?
  else if c == '*' then l.content? fun p => (anchorName? p.skip).map fun (n, q) => (.aliasOf n, q)
  else if c == '&' then l.content? fun p => (anchorName? p.skip).map fun (n, q) => (.anchor n, q)
  else if c == '!' then
    l.content? fun p => (readTag? l.inFlow p).map fun (h, t, q) => (.tag h t, q)
  else if c == '|' && !l.inFlow then l.block? true
  else if c == '>' && !l.inFlow then l.block? false
  else if c == '\x27' then l.quoted? true
  else if c == '\x22' then l.quoted? false
  else if !isIndicator c || (c == '-' && !(rest.head?.map isBlank).getD false)
      || (!l.inFlow && (c == '?' || c == ':') && !Place.endsWord rest) then l.plain?
  else none

/-- Reads all tokens.  `fuel` bounds their number. -/
def run? : Nat → Lexer → Option Lexer
  | 0, _ => none
  | fuel + 1, l => do
    let l ← (l.toToken (l.place.rest.length + 1)).dropStale?
    let l := l.unroll (some l.place.column)
    match l.place.rest with
    | [] => l.finish?
    | c :: rest => run? fuel (← l.token? c rest)

end Lexer

/-- The tokens of a text, up to the one for its end. -/
def tokens? (text : List Char) : Option (List Token) :=
  if text.all isReadable then
    (Lexer.run? (text.length + 1) { place := { rest := text } }).map fun l => l.tokens.reverse
  else none

end Folio.Yaml
