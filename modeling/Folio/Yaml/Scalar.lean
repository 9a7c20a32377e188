import Folio.Yaml.Place

/-!
# Scalars

A scalar is written plainly, between quotes, or as a block of indented lines.  A single line break
within the first two counts as a blank, further ones are kept.

## Main definitions

* `Gap` — the blank space between two words.
* `plainScalar?`, `quotedScalar?`, `blockScalar?` — the three forms.
-/

namespace Folio.Yaml

/-- The blank space between two words of a scalar. -/
structure Gap where
  /-- The blanks before the first line break. -/
  blanks : List Char := []
  /-- The first line break. -/
  first : List Char := []
  /-- The other line breaks. -/
  others : List Char := []
  /-- There is a line break. -/
  broken : Bool := false
  deriving Repr, Inhabited

namespace Gap

/-- What stands for the gap in the value of the scalar. -/
def text (g : Gap) : List Char :=
  if !g.broken then g.blanks
  else if g.first == ['\n'] then (if g.others.isEmpty then [' '] else g.others)
  else g.first ++ g.others

/-- Moves over blanks and line breaks.  A tab must not stand in the indentation of a line, before
the column `indent`.  `fuel` bounds the length of the text. -/
def read? (indent : Nat) : Nat → Gap → Place → Option (Gap × Place)
  | 0, g, p => some (g, p)
  | fuel + 1, g, p =>
    match p.peek with
    | none => some (g, p)
    | some c =>
      if isBlank c then
        if g.broken && c == '\t' && p.column < indent then none
        else
          let g := if g.broken then g else { g with blanks := g.blanks ++ [c] }
          read? indent fuel g p.skip
      else if isBreak c then
        let (kept, next) := p.lineBreak
        let g : Gap :=
          if g.broken then { g with others := g.others ++ kept }
          else { first := kept, broken := true }
        read? indent fuel g next
      else some (g, p)

end Gap

/-! ### Plain scalars -/

/-- A bracket or a comma, which ends a plain scalar within brackets. -/
def isFlowMark (c : Char) : Bool :=
  c == ',' || c == '[' || c == ']' || c == '\x7b' || c == '\x7d'

/-- The characters of a plain scalar up to a blank, and what ends it.  Within brackets a colon must
not stand before a bracket, a comma or a question mark. -/
def plainWord? (flow : Bool) : List Char → Option (List Char)
  | [] => some []
  | c :: cs =>
    if isBlank c || isBreak c then some []
    else
      let next := cs.head?
      if flow && c == ':' && (next.map fun d => isFlowMark d || d == '?').getD false then none
      else if (c == ':' && Place.endsWord cs) || (flow && isFlowMark c) then some []
      else (plainWord? flow cs).map (c :: ·)

/-- Reads the words of a plain scalar.  `gap` is the space before the next word and `text` what
has been read, in reverse.  The value, the place behind the scalar and whether a line break has
been passed last are returned. -/
def plainWords? (flow : Bool) (indent : Nat) :
    Nat → List Char → Gap → Place → Option (List Char × Place × Bool)
  | 0, text, g, p => some (text.reverse, p, g.broken)
  | fuel + 1, text, g, p =>
    if p.atDocumentMark || p.at? '#' then some (text.reverse, p, g.broken)
    else do
      let word ← plainWord? flow p.rest
      let next := p.skipMany word.length
      let (text, g) :=
        if word.isEmpty then (text, g) else (word.reverse ++ g.text.reverse ++ text, {})
      let blankFollows := match next.peek with
        | some c => isBlank c || isBreak c
        | none => false
      if !blankFollows then some (text.reverse, next, g.broken)
      else
        let (g, next) ← Gap.read? indent (next.rest.length + 1) g next
        if !flow && next.column < indent then some (text.reverse, next, g.broken)
        else plainWords? flow indent fuel text g next

/-- A plain scalar, in brackets or not, whose further lines are indented by at least `indent`. -/
def plainScalar? (flow : Bool) (indent : Nat) (p : Place) :
    Option (List Char × Place × Bool) :=
  plainWords? flow indent (p.rest.length + 1) [] {} p

/-! ### Quoted scalars -/

/-- The value of a digit to base 16. -/
def hexDigit? (c : Char) : Option Nat :=
  if c.isDigit then some (c.toNat - 48)
  else if 'a' ≤ c && c ≤ 'f' then some (c.toNat - 87)
  else if 'A' ≤ c && c ≤ 'F' then some (c.toNat - 55)
  else none

/-- The value of digits to base 16. -/
def hexValue? (cs : List Char) : Option Nat :=
  (cs.mapM hexDigit?).map fun ds => ds.foldl (fun n d => 16 * n + d) 0

/-- The character of a code point that is given by `n` digits to base 16. -/
def coded? (n : Nat) (cs : List Char) : Option Char :=
  if cs.length < n then none
  else (hexValue? (cs.take n)).bind fun v => if v.isValidChar then some (Char.ofNat v) else none

/-- The character that an escape stands for, from behind its backslash, and the number of
characters behind the letter of the escape that belong to it. -/
def escape? (c : Char) (rest : List Char) : Option (Char × Nat) :=
  if c == 'x' then (coded? 2 rest).map (·, 2)
  else if c == 'u' then (coded? 4 rest).map (·, 4)
  else if c == 'U' then (coded? 8 rest).map (·, 8)
  else
    let table : List (Char × Nat) :=
      [('0', 0), ('a', 7), ('b', 8), ('t', 9), ('\t', 9), ('n', 10), ('v', 11), ('f', 12),
        ('r', 13), ('e', 0x1B), (' ', 0x20), ('\x22', 0x22), ('/', 0x2F), ('\\', 0x5C),
        ('N', 0x85), ('_', 0xA0), ('L', 0x2028), ('P', 0x2029)]
    (table.lookup c).map fun n => (Char.ofNat n, 0)

/-- What a word of a quoted scalar ends with. -/
inductive WordEnd where
  /-- The closing quote, a blank or the end of the text. -/
  | plain
  /-- A backslash before a line break. -/
  | continued
  deriving DecidableEq

/-- The characters of a quoted scalar up to a blank or the closing quote, the place behind them,
and what ends them. -/
def quotedWord? (single : Bool) :
    Nat → List Char → Place → Option (List Char × Place × WordEnd)
  | 0, text, p => some (text, p, .plain)
  | fuel + 1, text, p =>
    match p.rest with
    | [] => some (text, p, .plain)
    | c :: rest =>
      if isBlank c || isBreak c then some (text, p, .plain)
      else if single then
        if c == '\x27' then
          if rest.head? == some '\x27' then quotedWord? single fuel ('\x27' :: text) (p.skipMany 2)
          else some (text, p, .plain)
        else quotedWord? single fuel (c :: text) p.skip
      else if c == '\x22' then some (text, p, .plain)
      else if c == '\\' then
        match rest with
        | [] => none
        | d :: after =>
          if isBreak d then some (text, p.skip.lineBreak.2, .continued)
          else
            match escape? d after with
            | some (e, n) => quotedWord? single fuel (e :: text) (p.skipMany (2 + n))
            | none => none
      else quotedWord? single fuel (c :: text) p.skip

/-- Reads the words of a quoted scalar up to its closing quote. -/
def quotedWords? (single : Bool) : Nat → List Char → Place → Option (List Char × Place)
  | 0, _, _ => none
  | fuel + 1, text, p =>
    if p.atDocumentMark || p.rest.isEmpty then none
    else do
      let (text, next, wordEnd) ← quotedWord? single (p.rest.length + 1) text p
      if wordEnd == .plain && next.at? (if single then '\x27' else '\x22') then
        some (text.reverse, next.skip)
      else
        let start : Gap := { broken := wordEnd == .continued }
        let (g, next) ← Gap.read? 0 (next.rest.length + 1) start next
        quotedWords? single fuel (g.text.reverse ++ text) next

/-- A scalar between quotes, from behind the opening one. -/
def quotedScalar? (single : Bool) (p : Place) : Option (List Char × Place) :=
  quotedWords? single (p.rest.length + 1) [] p

/-! ### Block scalars -/

/-- What happens to the line breaks at the end of a block scalar. -/
inductive Chomping where
  /-- All are dropped. -/
  | strip
  /-- One is kept. -/
  | clip
  /-- All are kept. -/
  | keep
  deriving DecidableEq

/-- The header of a block scalar: its chomping and its indentation, if given.  The two may stand
in either order. -/
def blockHeader? (p : Place) : Option (Chomping × Option Nat × Place) :=
  let chomping? (p : Place) : Option Chomping :=
    if p.at? '+' then some .keep else if p.at? '-' then some .strip else none
  let digit? (p : Place) : Option Nat := p.peek.bind fun c =>
    if c.isDigit then some (c.toNat - 48) else none
  match chomping? p with
  | some chomping =>
    match digit? p.skip with
    | some n => if n == 0 then none else some (chomping, some n, p.skip.skip)
    | none => some (chomping, none, p.skip)
  | none =>
    match digit? p with
    | some n =>
      if n == 0 then none
      else match chomping? p.skip with
        | some chomping => some (chomping, some n, p.skip.skip)
        | none => some (.clip, some n, p.skip)
    | none => some (.clip, none, p)

/-- Moves over blank lines and the indentation of the next line.  As long as the indentation of the
scalar is not known, the deepest one that is seen is returned.  A tab must not stand in it. -/
def blockBreaks? (indent : Option Nat) :
    Nat → Nat → List Char → Place → Option (Nat × List Char × Place)
  | 0, deepest, breaks, p => some (deepest, breaks, p)
  | fuel + 1, deepest, breaks, p =>
    let wanted := match indent with
      | some n => (p.rest.takeWhile (· == ' ')).length.min (n - p.column)
      | none => (p.rest.takeWhile (· == ' ')).length
    let p := p.skipMany wanted
    let deepest := max deepest p.column
    let inIndent : Bool := match indent with
      | some n => decide (p.column < n)
      | none => true
    match p.peek with
    | none => some (deepest, breaks, p)
    | some c =>
      if inIndent && c == '\t' then none
      else if isBreak c then
        let (kept, next) := p.lineBreak
        blockBreaks? indent fuel deepest (breaks ++ kept) next
      else some (deepest, breaks, p)

/-- What has been read of a block scalar. -/
structure BlockText where
  /-- The value so far, in reverse. -/
  text : List Char := []
  /-- The break of the last line. -/
  leading : List Char := []
  /-- The blank lines after it. -/
  trailing : List Char := []
  /-- The last line began with a blank. -/
  afterBlank : Bool := false

/-- The value with the breaks before the next line. -/
def BlockText.joined (b : BlockText) (literal beginsBlank : Bool) : List Char :=
  let folded := !literal && b.leading == ['\n'] && !b.afterBlank && !beginsBlank
  let breaks :=
    if folded then (if b.trailing.isEmpty then [' '] else b.trailing)
    else b.leading ++ b.trailing
  breaks.reverse ++ b.text

/-- Reads the lines of a block scalar that are indented by `indent`. -/
def blockLines? (literal : Bool) (indent : Nat) :
    Nat → BlockText → Place → Option (BlockText × Place)
  | 0, b, p => some (b, p)
  | fuel + 1, b, p =>
    match p.peek with
    | none => some (b, p)
    | some c =>
      if p.column != indent then some (b, p)
      else do
        let beginsBlank := isBlank c
        let before := b.joined literal beginsBlank
        let line := p.rest.takeWhile fun c => !isBreak c
        let (leading, next) := (p.skipMany line.length).lineBreak
        let (_, trailing, next) ← blockBreaks? (some indent) (next.rest.length + 1) 0 [] next
        blockLines? literal indent fuel
          { text := line.reverse ++ before, leading, trailing, afterBlank := beginsBlank } next

/-- A block scalar from behind its mark, within a block that is indented by `parent`, or within
none. -/
def blockScalar? (literal : Bool) (parent : Option Nat) (p : Place) :
    Option (List Char × Place) := do
  let (chomping, given, p) ← blockHeader? p
  let p := p.skipWhile isBlank
  let p := if p.at? '#' then p.skipWhile fun c => !isBreak c else p
  if !Place.endsLine p.rest then none
  else
    let p := p.lineBreak.2
    let known := given.map fun n => parent.getD 0 + n
    let (deepest, breaks, p) ← blockBreaks? known (p.rest.length + 1) 0 [] p
    let least := match parent with
      | some n => n + 1
      | none => 0
    let indent := known.getD (max 1 (max deepest least))
    let (b, p) ← blockLines? literal indent (p.rest.length + 1) { trailing := breaks } p
    let ending := match chomping with
      | .strip => []
      | .clip => b.leading
      | .keep => b.leading ++ b.trailing
    some (b.text.reverse ++ ending, p)

end Folio.Yaml
