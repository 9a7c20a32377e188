/-!
# Places in a YAML text

The structure of a YAML text depends on columns and lines, so reading it means moving a place that
knows both.

## Main definitions

* `Place` — a place in a text, with what follows it.
* `isBreak`, `isBlank`, `isWordChar` — classes of characters.
* `isReadable` — the characters that may stand in a text.
-/

namespace Folio.Yaml

/-- A line break. -/
def isBreak (c : Char) : Bool :=
  c == '\n' || c == '\r' || c.toNat == 0x85 || c.toNat == 0x2028 || c.toNat == 0x2029

/-- A blank or a tab. -/
def isBlank (c : Char) : Bool := c == ' ' || c == '\t'

/-- A character of a name. -/
def isWordChar (c : Char) : Bool := c.isAlphanum || c == '_' || c == '-'

/-- A character that may stand in a text. -/
def isReadable (c : Char) : Bool :=
  let n := c.toNat
  n == 9 || n == 10 || n == 13 || (0x20 ≤ n && n ≤ 0x7E) || n == 0x85
    || (0xA0 ≤ n && n ≤ 0xFFFD && n != 0xFEFF) || 0x10000 ≤ n

/-- A place in a text. -/
structure Place where
  /-- What follows. -/
  rest : List Char
  /-- The number of characters before. -/
  index : Nat := 0
  /-- The number of lines before. -/
  line : Nat := 0
  /-- The number of characters before in the line. -/
  column : Nat := 0
  deriving Repr, Inhabited

namespace Place

/-- The next character. -/
def peek (p : Place) : Option Char := p.rest.head?

/-- The next character is `c`. -/
def at? (p : Place) (c : Char) : Bool := p.rest.head? == some c

/-- A blank, a line break or the end of the text follows. -/
def endsWord (cs : List Char) : Bool :=
  match cs with
  | [] => true
  | c :: _ => isBlank c || isBreak c

/-- A line break or the end of the text follows. -/
def endsLine (cs : List Char) : Bool :=
  match cs with
  | [] => true
  | c :: _ => isBreak c

/-- Moves over one character that is no line break. -/
def skip (p : Place) : Place :=
  { p with rest := p.rest.tail, index := p.index + 1, column := p.column + 1 }

/-- Moves over `n` characters that are no line breaks. -/
def skipMany (p : Place) (n : Nat) : Place :=
  { p with rest := p.rest.drop n, index := p.index + n, column := p.column + n }

/-- Moves over the characters at the beginning of the text that satisfy a test, none of which is a
line break. -/
def skipWhile (p : Place) (test : Char → Bool) : Place :=
  p.skipMany (p.rest.takeWhile test).length

/-- Moves over a line break, which is kept as one character; most kinds are kept as a newline. -/
def lineBreak (p : Place) : List Char × Place :=
  match p.rest with
  | '\r' :: '\n' :: rest => (['\n'], ⟨rest, p.index + 2, p.line + 1, 0⟩)
  | c :: rest =>
    let kept := if c.toNat == 0x2028 || c.toNat == 0x2029 then c else '\n'
    ([kept], ⟨rest, p.index + 1, p.line + 1, 0⟩)
  | [] => ([], p)

/-- The line begins with three dashes or three points that end a word. -/
def atDocumentMark (p : Place) : Bool :=
  p.column == 0 && match p.rest with
    | '-' :: '-' :: '-' :: rest => endsWord rest
    | '.' :: '.' :: '.' :: rest => endsWord rest
    | _ => false

end Place

end Folio.Yaml
