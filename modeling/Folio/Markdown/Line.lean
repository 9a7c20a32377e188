/-!
# Lines

A document is a list of lines, and a block reader moves over the columns of one line at a time.
A tab reaches to the next multiple of four columns and may be used up in part.

## Main definitions

* `Line`, `splitLines` — the lines of a text.
* `Cursor` — a place in a line.
* `Cursor.spaces` — moves over columns of blank space.
* `isBlankLine` — a line without content.
-/

namespace Folio.Markdown

/-- How a line ends. -/
inductive LineEnding where
  /-- With the text. -/
  | none
  | lf
  | crlf
  | cr
  deriving DecidableEq, Repr, Inhabited

/-- One line of a text. -/
structure Line where
  /-- The characters before the ending. -/
  text : List Char
  /-- How the line ends. -/
  ending : LineEnding
  deriving Repr, Inhabited

/-- The ending as it stands in a code block, where a pair of characters counts as one. -/
def LineEnding.literal : LineEnding → List Char
  | .none => []
  | .lf => ['\n']
  | .crlf => ['\n']
  | .cr => ['\r']

/-- The lines of a text, the first of which began with `text`, given in reverse. -/
def splitLinesFrom (text : List Char) : List Char → List Line
  | [] => if text.isEmpty then [] else [⟨text.reverse, .none⟩]
  | '\r' :: '\n' :: rest => ⟨text.reverse, .crlf⟩ :: splitLinesFrom [] rest
  | '\n' :: rest => ⟨text.reverse, .lf⟩ :: splitLinesFrom [] rest
  | '\r' :: rest => ⟨text.reverse, .cr⟩ :: splitLinesFrom [] rest
  | c :: rest => splitLinesFrom (c :: text) rest

/-- The lines of a text.  A text that ends with a line ending has no line after it. -/
def splitLines (text : List Char) : List Line := splitLinesFrom [] text

/-- A character that counts as blank within a line. -/
def isLineSpace (c : Char) : Bool :=
  c == ' ' || c == '\t' || c == '\x0b' || c == '\x0c'

/-- A line without content. -/
def isBlankLine (text : List Char) : Bool := text.all isLineSpace

/-- The text without blanks at either end. -/
def trimLine (text : List Char) : List Char :=
  ((text.dropWhile isLineSpace).reverse.dropWhile isLineSpace).reverse

/-- An ASCII punctuation character, which a backslash makes literal. -/
def isAsciiPunctuation (c : Char) : Bool :=
  0x20 < c.toNat && c.toNat < 0x7f && !c.isAlphanum

/-- A place in a line. -/
structure Cursor where
  /-- The column of the next character. -/
  column : Nat
  /-- The columns of the last tab that are still to be used. -/
  owed : Nat
  /-- The characters that follow. -/
  rest : List Char
  deriving Repr, Inhabited

namespace Cursor

/-- The beginning of a line. -/
def start (text : List Char) : Cursor := ⟨0, 0, text⟩

/-- Moves over at most `n` columns of blank space, and tells how many are missing. -/
def skipColumns (n column : Nat) : List Char → Nat × Cursor
  | [] => (n, ⟨column, 0, []⟩)
  | c :: cs =>
    if n == 0 then (0, ⟨column, 0, c :: cs⟩)
    else if c == ' ' then skipColumns (n - 1) (column + 1) cs
    else if c == '\t' then
      let width := 4 - column % 4
      if width ≤ n then skipColumns (n - width) (column + width) cs
      else (0, ⟨column + width, width - n, cs⟩)
    else (n, ⟨column, 0, c :: cs⟩)

/-- Moves over at most `n` columns of blank space, and tells how many there were. -/
def spaces (cur : Cursor) (n : Nat) : Nat × Cursor :=
  if n ≤ cur.owed then (n, { cur with owed := cur.owed - n })
  else
    let (missing, next) := skipColumns (n - cur.owed) cur.column cur.rest
    (n - missing, next)

/-- Moves over a character that is not blank. -/
def char (cur : Cursor) (c : Char) : Option Cursor :=
  match cur.rest with
  | d :: ds => if d == c then some ⟨cur.column + 1, cur.owed, ds⟩ else none
  | [] => none

/-- Nothing follows in the line. -/
def atEnd (cur : Cursor) : Bool := cur.rest.isEmpty

/-- Moves over all blank space. -/
def allSpaces (cur : Cursor) : List Char :=
  cur.rest.dropWhile fun c => c == ' ' || c == '\t'

/-- Moves over the mark of a block quote and one column of space behind it. -/
def quoteMark? (cur : Cursor) : Option Cursor :=
  (cur.char '>').map fun next => (next.spaces 1).2

/-- The rest of the line, with the columns of a tab that is used up in part as blanks. -/
def literal (cur : Cursor) : List Char :=
  List.replicate cur.owed ' ' ++ cur.rest

end Cursor

end Folio.Markdown
