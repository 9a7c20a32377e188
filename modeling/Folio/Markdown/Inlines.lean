import Folio.Markdown.Autolink
import Folio.Markdown.Emphasis
import Folio.Markdown.Html
import Folio.Markdown.Reference

/-!
# Reading inline content

The text of a paragraph, a heading or a cell is read from left to right.  Code, HTML, references
and line breaks are complete when they are read; a bracket waits for its partner, and emphasis is
found last, within each link and in the rest of the text.

## Main definitions

* `InlineContext` — what the reading depends on beside the text.
* `InlineReader` — the text that has been read.
* `readInlines` — the inline content of a text.
-/

namespace Folio.Markdown

/-- What the reading of a text depends on. -/
structure InlineContext where
  /-- The targets of the labels. -/
  definitions : Definitions
  /-- The text is a cell of a table. -/
  inTable : Bool := false

/-- What has been read of a text. -/
structure InlineReader where
  /-- The complete pieces, last first. -/
  pieces : List Piece := []
  /-- The characters of the text being read, last first. -/
  pending : List Char := []
  /-- The last character that was read. -/
  previous : Option Char := none

namespace InlineReader

/-- Completes the text being read. -/
def flush (r : InlineReader) : InlineReader :=
  if r.pending.isEmpty then r
  else
    { r with
      pieces := .node (.text (String.ofList r.pending.reverse)) :: r.pieces
      pending := [] }

/-- Adds a character to the text being read. -/
def literal (r : InlineReader) (c : Char) : InlineReader :=
  { r with pending := c :: r.pending, previous := some c }

/-- Adds characters to the text being read. -/
def literals (r : InlineReader) (cs : List Char) : InlineReader :=
  cs.foldl literal r

/-- Adds a complete piece that ends with the character `last`. -/
def add (r : InlineReader) (piece : Piece) (last : Char) : InlineReader :=
  let r := r.flush
  { r with pieces := piece :: r.pieces, previous := some last }

/-- Adds a line break.  Two blanks at the end of the line make it a hard one. -/
def lineBreak (r : InlineReader) (backslash : Bool) : InlineReader :=
  let text := r.pending.dropWhile isLineSpace
  let hard := backslash || text.length + 2 ≤ r.pending.length
  let r := if backslash then r else { r with pending := text }
  r.add (.node (if hard then .hardBreak else .softBreak)) '\n'

/-- All pieces in order; blank space at the end of the text is dropped. -/
def finish (r : InlineReader) : List Piece :=
  ({ r with pending := r.pending.dropWhile isLineSpace }.flush).pieces.reverse

end InlineReader

/-- The code up to a run of exactly `n` backquotes, and what follows it.  `fuel` bounds the length
of the text. -/
def codeUntil? (n : Nat) : Nat → List Char → Option (List Char × List Char)
  | 0, _ => none
  | _, [] => none
  | fuel + 1, c :: cs =>
    if c == '\x60' then
      let run := (c :: cs).takeWhile (· == '\x60')
      let after := (c :: cs).drop run.length
      if run.length == n then some ([], after)
      else (codeUntil? n fuel after).map fun (code, rest) => (run ++ code, rest)
    else (codeUntil? n fuel cs).map fun (code, rest) => (c :: code, rest)

/-- The text of a code span: line endings become blanks, and one blank at either end is dropped
unless all is blank. -/
def codeText (inTable : Bool) (cs : List Char) : String :=
  let cs := if inTable then unescapeBars cs else cs
  let cs := cs.map fun c => if c == '\n' then ' ' else c
  let padded := cs.head? == some ' ' && cs.getLast? == some ' ' && cs.any (· != ' ')
  String.ofList (if padded then cs.tail.dropLast else cs)

/-- The pieces inside the innermost bracket, last first, the bracket, and the pieces before it. -/
def splitAtBracket :
    List Piece → Option (List Piece × (Bool × Bool × List Char) × List Piece)
  | [] => none
  | .bracket image enabled source :: before => some ([], (image, enabled, source), before)
  | p :: ps => (splitAtBracket ps).map fun (inside, b, before) => (p :: inside, b, before)

/-- Within a link there are no links: the brackets before it open images only. -/
def disableLinks (pieces : List Piece) : List Piece :=
  pieces.map fun p => match p with
    | .bracket false _ source => .bracket false false source
    | p => p

/-- The target that follows a closing bracket, or that the text inside the brackets names, and
what follows it.  `source` is the text behind the opening bracket. -/
def targetAfter? (ctx : InlineContext) (source rest : List Char) : Option (Target × List Char) :=
  let inline := match rest with
    | '(' :: inside => inlineTarget? ctx.inTable inside
    | _ => none
  let named (after : List Char) : Option (Target × List Char) :=
    match linkLabel? ctx.inTable source with
    | some (label, behind) =>
      if behind.length == rest.length then
        (ctx.definitions.find? label).map fun target => (target, after)
      else none
    | none => none
  match inline with
  | some found => some found
  | none =>
    match rest with
    | '[' :: ']' :: after => named after
    | '[' :: inside =>
      match linkLabel? ctx.inTable inside with
      | some (label, after) =>
        (ctx.definitions.find? label).map fun target => (target, after)
      | none => named rest
    | _ => named rest

/-- Reads a closing bracket that is followed by `rest`. -/
def InlineReader.closeBracket (ctx : InlineContext) (r : InlineReader) (rest : List Char) :
    InlineReader × List Char :=
  let r := r.flush
  match splitAtBracket r.pieces with
  | none => (r.literal ']', rest)
  | some (inside, (image, enabled, source), before) =>
    match if enabled then targetAfter? ctx source rest else none with
    | some (target, after) =>
      let body := resolveEmphasis inside.reverse
      let node := if image then Inline.image target body else Inline.link target body
      ({ r with
          pieces := .node node :: (if image then before else disableLinks before)
          previous := some ')' }, after)
    | none =>
      let opener := Piece.node (.text (if image then "![" else "["))
      ({ r with pieces := inside ++ opener :: before }.literal ']', rest)

/-- Reads what begins with `<` and is followed by `rest`. -/
def InlineReader.angle (r : InlineReader) (rest : List Char) : InlineReader × List Char :=
  match autolink? rest with
  | some (address, after) =>
    let text := String.ofList address
    (r.add (.node (.link ⟨text, ""⟩ [.text text])) '>', after)
  | none =>
    match inlineHtml? rest with
    | some after =>
      let source := rest.take (rest.length - after.length)
      (r.add (.node (.html (String.ofList ('<' :: source)))) '>', after)
    | none => (r.literal '<', rest)

/-- Reads what begins with a backslash and is followed by `rest`. -/
def InlineReader.backslash (ctx : InlineContext) (r : InlineReader) (rest : List Char) :
    InlineReader × List Char :=
  match ctx.inTable, rest with
  | true, '\\' :: '|' :: after => (r.literal '|', after)
  | _, c :: after =>
    if c == '\n' then (r.lineBreak true, after.dropWhile fun d => d == ' ' || d == '\t')
    else if isAsciiPunctuation c then (r.literal c, after)
    else (r.literal '\\', rest)
  | _, [] => (r.literal '\\', [])

/-- Reads one construct that begins with `c` and is followed by `rest`. -/
def InlineReader.step (ctx : InlineContext) (r : InlineReader) (c : Char) (rest : List Char) :
    InlineReader × List Char :=
  if c == '\n' then (r.lineBreak false, rest.dropWhile fun d => d == ' ' || d == '\t')
  else if c == '\\' then r.backslash ctx rest
  else if c == '\x60' then
    let run := (c :: rest).takeWhile (· == '\x60')
    let after := (c :: rest).drop run.length
    match codeUntil? run.length after.length after with
    | some (code, behind) => (r.add (.node (.code (codeText ctx.inTable code))) '\x60', behind)
    | none => (r.literals run, after)
  else if c == '<' then r.angle rest
  else if c == '!' && rest.head? == some '[' then
    (r.add (.bracket true true rest.tail) '[', rest.tail)
  else if c == '[' then (r.add (.bracket false true rest) '[', rest)
  else if c == ']' then r.closeBracket ctx rest
  else if c == '&' then
    match entity? rest with
    | some (value, after) => (r.add (.node (.text (String.ofList value))) ';', after)
    | none => (r.literal c, rest)
  else if c == '*' || c == '_' || c == '~' then
    let run := (c :: rest).takeWhile (· == c)
    let after := (c :: rest).drop run.length
    let n := run.length
    let opens := canOpen c n r.previous after.head?
    let closes := canClose c n r.previous after.head?
    if (opens || closes) && (c != '~' || n ≤ 2) then (r.add (.run c n opens closes) c, after)
    else (r.literals run, after)
  else (r.literal c, rest)

/-- Reads a text.  `fuel` bounds its length. -/
def readPieces (ctx : InlineContext) : Nat → InlineReader → List Char → List Piece
  | 0, r, _ => r.finish
  | _, r, [] => r.finish
  | fuel + 1, r, c :: rest =>
    let (r, rest) := r.step ctx c rest
    readPieces ctx fuel r rest

/-- The inline content of a text. -/
def readInlines (ctx : InlineContext) (cs : List Char) : List Inline :=
  resolveEmphasis (readPieces ctx cs.length {} cs)

end Folio.Markdown
