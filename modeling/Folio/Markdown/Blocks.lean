import Folio.Markdown.Inlines
import Folio.Markdown.Table

/-!
# Reading blocks

The lines of a document are read from first to last.  A line first passes the containers that are
open, which are block quotes and lists with their current items, then opens new ones, and what is
left of it begins a leaf block: code, HTML, a heading, a table, a paragraph and so on.  A leaf
takes as many of the following lines as belong to it.

## Main definitions

* `RawText` — inline content that is still to be read.
* `Container` — a block quote or a list that is open.
* `BlockReader` — what has been read of a document.
* `BlockReader.step` — reads the lines of one leaf block.
* `readDocument` — the blocks of a text.
-/

namespace Folio.Markdown

/-- Inline content that is still to be read, since the link targets of the whole document have to
be known first. -/
structure RawText where
  /-- The text. -/
  text : List Char
  /-- The box of a task that stands before the text. -/
  task : Option Bool := none
  /-- The text is a cell of a table. -/
  inTable : Bool := false
  deriving Repr, Inhabited

/-- The inline content of a text. -/
def RawText.read (definitions : Definitions) (raw : RawText) : List Inline :=
  let body := readInlines { definitions, inTable := raw.inTable } raw.text
  match raw.task with
  | some checked => .taskMarker checked :: body
  | none => body

/-- Blocks whose inline content is still to be read. -/
abbrev RawBlock := Block RawText

/-- A list that is open. -/
structure OpenList where
  /-- No blank line has been seen between its blocks. -/
  tight : Bool
  /-- The bullet, or the character behind the numbers. -/
  mark : Char
  /-- The first number. -/
  start : Option Nat
  /-- The items that are complete, last first. -/
  items : List (List RawBlock)

/-- An item of a list that is open. -/
structure OpenItem where
  /-- The columns that a line of the item is indented. -/
  indent : Nat
  /-- The blocks that are complete, last first. -/
  body : List RawBlock

/-- A container that is open. -/
inductive Container where
  | quote (body : List RawBlock)
  /-- A list, and its current item.  A list without one is waiting for the next. -/
  | list (list : OpenList) (item : Option OpenItem)

/-- What has been read of a document. -/
structure BlockReader where
  /-- The complete blocks outside of all open containers, last first. -/
  base : List RawBlock := []
  /-- The open containers, innermost first. -/
  containers : List Container := []
  /-- The last line was blank. -/
  afterBlank : Bool := false
  /-- The last line began an item without content. -/
  emptyItem : Bool := false
  /-- The box of a task that belongs to the next paragraph. -/
  task : Option Bool := none
  /-- The link targets that have been defined. -/
  definitions : Definitions := []

/-- A paragraph of a list without blank lines is plain. -/
def Block.tighten {ι : Type} : Block ι → Block ι
  | .paragraph body => .plain body
  | b => b

/-- The complete list. -/
def OpenList.toBlock (l : OpenList) : RawBlock :=
  let items := l.items.reverse
  .list l.start (if l.tight then items.map (·.map Block.tighten) else items)

/-- The list with one more complete item. -/
def OpenList.close (l : OpenList) (item : OpenItem) : OpenList :=
  { l with items := item.body.reverse :: l.items }

/-- The complete block of a container. -/
def Container.toBlock : Container → RawBlock
  | .quote body => .blockquote body.reverse
  | .list l none => l.toBlock
  | .list l (some item) => (l.close item).toBlock

/-- How many of the containers, outermost first, a line continues, and the place behind their
marks. -/
def continueContainers : List Container → Cursor → Nat × Cursor
  | [], cur => (0, cur)
  | .quote _ :: inner, cur =>
    match (cur.spaces 3).2.quoteMark? with
    | some next =>
      let (n, place) := continueContainers inner next
      (n + 1, place)
    | none => (0, cur)
  | .list _ none :: inner, cur =>
    let (n, place) := continueContainers inner cur
    (n + 1, place)
  | .list _ (some item) :: inner, cur =>
    let (found, next) := cur.spaces item.indent
    if found == item.indent || next.atEnd then
      let (n, place) := continueContainers inner next
      (n + 1, place)
    else (0, cur)

namespace BlockReader

/-- Adds a complete block to the innermost container. -/
def add (r : BlockReader) (b : RawBlock) : BlockReader :=
  match r.containers with
  | [] => { r with base := b :: r.base }
  | .quote body :: outer => { r with containers := .quote (b :: body) :: outer }
  | .list l (some item) :: outer =>
    { r with containers := .list l (some { item with body := b :: item.body }) :: outer }
  | .list l none :: outer =>
    { r with containers := .list l (some ⟨0, [b]⟩) :: outer }

/-- Closes the innermost container. -/
def closeContainer (r : BlockReader) : BlockReader :=
  match r.containers with
  | [] => r
  | c :: outer =>
    let emptyItem := match c with
      | .list l _ => r.emptyItem && !l.tight
      | .quote _ => r.emptyItem
    { r with containers := outer, emptyItem }.add c.toBlock

/-- Closes the current item of the innermost container; a block quote is closed altogether. -/
def closeItem (r : BlockReader) : BlockReader :=
  match r.containers with
  | .list l (some item) :: outer => { r with containers := .list (l.close item) none :: outer }
  | .quote _ :: _ => r.closeContainer
  | _ => r

/-- Closes containers until `n` are left that the line continues. -/
def retain (r : BlockReader) (n : Nat) : BlockReader :=
  if r.containers.length ≤ n then r
  else (Nat.repeat closeContainer (r.containers.length - n - 1) r).closeItem

/-- Whether a line continues all open containers, and the place behind their marks. -/
def continued (r : BlockReader) (line : Line) : Bool × Cursor :=
  let (n, cur) := continueContainers r.containers.reverse (.start line.text)
  (n == r.containers.length, cur)

/-- An item without content ends at a blank line. -/
def finishEmptyItem (r : BlockReader) : BlockReader :=
  let r := if r.emptyItem && r.afterBlank then
      match r.containers with
      | .list _ (some _) :: _ => r.closeItem
      | _ => r
    else r
  { r with emptyItem := false }

/-- The innermost list has a blank line between its blocks. -/
def loosen (r : BlockReader) : BlockReader :=
  match r.containers with
  | .list l item :: outer => { r with containers := .list { l with tight := false } item :: outer }
  | _ => r

/-- Closes a list that waits for its next item, before a block that is no item. -/
def finishList (r : BlockReader) : BlockReader :=
  let r := r.finishEmptyItem
  let r := match r.containers with
    | .list _ none :: _ => r.closeContainer
    | _ => r
  if r.afterBlank then { r.loosen with afterBlank := false } else r

/-- Begins an item, in the list that waits for it if the marks are equal, else in a new one. -/
def beginItem (r : BlockReader) (marker : ListMarker) (indent : Nat) : BlockReader :=
  let item : OpenItem := ⟨indent + marker.width, []⟩
  let r := r.finishEmptyItem
  let begin (r : BlockReader) : BlockReader :=
    let r := r.finishList
    { r with
      containers := .list ⟨true, marker.mark, marker.number, []⟩ (some item) :: r.containers
      afterBlank := false }
  match r.containers with
  | .list l none :: outer =>
    if l.mark == marker.mark then
      { r with
        containers := .list { l with tight := l.tight && !r.afterBlank } (some item) :: outer
        afterBlank := false }
    else begin r
  | _ => begin r

/-- Opens the containers that begin at the cursor.  The place of the content is returned unless a
mark ends the line.  `fuel` bounds the number of containers. -/
def openContainers : Nat → BlockReader → Cursor → BlockReader × Option Cursor
  | 0, r, cur => (r, some cur)
  | fuel + 1, r, cur =>
    let (indent, next) := cur.spaces 4
    if indent == 4 then (r, some cur)
    else match listMarker? next with
      | some (marker, content) =>
        let r := r.beginItem marker indent
        if isBlankLine content.rest then ({ r with emptyItem := true }, none)
        else match taskBox? content with
          | some (checked, behind) =>
            if isBlankLine behind.rest then
              ({ r.add (.plain ⟨[], some checked, false⟩) with emptyItem := true }, none)
            else openContainers fuel { r with task := some checked } behind
          | none => openContainers fuel r content
      | none =>
        match next.quoteMark? with
        | some content =>
          let r := r.finishList
          openContainers fuel { r with containers := .quote [] :: r.containers } content
        | none => (r, some cur)

/-- Reads a blank line. -/
def blankLine (r : BlockReader) : BlockReader :=
  match r.containers with
  | .quote _ :: _ => r
  | .list l (some item) :: outer =>
    if r.emptyItem then
      { r with containers := .list l (some { item with indent := 0 }) :: outer, afterBlank := true }
    else { r with afterBlank := true }
  | _ => { r with afterBlank := true }

/-- The lines of an indented code block behind its first, and the lines after them. -/
def indentedLines (r : BlockReader) : List Line → List (List Char) × List Line
  | [] => ([], [])
  | line :: after =>
    let (all, cur) := r.continued line
    let (n, next) := cur.spaces 4
    if all && (n == 4 || next.atEnd) then
      let (lines, rest) := indentedLines r after
      ((next.literal ++ line.ending.literal) :: lines, rest)
    else ([], line :: after)

/-- Blank space, line endings included. -/
def isBlankText (cs : List Char) : Bool :=
  cs.all fun c => isLineSpace c || c == '\n' || c == '\r'

/-- Reads an indented code block whose first line is `first`.  Blank lines at its end do not
belong to it. -/
def indentedCode (r : BlockReader) (first : List Char) (after : List Line) :
    BlockReader × List Line :=
  let (lines, rest) := r.indentedLines after
  let kept := (lines.reverse.dropWhile isBlankText).reverse
  let source := String.ofList (first ++ kept.flatten)
  ({ r.add (.code none source) with afterBlank := kept.length < lines.length }, rest)

/-- The lines of a metadata block, and the lines after its end. -/
def metadataLines (r : BlockReader) : List Line → List (List Char) × List Line
  | [] => ([], [])
  | line :: after =>
    let (all, cur) := r.continued line
    if !all then ([], line :: after)
    else if endsMetadata line.text then ([], after)
    else
      let (lines, rest) := metadataLines r after
      ((cur.literal ++ line.ending.literal) :: lines, rest)

/-- The lines of a fenced code block, and the lines after its end. -/
def fencedLines (r : BlockReader) (mark : Char) (length indent : Nat) :
    List Line → List (List Char) × List Line
  | [] => ([], [])
  | line :: after =>
    let (all, cur) := r.continued line
    if !all then ([], line :: after)
    else
      let (_, next) := cur.spaces indent
      let (n, fence) := next.spaces (4 - indent)
      if n < 4 - indent && closesFence mark length fence.rest then ([], after)
      else
        let (lines, rest) := fencedLines r mark length indent after
        ((next.literal ++ line.ending.literal) :: lines, rest)

/-- The lines of a block of HTML up to the line that contains `ending`, and the lines after it. -/
def htmlLinesUntil (r : BlockReader) (ending : List Char) :
    List Line → List (List Char) × List Line
  | [] => ([], [])
  | line :: after =>
    let (all, cur) := r.continued line
    if !all then ([], line :: after)
    else
      let text := cur.literal ++ line.ending.literal
      if (afterFirst? ending cur.rest).isSome then ([text], after)
      else
        let (lines, rest) := htmlLinesUntil r ending after
        (text :: lines, rest)

/-- The lines of a block of HTML up to a blank line, and the lines after them. -/
def htmlLines (r : BlockReader) : List Line → List (List Char) × List Line
  | [] => ([], [])
  | line :: after =>
    let (all, cur) := r.continued line
    if !all || isBlankLine cur.rest then ([], line :: after)
    else
      let (lines, rest) := htmlLines r after
      ((cur.literal ++ line.ending.literal) :: lines, rest)

/-- The alignments of the table that begins with the row `cs`. -/
def tableHead? (r : BlockReader) (cs : List Char) (after : List Line) :
    Option (List Alignment) :=
  match columnCount cs, after with
  | some columns, line :: _ =>
    match r.continued line with
    | (true, cur) =>
      match delimiterRow? cur with
      | some alignments => if alignments.length == columns then some alignments else none
      | none => none
    | _ => none
  | _, _ => none

/-- A line ends a paragraph.  `all` says whether it continues all open containers. -/
def endsParagraph (r : BlockReader) (all : Bool) (cs : List Char) (after : List Line) : Bool :=
  interruptsParagraph all false cs after.head? || (all && (r.tableHead? cs after).isSome)

/-- The lines that continue a paragraph, the level of the heading that it is if it is underlined,
and the lines after it.  Without `underlines` an underline is text. -/
def paragraphLines (r : BlockReader) (underlines : Bool) :
    List Line → List (List Char) × Option Nat × List Line
  | [] => ([], none, [])
  | line :: after =>
    let (all, cur) := r.continued line
    let (n, next) := cur.spaces 4
    let level := if n < 4 && all && underlines then setextLevel? next.rest else none
    match level with
    | some level => ([], some level, after)
    | none =>
      if (n < 4 && r.endsParagraph all next.rest after) || cur.allSpaces.isEmpty then
        ([], none, line :: after)
      else
        let (lines, level, rest) := paragraphLines r underlines after
        (cur.rest :: lines, level, rest)

/-- The body rows of a table, and the lines after them. -/
def tableRows (r : BlockReader) : List Line → List (List Char) × List Line
  | [] => ([], [])
  | line :: after =>
    let (all, cur) := r.continued line
    let cs := cur.allSpaces
    if !all || interruptsParagraph true true cs after.head? then ([], line :: after)
    else
      let (rows, rest) := tableRows r after
      (cs :: rows, rest)

/-- The lines as one text. -/
def joinLines (lines : List (List Char)) : List Char :=
  List.intercalate ['\n'] lines

/-- Reads a paragraph, a heading with an underline or a table, whose first line is `first`. -/
def paragraph (r : BlockReader) (first : List Char) (after : List Line) :
    BlockReader × List Line :=
  match r.tableHead? first after with
  | some alignments =>
    let cells (row : List Char) : List RawText :=
      (rowCells alignments.length row).map fun text => ⟨text, none, true⟩
    let (rows, rest) := r.tableRows after.tail
    ({ r with task := none }.add (.table alignments (cells first) (rows.map cells)), rest)
  | none =>
    let (lines, level, rest) := r.paragraphLines true after
    let body : RawText := ⟨joinLines (first :: lines), r.task, false⟩
    let block : RawBlock := match level with
      | some n => .heading n body
      | none => .paragraph body
    ({ r with task := none }.add block, rest)

/-- Reads the definitions at the beginning of a paragraph, and what follows them in the paragraph.
`fuel` bounds the number of lines. -/
def definitionsOrParagraph : Nat → BlockReader → List Char → List Line →
    BlockReader × List Line
  | 0, r, first, after => r.paragraph first after
  | fuel + 1, r, first, after =>
    let found := match first with
      | '[' :: cs =>
        let (lines, _, _) := r.paragraphLines false after
        (definition? (joinLines (cs :: lines))).map fun (label, target, rest) =>
          (label, target, after.drop (lines.length - rest.count '\n'))
      | _ => none
    match found with
    | none => r.paragraph first after
    | some (label, target, left) =>
      let r := { r with definitions := r.definitions.add label target }
      match left with
      | [] => (r, [])
      | line :: later =>
        let (all, cur) := r.continued line
        let (n, next) := cur.spaces 4
        if (n < 4 && r.endsParagraph all next.rest later) || cur.allSpaces.isEmpty then (r, left)
        else definitionsOrParagraph fuel r next.allSpaces later

/-- The text of a heading without the number signs at its end. -/
def headingText (cs : List Char) : List Char :=
  let dropEnd (p : Char → Bool) (cs : List Char) := (cs.reverse.dropWhile p).reverse
  let text := dropEnd (· == ' ') cs
  let before := dropEnd (· == '#') text
  if before.isEmpty then []
  else if before.getLast? == some ' ' then dropEnd (· == ' ') before
  else text

/-- Reads the leaf block that begins behind `indent` blanks with `cs`.  The first of the lines is
the one that the block begins in. -/
def leaf (r : BlockReader) (indent : Nat) (cs : List Char) (line : Line) (after : List Line) :
    BlockReader × List Line :=
  let html (more : List (List Char) × List Line) : BlockReader × List Line :=
    let first := List.replicate indent ' ' ++ cs ++ line.ending.literal
    (r.add (.html (String.ofList (first ++ more.1.flatten))), more.2)
  let other : BlockReader × List Line :=
    if isThematicBreak cs then (r.add .rule, after)
    else match atxLevel? cs with
      | some level =>
        let text := headingText ((cs.drop level).dropWhile isLineSpace)
        (r.add (.heading level { text }), after)
      | none =>
        match fence? cs with
        | some (mark, length) =>
          let info := trimLine (cs.drop length)
          let (lines, rest) := r.fencedLines mark length indent after
          (r.add (.code (some (String.ofList (unescape false info)))
            (String.ofList lines.flatten)), rest)
        | none => definitionsOrParagraph (after.length + 1) r cs after
  if indent == 0 && beginsMetadata cs after then
    let (lines, rest) := r.metadataLines after
    (r.add (.metadata (String.ofList lines.flatten)), rest)
  else match cs with
    | '<' :: tag =>
      match htmlBlockEnd? tag with
      | some ending =>
        html (if (afterFirst? ending cs).isSome then ([], after)
          else r.htmlLinesUntil ending after)
      | none =>
        if beginsHtmlBlock tag || isLoneTag tag then html (r.htmlLines after) else other
    | _ => other

/-- Reads a line, and the lines after it that belong to the same leaf block. -/
def step (r : BlockReader) (line : Line) (after : List Line) : BlockReader × List Line :=
  let (n, cur) := continueContainers r.containers.reverse (.start line.text)
  match (r.retain n).openContainers (line.text.length + 1) cur with
  | (r, none) => (r, after)
  | (r, some cur) =>
    if isBlankLine cur.rest then (r.blankLine, after)
    else
      let r := r.finishList
      let (indent, next) := cur.spaces 4
      if indent == 4 then r.indentedCode (next.literal ++ line.ending.literal) after
      else r.leaf indent next.rest line after

/-- Reads all lines.  `fuel` bounds their number. -/
def readLines : Nat → BlockReader → List Line → BlockReader
  | fuel + 1, r, line :: after =>
    let (r, rest) := r.step line after
    readLines fuel r rest
  | _, r, _ => r

/-- All blocks, with the containers that are still open closed. -/
def finish (r : BlockReader) : List RawBlock :=
  (Nat.repeat closeContainer r.containers.length r).base.reverse

end BlockReader

/-- The blocks of a text. -/
def readDocument (text : List Char) : List (Block (List Inline)) :=
  let lines := splitLines text
  let r := BlockReader.readLines lines.length {} lines
  Block.mapAll (RawText.read r.definitions) r.finish

end Folio.Markdown
