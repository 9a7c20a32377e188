import Folio.Markdown.Html

/-!
# Markers at the beginning of a line

Headings, thematic breaks, code fences, list items and metadata blocks are told from the first
characters of a line.

## Main definitions

* `isThematicBreak`, `atxLevel?`, `setextLevel?`, `fence?`, `closesFence` — one line each.
* `ListMarker`, `listMarker?` — the mark of a list item.
* `beginsMetadata` — a metadata block, whose end has to be among the lines.
* `interruptsParagraph` — a line that does not continue a paragraph.
-/

namespace Folio.Markdown

/-- A thematic break: three or more of one mark, and blanks between them. -/
def isThematicBreak (cs : List Char) : Bool :=
  match cs with
  | [] => false
  | c :: _ =>
    (c == '*' || c == '-' || c == '_')
      && cs.all (fun d => d == c || d == ' ' || d == '\t') && 3 ≤ cs.count c

/-- The level of a heading that begins with number signs. -/
def atxLevel? (cs : List Char) : Option Nat :=
  let n := (cs.takeWhile (· == '#')).length
  let ends := match cs.drop n with
    | [] => true
    | c :: _ => isLineSpace c
  if 1 ≤ n && n ≤ 6 && ends then some n else none

/-- The level that an underline gives the paragraph above it. -/
def setextLevel? (cs : List Char) : Option Nat :=
  match cs with
  | '=' :: rest => if isBlankLine (rest.dropWhile (· == '=')) then some 1 else none
  | '-' :: rest => if isBlankLine (rest.dropWhile (· == '-')) then some 2 else none
  | _ => none

/-- The mark and the length of an opening code fence. -/
def fence? (cs : List Char) : Option (Char × Nat) :=
  match cs with
  | [] => none
  | c :: _ =>
    if c == '\x60' || c == '~' then
      let n := (cs.takeWhile (· == c)).length
      if n < 3 then none
      else if c == '\x60' && (cs.drop n).contains c then none
      else some (c, n)
    else none

/-- The line closes a fence of this mark and length. -/
def closesFence (mark : Char) (length : Nat) (cs : List Char) : Bool :=
  let n := (cs.takeWhile (· == mark)).length
  length ≤ n && (cs.drop n).all (· == ' ')

/-- The mark of a list item. -/
structure ListMarker where
  /-- A bullet, or the character behind a number. -/
  mark : Char
  /-- The number, if there is one. -/
  number : Option Nat
  /-- The columns from the beginning of the mark to the content. -/
  width : Nat
  deriving DecidableEq, Repr

/-- The value of decimal digits. -/
def digitsValue (ds : List Char) : Nat :=
  ds.foldl (fun n d => 10 * n + (d.toNat - 48)) 0

/-- Moves over the space behind the mark of an item, `width` columns wide so far.  Four columns
or more belong to the content but for the first. -/
def markerSpace? (cur : Cursor) (mark : Char) (number : Option Nat) (width : Nat) :
    Option (ListMarker × Cursor) :=
  let (found, next) := cur.spaces 1
  if found == 1 || cur.atEnd then
    if isBlankLine next.rest then some (⟨mark, number, width + 1⟩, next)
    else
      let (n, deeper) := next.spaces 4
      if n < 4 then some (⟨mark, number, width + 1 + n⟩, deeper)
      else some (⟨mark, number, width + 1⟩, next)
  else none

/-- The mark of a list item at the cursor, and the place of its content. -/
def listMarker? (cur : Cursor) : Option (ListMarker × Cursor) :=
  match cur.rest with
  | [] => none
  | c :: cs =>
    if c == '-' || c == '+' || c == '*' then
      if isThematicBreak cur.rest then none
      else markerSpace? ⟨cur.column + 1, cur.owed, cs⟩ c none 1
    else if c.isDigit then
      let ds := cur.rest.takeWhile Char.isDigit
      match cur.rest.drop ds.length with
      | d :: after =>
        if ds.length ≤ 9 && (d == '.' || d == ')') then
          markerSpace? ⟨cur.column + ds.length + 1, cur.owed, after⟩ d (some (digitsValue ds))
            (ds.length + 1)
        else none
      | [] => none
    else none

/-- The box of a task at the cursor: whether it is checked, and the place behind it. -/
def taskBox? (cur : Cursor) : Option (Bool × Cursor) :=
  let (_, next) := cur.spaces 3
  match next.rest with
  | '[' :: c :: ']' :: rest =>
    let ends := match rest with
      | [] => true
      | d :: _ => isLineSpace d
    if !ends then none
    else if c == 'x' || c == 'X' then some (true, ⟨next.column + 3, 0, rest⟩)
    else if isLineSpace c then some (false, ⟨next.column + 3, 0, rest⟩)
    else none
  | _ => none

/-- The line ends a metadata block: three dashes or points, with only blanks behind them. -/
def endsMetadata (cs : List Char) : Bool :=
  match cs with
  | '-' :: '-' :: '-' :: rest => rest.all (· == ' ')
  | '.' :: '.' :: '.' :: rest => rest.all (· == ' ')
  | _ => false

/-- The line begins a metadata block: one of the lines after it ends the block, and the first of
them has content. -/
def beginsMetadata (cs : List Char) (after : List Line) : Bool :=
  match cs with
  | '-' :: '-' :: '-' :: rest =>
    isBlankLine rest && match after with
      | [] => false
      | first :: others =>
        !isBlankLine first.text && !endsMetadata first.text
          && others.any (endsMetadata ·.text)
  | _ => false

/-- The line begins a list item that may interrupt a paragraph.  Within the container of the
paragraph the item has to be a bullet or the first number, and neither it nor the line after it
may be blank; in a table any item interrupts. -/
def interruptingItem (inContainer inTable : Bool) (cs : List Char) (next : Option Line) : Bool :=
  let ends : List Char → Bool
    | [] => true
    | c :: _ => c == ' ' || c == '\t'
  let allowed (isFirst : Bool) (after : List Char) : Bool :=
    !inContainer || inTable || (isFirst && !(isBlankLine after && match next with
      | none => true
      | some line => isBlankLine line.text))
  match cs with
  | [] => false
  | c :: rest =>
    if c == '-' || c == '+' || c == '*' then ends rest && allowed true rest
    else
      let ds := cs.takeWhile Char.isDigit
      match cs.drop ds.length with
      | d :: after =>
        1 ≤ ds.length && ds.length ≤ 9 && (d == '.' || d == ')') && ends after
          && allowed (digitsValue ds == 1) after
      | [] => false

/-- The line does not continue a paragraph, leaving tables aside. -/
def interruptsParagraph (inContainer inTable : Bool) (cs : List Char) (next : Option Line) :
    Bool :=
  cs.isEmpty || isThematicBreak cs || (atxLevel? cs).isSome || (fence? cs).isSome
    || cs.head? == some '>' || interruptingItem inContainer inTable cs next
    || match cs with
      | '<' :: tag => (htmlBlockEnd? tag).isSome || beginsHtmlBlock tag
      | _ => false

end Folio.Markdown
