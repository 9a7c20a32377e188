import Folio.Markdown.Entity
import Folio.Markdown.Event
import Folio.Text.Character

/-!
# Link targets

The parts of links: labels, destinations and titles, and the definitions that give a label its
target.

## Main definitions

* `linkLabel?` — a label, and what follows it.
* `normalizeLabel` — the form in which labels are compared.
* `linkDestination?`, `linkTitle?` — the parts of a target.
* `inlineTarget?` — a target in parentheses.
* `definition?` — the definition of a label.
-/

namespace Folio.Markdown

/-- Blank space in a text of several lines. -/
def isTextSpace (c : Char) : Bool := isLineSpace c || c == '\n'

/-- Drops blank space within a line. -/
def dropLineSpace (cs : List Char) : List Char := cs.dropWhile isLineSpace

/-- Drops blank space and at most one line ending. -/
def dropSeparator (cs : List Char) : List Char :=
  match dropLineSpace cs with
  | '\n' :: rest => dropLineSpace rest
  | rest => rest

/-- The raw text of a label and what follows its bracket.  An opening bracket has to be escaped;
a label has fewer than `limit` characters. -/
def labelText? : Nat → List Char → Option (List Char × List Char)
  | 0, _ => none
  | _, [] => none
  | limit + 1, c :: cs =>
    if c == '[' then none
    else if c == ']' then some ([], cs)
    else if c == '\\' then
      match limit, cs with
      | limit + 1, d :: rest =>
        if d == '\n' then (labelText? (limit + 1) cs).map fun (l, r) => (c :: l, r)
        else (labelText? limit rest).map fun (l, r) => (c :: d :: l, r)
      | _, _ => none
    else (labelText? limit cs).map fun (l, r) => (c :: l, r)

/-- In a table a bar in a label is written with a backslash. -/
def unescapeBars : List Char → List Char
  | '\\' :: '|' :: cs => '|' :: unescapeBars cs
  | c :: cs => c :: unescapeBars cs
  | [] => []

/-- The label from behind its opening bracket, and what follows the closing one.  It has to hold
more than blank space. -/
def linkLabel? (inTable : Bool) (cs : List Char) : Option (List Char × List Char) :=
  match labelText? 1000 cs with
  | some (label, rest) =>
    let label := if inTable then unescapeBars label else label
    if label.all isTextSpace then none else some (label, rest)
  | none => none

/-- The words of a text, with one blank between them. -/
def collapseSpace : List Char → List Char
  | [] => []
  | c :: cs =>
    let rest := collapseSpace cs
    if isTextSpace c then
      match rest with
      | [] => []
      | d :: _ => if d == ' ' then rest else ' ' :: rest
    else c :: rest

/-- The form in which labels are compared: without regard to case and to the amount of blank
space. -/
def normalizeLabel (label : List Char) : List Char :=
  (collapseSpace (label.dropWhile isTextSpace)).flatMap Text.fold

/-- A destination between angle brackets, from behind the first of them. -/
def bracketedDestination? : List Char → Option (List Char × List Char)
  | [] => none
  | '\\' :: c :: cs =>
    if isAsciiPunctuation c then
      (bracketedDestination? cs).map fun (d, r) => ('\\' :: c :: d, r)
    else (bracketedDestination? (c :: cs)).map fun (d, r) => ('\\' :: d, r)
  | c :: cs =>
    if c == '\n' || c == '<' then none
    else if c == '>' then some ([], cs)
    else (bracketedDestination? cs).map fun (d, r) => (c :: d, r)

/-- A destination without brackets, in which parentheses are balanced and at most `limit + 1`
deep.  `depth` of them are open. -/
def bareDestination? (limit depth : Nat) : List Char → Option (List Char × List Char)
  | [] => if depth == 0 then some ([], []) else none
  | '\\' :: c :: cs =>
    if isAsciiPunctuation c then
      (bareDestination? limit depth cs).map fun (d, r) => ('\\' :: c :: d, r)
    else (bareDestination? limit depth (c :: cs)).map fun (d, r) => ('\\' :: d, r)
  | c :: cs =>
    if c.toNat ≤ 0x20 then if depth == 0 then some ([], c :: cs) else none
    else if c == '(' then
      if limit < depth then none
      else (bareDestination? limit (depth + 1) cs).map fun (d, r) => (c :: d, r)
    else if c == ')' then
      if depth == 0 then some ([], c :: cs)
      else (bareDestination? limit (depth - 1) cs).map fun (d, r) => (c :: d, r)
    else (bareDestination? limit depth cs).map fun (d, r) => (c :: d, r)

/-- The raw text of a destination, and what follows it.  `limit` bounds the depth of its
parentheses. -/
def linkDestination? (limit : Nat) (cs : List Char) : Option (List Char × List Char) :=
  match cs with
  | '<' :: rest => bracketedDestination? rest
  | _ => bareDestination? limit 0 cs

/-- The raw text of a title up to its closing mark.  The blanks at the beginning of a line do not
belong to it. -/
def titleText? (opened closed : Char) : List Char → Option (List Char × List Char)
  | [] => none
  | '\\' :: c :: cs =>
    if isAsciiPunctuation c then
      (titleText? opened closed cs).map fun (t, r) => ('\\' :: c :: t, r)
    else (titleText? opened closed (c :: cs)).map fun (t, r) => ('\\' :: t, r)
  | c :: cs =>
    if c == closed then some ([], cs)
    else if c == opened then none
    else (titleText? opened closed cs).map fun (t, r) => (c :: t, r)

/-- The raw text with the blanks at the beginning of each line dropped. -/
def dropIndents : Bool → List Char → List Char
  | _, [] => []
  | afterEnding, c :: cs =>
    if afterEnding && (c == ' ' || c == '\t') then dropIndents true cs
    else c :: dropIndents (c == '\n') cs

/-- The raw text of a title, and what follows it. -/
def linkTitle? (cs : List Char) : Option (List Char × List Char) :=
  let scan (opened closed : Char) (rest : List Char) :=
    (titleText? opened closed rest).map fun (t, r) => (dropIndents false t, r)
  match cs with
  | '\x22' :: rest => scan '\x22' '\x22' rest
  | '\x27' :: rest => scan '\x27' '\x27' rest
  | '(' :: rest => scan '(' ')' rest
  | _ => none

/-- The target of a link or an image with escapes resolved. -/
def makeTarget (inTable : Bool) (destination title : List Char) : Target where
  destination := String.ofList (unescape inTable destination)
  title := String.ofList (unescape inTable title)

/-- The target in parentheses, from behind the first of them, and what follows. -/
def inlineTarget? (inTable : Bool) (cs : List Char) : Option (Target × List Char) :=
  match linkDestination? 5 (dropSeparator cs) with
  | none => none
  | some (destination, rest) =>
    let rest := dropSeparator rest
    let (title, rest) := match linkTitle? rest with
      | some (title, after) => (title, dropSeparator after)
      | none => ([], rest)
    match rest with
    | ')' :: after => some (makeTarget inTable destination title, after)
    | _ => none

/-- The space between two parts of a definition, and whether a line ends in it; none if nothing
follows it. -/
def definitionSpace? (cs : List Char) : Option (List Char × Bool) :=
  match dropLineSpace cs with
  | [] => none
  | '\n' :: rest =>
    match dropLineSpace rest with
    | [] => none
    | after => some (after, true)
  | after => some (after, false)

/-- The line ends here. -/
def atLineEnd (cs : List Char) : Bool :=
  match dropLineSpace cs with
  | [] => true
  | c :: _ => c == '\n'

/-- What follows the destination of a definition: its title and the rest of the text. -/
def definitionTitle? (cs : List Char) : Option (List Char × List Char) :=
  match definitionSpace? cs with
  | none => some ([], cs)
  | some (next, newLine) =>
    if next.length == cs.length then none
    else
      let without := if newLine then some ([], cs) else none
      match linkTitle? next with
      | some (title, after) => if atLineEnd after then some (title, after) else without
      | none => without

/-- A definition, from behind its opening bracket: the label, its target, and the text that
follows, which begins with blank space and the end of a line. -/
def definition? (cs : List Char) : Option (List Char × Target × List Char) :=
  match linkLabel? false cs with
  | some (label, ':' :: afterLabel) =>
    match definitionSpace? afterLabel with
    | none => none
    | some (start, _) =>
      match linkDestination? 1 start with
      | none => none
      | some (destination, rest) =>
        if rest.length == start.length then none
        else (definitionTitle? rest).map fun (title, after) =>
          (label, makeTarget false destination title, after)
  | _ => none

/-- The targets that the labels of a document have, in order of their definitions. -/
abbrev Definitions := List (List Char × Target)

/-- The target of a label: that of its first definition. -/
def Definitions.find? (definitions : Definitions) (label : List Char) : Option Target :=
  definitions.lookup (normalizeLabel label)

/-- The definitions with one more, which counts if the label had none. -/
def Definitions.add (definitions : Definitions) (label : List Char) (target : Target) :
    Definitions :=
  definitions ++ [(normalizeLabel label, target)]

end Folio.Markdown
