import Folio.Markdown.Document
import Folio.Text.Character
import Folio.Markdown.Line

/-!
# Emphasis

Runs of stars, underscores and tildes open and close emphasis.  What a run may do depends on the
characters beside it; which runs belong together is decided from left to right, over a stack of
the runs that may still open.

## Main definitions

* `Piece` — a part of a text whose emphasis is still to be found.
* `canOpen`, `canClose` — what a run may do.
* `EmphasisStack` — the runs that are open, each with what follows it.
* `resolveEmphasis` — the inline content that the pieces make.
-/

namespace Folio.Markdown

/-- A part of a text whose emphasis is still to be found. -/
inductive Piece where
  /-- Inline content that is complete. -/
  | node (content : Inline)
  /-- A run of equal marks. -/
  | run (mark : Char) (length : Nat) (opens closes : Bool)
  /-- The beginning of what may be a link or an image, with the text behind it. -/
  | bracket (image enabled : Bool) (source : List Char)
  deriving Inhabited

/-- A run of marks may open emphasis, given the characters beside it. -/
def canOpen (mark : Char) (length : Nat) (before after : Option Char) : Bool :=
  match after with
  | none => false
  | some next =>
    if Text.isBlank next then false
    else match before with
      | none => true
      | some prev =>
        if mark == '*' && !Text.isPunctuation next then true
        else if mark == '~' && 1 < length then true
        else Text.isBlank prev || Text.isPunctuation prev

/-- A run of marks may close emphasis, given the characters beside it. -/
def canClose (mark : Char) (length : Nat) (before after : Option Char) : Bool :=
  match before with
  | none => false
  | some prev =>
    if Text.isBlank prev then false
    else match after with
      | none => true
      | some next =>
        if (mark == '*' || (mark == '~' && 1 < length)) && !Text.isPunctuation prev then true
        else Text.isBlank next || Text.isPunctuation next

/-- A run that is open. -/
structure Opener where
  /-- The mark of the run. -/
  mark : Char
  /-- The number of marks in the text. -/
  length : Nat
  /-- The number of marks that are left. -/
  left : Nat
  /-- The run could also have closed. -/
  both : Bool
  /-- What follows the run, last first. -/
  body : List Inline

/-- The open runs, innermost first. -/
structure EmphasisStack where
  /-- What stands before all open runs, last first. -/
  base : List Inline := []
  /-- The open runs. -/
  openers : List Opener := []
  /-- Tildes look for their partner only above this many runs. -/
  tildeFloor : Nat := 0

/-- The marks as text. -/
def marksText (mark : Char) (n : Nat) : Inline :=
  .text (String.ofList (List.replicate n mark))

/-- The open runs as plain text, with what follows them, last first. -/
def flattenOpeners : List Opener → List Inline
  | [] => []
  | o :: os => o.body ++ marksText o.mark o.left :: flattenOpeners os

/-- Content between `n` pairs of marks: the inner pairs of two are strong, a single one that is
left is emphasis.  Tildes strike through, one or two at a time. -/
def wrapMarks (mark : Char) (body : List Inline) : Nat → List Inline
  | 0 => body
  | 1 => if mark == '~' then [.strikethrough body] else [.emphasis body]
  | n + 2 =>
    if mark == '~' then [.strikethrough body] else wrapMarks mark [.strong body] n

/-- The closing run and the open one belong together.  Runs of one tilde do not match runs of two;
where one of the runs could do both, the sum of the lengths must not be a multiple of three unless
both are. -/
def Opener.matchesRun (o : Opener) (mark : Char) (length : Nat) (both : Bool) : Bool :=
  o.mark == mark && (mark != '~' || o.length == length)
    && ((!both && !o.both) || (length + o.length) % 3 != 0 || length % 3 == 0)

namespace EmphasisStack

/-- Adds content behind the innermost open run. -/
def push (s : EmphasisStack) (content : List Inline) : EmphasisStack :=
  match s.openers with
  | [] => { s with base := content.reverse ++ s.base }
  | o :: os => { s with openers := { o with body := content.reverse ++ o.body } :: os }

/-- The innermost open run that matches: the runs above it, itself, and the runs below it. -/
def splitAtMatch (mark : Char) (length : Nat) (both : Bool) (floor : Nat) :
    List Opener → Option (List Opener × Opener × List Opener)
  | [] => none
  | o :: os =>
    if os.length < floor then none
    else if o.matchesRun mark length both then some ([], o, os)
    else (splitAtMatch mark length both floor os).map fun (above, m, below) =>
      (o :: above, m, below)

/-- Closes open runs with the `left` marks that are left of a closing run, and tells how many
marks remain.  `fuel` bounds the number of open runs that it closes. -/
def close (mark : Char) (length : Nat) (both : Bool) :
    Nat → EmphasisStack → Nat → EmphasisStack × Nat
  | 0, s, left => (s, left)
  | fuel + 1, s, left =>
    if left == 0 then (s, 0)
    else
      match splitAtMatch mark length both (if mark == '~' then s.tildeFloor else 0) s.openers with
      | none => (if mark == '~' then { s with tildeFloor := s.openers.length } else s, left)
      | some (above, o, below) =>
        let n := min left o.left
        let inner := (flattenOpeners above ++ o.body).reverse
        let content := wrapMarks mark inner n
        let floor := min s.tildeFloor below.length
        let s : EmphasisStack :=
          if n < o.left then
            { s with
              openers := { o with left := o.left - n, body := content.reverse } :: below
              tildeFloor := floor }
          else { s with openers := below, tildeFloor := floor }.push content
        close mark length both fuel s (left - n)

/-- Reads one run: it closes what it can, and what is left of it opens or is text. -/
def run (s : EmphasisStack) (mark : Char) (length : Nat) (opens closes : Bool) :
    EmphasisStack :=
  let both := opens && closes
  let (s, left) := if closes then close mark length both length s length else (s, length)
  if left == 0 then s
  else if opens then
    { s with openers := ⟨mark, length, left, both, []⟩ :: s.openers }
  else s.push [marksText mark left]

/-- All content; runs that are still open are text. -/
def finish (s : EmphasisStack) : List Inline :=
  (flattenOpeners s.openers ++ s.base).reverse

/-- Reads one piece. -/
def step (s : EmphasisStack) : Piece → EmphasisStack
  | .node content => s.push [content]
  | .run mark length opens closes => s.run mark length opens closes
  | .bracket image _ _ => s.push [.text (if image then "![" else "[")]

end EmphasisStack

/-- The inline content that the pieces make. -/
def resolveEmphasis (pieces : List Piece) : List Inline :=
  (pieces.foldl EmphasisStack.step {}).finish

end Folio.Markdown
