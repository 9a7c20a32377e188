/-!
# Searching in texts

## Main definitions

* `splitFirst?`, `splitLast?` — the text before and after an occurrence of a pattern.
* `dropStart?`, `dropEnd?` — the text without a pattern at one of its ends.
* `occursIn` — a pattern occurs in a text.
-/

namespace Folio.Text

/-- The text without a pattern at its beginning. -/
def dropStart? : (pattern text : List Char) → Option (List Char)
  | [], cs => some cs
  | _ :: _, [] => none
  | p :: ps, c :: cs => if p == c then dropStart? ps cs else none

/-- The text without a pattern at its end. -/
def dropEnd? (pattern text : List Char) : Option (List Char) :=
  (dropStart? pattern.reverse text.reverse).map List.reverse

/-- The text before and after the first occurrence of a pattern. -/
def splitFirst? (pattern : List Char) : List Char → Option (List Char × List Char)
  | [] => if pattern.isEmpty then some ([], []) else none
  | c :: cs =>
    match dropStart? pattern (c :: cs) with
    | some after => some ([], after)
    | none => (splitFirst? pattern cs).map fun (before, after) => (c :: before, after)

/-- The text before and after the last occurrence of a pattern. -/
def splitLast? (pattern : List Char) : List Char → Option (List Char × List Char)
  | [] => if pattern.isEmpty then some ([], []) else none
  | c :: cs =>
    match splitLast? pattern cs with
    | some (before, after) => some (c :: before, after)
    | none => (dropStart? pattern (c :: cs)).map fun after => ([], after)

/-- A pattern occurs in a text. -/
def occursIn (pattern text : List Char) : Bool := (splitFirst? pattern text).isSome

end Folio.Text
