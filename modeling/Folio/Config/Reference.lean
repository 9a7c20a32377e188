import Folio.Text.Character
import Folio.Text.Search

/-!
# References to variables

A text may refer to variables of its surroundings, by name behind a dollar sign or in braces.  In
braces a default may follow the name.  A text without a brace reference is left as it is.

## Main definitions

* `Piece` — a piece of a text: characters, or a reference.
* `pieces` — the pieces of a text.
* `expand` — the text with its references resolved.
* `references` — the variables that a text refers to.
-/

namespace Folio

/-- A piece of a text. -/
inductive Piece where
  | text (cs : List Char)
  | variable (name : String) (default : Option (List Char))
  deriving DecidableEq, Repr, Inhabited

/-- A character of a name behind a dollar sign. -/
def isNameChar (c : Char) : Bool := Text.isAlphanumeric c || c == '_'

/-- The reference between braces: a default stands behind `:-`, unless no name is before it. -/
def braced (inner : List Char) : Piece :=
  match Text.splitFirst? [':', '-'] inner with
  | some (c :: name, default) => .variable (String.ofList (c :: name)) (some default)
  | _ => .variable (String.ofList inner) none

/-- The pieces of a text.  A dollar sign stands for itself before a character that begins no
reference and before a brace that is not closed; of two dollar signs one is left.  `fuel` bounds
the length of the text. -/
def piecesWith : Nat → List Char → List Piece
  | 0, cs => [.text cs]
  | _, [] => []
  | fuel + 1, c :: rest =>
    if c != '$' then
      let plain := (c :: rest).takeWhile (· != '$')
      .text plain :: piecesWith fuel ((c :: rest).drop plain.length)
    else match rest with
      | '\x7b' :: inner =>
        let name := inner.takeWhile (· != '\x7d')
        match inner.drop name.length with
        | _ :: after => braced name :: piecesWith fuel after
        | [] => .text ['$', '\x7b'] :: piecesWith fuel inner
      | '$' :: after => .text ['$'] :: piecesWith fuel after
      | _ =>
        let name := rest.takeWhile isNameChar
        if name.isEmpty then .text ['$'] :: piecesWith fuel rest
        else .variable (String.ofList name) none :: piecesWith fuel (rest.drop name.length)

/-- The pieces of a text. -/
def pieces (s : String) : List Piece :=
  let cs := s.toList
  if Text.occursIn ['$', '\x7b'] cs then piecesWith cs.length cs else [.text cs]

/-- The characters that stand for a piece; the name of the variable if there are none. -/
def Piece.resolve (value? : String → Option String) : Piece → Except String (List Char)
  | .text cs => .ok cs
  | .variable name default =>
    match value? name, default with
    | some value, _ => .ok value.toList
    | none, some cs => .ok cs
    | none, none => .error name

/-- The text with its references resolved.  The error is the first variable that is not set and
has no default. -/
def expand (value? : String → Option String) (s : String) : Except String String := do
  let parts ← (pieces s).mapM (Piece.resolve value?)
  return String.ofList parts.flatten

/-- The variables that a text refers to. -/
def references (s : String) : List String :=
  (pieces s).filterMap fun
    | .variable name _ => some name
    | .text _ => none

end Folio
