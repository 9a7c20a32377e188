import Folio.Token.Pairing

/-!
# The title of a document

## Main definitions

* `TitleExtraction` — a title, and the document without it.
* `TitleStrategy` — a way to find the title.
* `extractTitle` — the first heading of level one that stands outside of all blocks.
-/

namespace Folio

/-- A title, and the document without it. -/
structure TitleExtraction where
  /-- The plain text of the title, empty if there is none. -/
  title : String := ""
  /-- The tokens without the heading of the title. -/
  tokens : List Token
  /-- The inline tokens of the title. -/
  titleTokens : List Token := []

/-- A way to find the title of a document. -/
abbrev TitleStrategy := List Token → TitleExtraction

/-- The token begins a heading that may be the title. -/
def Token.beginsTitle (t : Token) : Bool := t.level == 0 && t.headingLevel? == some 1

/-- The places of the two tokens of the title heading. -/
def titleRange? (tokens : List Token) : Option (Nat × Nat) := do
  let start ← tokens.findIdx? Token.beginsTitle
  let stop ← findClose? tokens start
  return (start, stop)

/-- Takes the first heading of level one that stands outside of all blocks off a document. -/
def extractTitle : TitleStrategy := fun tokens =>
  match titleRange? tokens with
  | none => { tokens }
  | some (start, stop) =>
    let run := ((tokens.take stop).drop start).find? fun t => t.kind == .inline
    { title := (run.map Token.content).getD ""
      tokens := tokens.take start ++ tokens.drop (stop + 1)
      titleTokens := (run.map Token.children).getD [] }

end Folio
