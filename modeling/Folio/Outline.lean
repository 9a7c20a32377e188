import Folio.Environment
import Folio.Slug

/-!
# The outline of a document

## Main definitions

* `flatOutline` — the headings of a document in order.
* `Heading.insertInto` — adds a heading below the last headings of lower levels.
* `outline` — the headings, flat or nested.
-/

namespace Folio

/-- The content of the run at the head of a list, empty if there is none. -/
def runText : List Token → String
  | t :: _ => if t.kind == .inline then t.content else ""
  | [] => ""

/-- The headings of a document in order.  A heading without an id gets the slug of its text. -/
def flatOutline : List Token → List Heading
  | [] => []
  | t :: ts =>
    match t.headingLevel? with
    | none => flatOutline ts
    | some level =>
      let title := runText ts
      { level, title, id := (t.attr? "id").getD (slugify title) } :: flatOutline ts

/-- Adds a heading behind others: below the last of them if that has a lower level. -/
def Heading.insertInto (h : Heading) : List Heading → List Heading
  | [] => [h]
  | [⟨level, title, id, items⟩] =>
    if level < h.level then [⟨level, title, id, h.insertInto items⟩]
    else [⟨level, title, id, items⟩, h]
  | first :: second :: rest => first :: h.insertInto (second :: rest)

/-- The headings of a document: in one list, or each below the closest heading before it that has
a lower level. -/
def outline (flat : Bool) (tokens : List Token) : List Heading :=
  let headings := flatOutline tokens
  if flat then headings else headings.foldl (fun items h => h.insertInto items) []

end Folio
