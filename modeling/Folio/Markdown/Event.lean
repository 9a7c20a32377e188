/-!
# Events

A document read from left to right is a sequence of events: the start and the end of each block
and each inline container, and the leaves between them.

## Main definitions

* `Tag` — what a start event opens, with its parameters.
* `TagEnd` — what an end event closes.
* `Tag.toEnd` — the end that belongs to a tag.
* `Event` — one event.
-/

namespace Folio.Markdown

/-- The alignment of a table column. -/
inductive Alignment where
  | none
  | left
  | center
  | right
  deriving DecidableEq, Repr, Inhabited

/-- What a link or an image refers to. -/
structure Target where
  /-- The address. -/
  destination : String
  /-- The title, empty if there is none. -/
  title : String
  deriving DecidableEq, Repr, Inhabited

/-- What a start event opens. -/
inductive Tag where
  | paragraph
  | heading (level : Nat)
  | blockquote
  /-- A code block; a fenced one has the words behind its fence. -/
  | codeBlock (info : Option String)
  | htmlBlock
  | metadataBlock
  /-- A list; a numbered one has its first number. -/
  | list (start : Option Nat)
  | item
  | footnoteDefinition (label : String)
  | definitionList
  | definitionTerm
  | definitionDetails
  | table (alignments : List Alignment)
  | tableHead
  | tableRow
  | tableCell
  | emphasis
  | strong
  | strikethrough
  | superscript
  | subscript
  | link (target : Target)
  | image (target : Target)
  deriving DecidableEq, Repr, Inhabited

/-- What an end event closes. -/
inductive TagEnd where
  | paragraph
  | heading (level : Nat)
  | blockquote
  | codeBlock
  | htmlBlock
  | metadataBlock
  | list (numbered : Bool)
  | item
  | footnoteDefinition
  | definitionList
  | definitionTerm
  | definitionDetails
  | table
  | tableHead
  | tableRow
  | tableCell
  | emphasis
  | strong
  | strikethrough
  | superscript
  | subscript
  | link
  | image
  deriving DecidableEq, Repr, Inhabited

/-- The end that belongs to a tag. -/
def Tag.toEnd : Tag → TagEnd
  | .paragraph => .paragraph
  | .heading n => .heading n
  | .blockquote => .blockquote
  | .codeBlock _ => .codeBlock
  | .htmlBlock => .htmlBlock
  | .metadataBlock => .metadataBlock
  | .list start => .list start.isSome
  | .item => .item
  | .footnoteDefinition _ => .footnoteDefinition
  | .definitionList => .definitionList
  | .definitionTerm => .definitionTerm
  | .definitionDetails => .definitionDetails
  | .table _ => .table
  | .tableHead => .tableHead
  | .tableRow => .tableRow
  | .tableCell => .tableCell
  | .emphasis => .emphasis
  | .strong => .strong
  | .strikethrough => .strikethrough
  | .superscript => .superscript
  | .subscript => .subscript
  | .link _ => .link
  | .image _ => .image

/-- One event of a document. -/
inductive Event where
  | start (tag : Tag)
  | finish (tag : TagEnd)
  | text (s : String)
  | code (s : String)
  | html (s : String)
  | inlineHtml (s : String)
  | inlineMath (s : String)
  | displayMath (s : String)
  | footnoteReference (label : String)
  | softBreak
  | hardBreak
  | rule
  | taskMarker (checked : Bool)
  deriving DecidableEq, Repr, Inhabited

end Folio.Markdown
