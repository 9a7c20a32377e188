import Folio.Markdown.Event

/-!
# Documents

The tree that a Markdown text describes.  Paragraphs, headings and cells hold inline content
only, blocks hold blocks: the types say what may stand where, so the events of a document are
properly nested by construction.

## Main definitions

* `Inline` — inline content.
* `Block` — blocks, over a type of inline content, which is raw text while the link targets of
  the document are still being collected.
* `Block.map` — the blocks with their inline content replaced.
* `Inline.events`, `Block.events` — the document from left to right.
-/

namespace Folio.Markdown

/-- Inline content. -/
inductive Inline where
  | text (s : String)
  | code (s : String)
  | html (s : String)
  | softBreak
  | hardBreak
  | taskMarker (checked : Bool)
  | emphasis (body : List Inline)
  | strong (body : List Inline)
  | strikethrough (body : List Inline)
  | link (target : Target) (body : List Inline)
  | image (target : Target) (body : List Inline)
  deriving Repr, Inhabited

/-- Blocks whose inline content is of type `ι`. -/
inductive Block (ι : Type) where
  | paragraph (body : ι)
  /-- A paragraph of a list item whose list has no blank lines between its blocks. -/
  | plain (body : ι)
  | heading (level : Nat) (body : ι)
  | blockquote (body : List (Block ι))
  | list (start : Option Nat) (items : List (List (Block ι)))
  | code (info : Option String) (source : String)
  | html (source : String)
  | rule
  /-- A table: a head row, then the body rows. -/
  | table (alignments : List Alignment) (head : List ι) (rows : List (List ι))
  | metadata (source : String)
  deriving Repr, Inhabited

namespace Block

mutual

/-- The block with its inline content replaced. -/
def map {ι κ : Type} (f : ι → κ) : Block ι → Block κ
  | .paragraph body => .paragraph (f body)
  | .plain body => .plain (f body)
  | .heading level body => .heading level (f body)
  | .blockquote body => .blockquote (mapAll f body)
  | .list start items => .list start (mapItems f items)
  | .code info source => .code info source
  | .html source => .html source
  | .rule => .rule
  | .table alignments head rows => .table alignments (head.map f) (rows.map (·.map f))
  | .metadata source => .metadata source

/-- The blocks with their inline content replaced. -/
def mapAll {ι κ : Type} (f : ι → κ) : List (Block ι) → List (Block κ)
  | [] => []
  | b :: bs => map f b :: mapAll f bs

/-- The items of a list with their inline content replaced. -/
def mapItems {ι κ : Type} (f : ι → κ) : List (List (Block ι)) → List (List (Block κ))
  | [] => []
  | item :: items => mapAll f item :: mapItems f items

end

end Block

/-- Events between the start and the end of a tag. -/
def within (tag : Tag) (body : List Event) : List Event :=
  .start tag :: body ++ [Event.finish tag.toEnd]

mutual

/-- The events of inline content. -/
def Inline.events : Inline → List Event
  | .text s => [.text s]
  | .code s => [.code s]
  | .html s => [.inlineHtml s]
  | .softBreak => [.softBreak]
  | .hardBreak => [.hardBreak]
  | .taskMarker checked => [.taskMarker checked]
  | .emphasis body => within .emphasis (inlineEvents body)
  | .strong body => within .strong (inlineEvents body)
  | .strikethrough body => within .strikethrough (inlineEvents body)
  | .link target body => within (.link target) (inlineEvents body)
  | .image target body => within (.image target) (inlineEvents body)

/-- The events of a list of inline content. -/
def inlineEvents : List Inline → List Event
  | [] => []
  | i :: is => i.events ++ inlineEvents is

end

/-- The events of the cells of a row. -/
def cellEvents (cells : List (List Inline)) : List Event :=
  cells.flatMap fun cell => within .tableCell (inlineEvents cell)

/-- The events of the body rows of a table. -/
def rowEvents (rows : List (List (List Inline))) : List Event :=
  rows.flatMap fun row => within .tableRow (cellEvents row)

mutual

/-- The events of a block. -/
def Block.events : Block (List Inline) → List Event
  | .paragraph body => within .paragraph (inlineEvents body)
  | .plain body => inlineEvents body
  | .heading level body => within (.heading level) (inlineEvents body)
  | .blockquote body => within .blockquote (blockEvents body)
  | .list start items => within (.list start) (itemEvents items)
  | .code info source => within (.codeBlock info) [.text source]
  | .html source => within .htmlBlock [.html source]
  | .rule => [.rule]
  | .table alignments head rows =>
    within (.table alignments) (within .tableHead (cellEvents head) ++ rowEvents rows)
  | .metadata source => within .metadataBlock [.text source]

/-- The events of a list of blocks. -/
def blockEvents : List (Block (List Inline)) → List Event
  | [] => []
  | b :: bs => b.events ++ blockEvents bs

/-- The events of the items of a list. -/
def itemEvents : List (List (Block (List Inline))) → List Event
  | [] => []
  | item :: items => within .item (blockEvents item) ++ itemEvents items

end

end Folio.Markdown
