import Folio.Markdown.Event
import Folio.Text.Character
import Folio.Token.Basic

/-!
# From events to tokens

The events of a document are put together into a flat list of tokens.  Inline events are gathered
into a run, which becomes one token as soon as a block begins or ends.  Inline events outside of a
paragraph, a heading or a cell get a hidden paragraph of their own.  The texts of code, HTML and
metadata blocks are captured until the block ends.

Any sequence of events is accepted, nested or not: a block that ends closes the innermost open
block, whatever that is.

## Main definitions

* `Assembly` — the tokens put together so far, and what is open.
* `Assembly.event` — takes in one event.
* `Assembly.finish` — closes what is open.
* `assemble` — the tokens of a list of events, and the texts of its metadata blocks.
-/

namespace Folio.Markdown

/-- Inline content that is being gathered for the innermost block. -/
structure InlineRun where
  /-- The tokens, last first. -/
  children : List Token
  /-- The run opened a hidden paragraph. -/
  implicit : Bool

/-- A block whose text is being captured. -/
inductive Capture where
  | code (fence : Token)
  | html (text : String)
  | metadata (text : String)

/-- The tokens put together so far, and what is open. -/
structure Assembly where
  /-- The complete tokens, last first. -/
  tokens : List Token := []
  /-- The kinds of the open blocks, innermost first. -/
  stack : List Kind := []
  /-- The run being gathered. -/
  run : Option InlineRun := none
  /-- The text being captured. -/
  capture : Option Capture := none
  /-- The alignments of the columns of the table. -/
  alignments : List Alignment := []
  /-- The column of the next cell. -/
  column : Nat := 0
  /-- The cells belong to the head of a table. -/
  inHead : Bool := false
  /-- The body of a table is open. -/
  inBody : Bool := false
  /-- The texts of the metadata blocks, last first. -/
  metadata : List String := []

/-- The style of the cells in a column. -/
def Alignment.style? : Alignment → Option String
  | .none => Option.none
  | .left => some "text-align:left"
  | .center => some "text-align:center"
  | .right => some "text-align:right"

namespace Assembly

/-- The number of open blocks. -/
def level (a : Assembly) : Nat := a.stack.length

/-- Adds a complete token. -/
def push (a : Assembly) (t : Token) : Assembly := { a with tokens := t :: a.tokens }

/-- Completes the run, and closes its hidden paragraph if it opened one. -/
def flush (a : Assembly) : Assembly :=
  match a.run with
  | none => a
  | some run =>
    let level := a.level
    let a := { a with run := none }.push (.inlineRun run.children.reverse level)
    if run.implicit then
      { a with stack := a.stack.tail }.push
        { Token.closing .paragraph (level - 1) with hidden := true }
    else a

/-- Opens a block with a token at the current level. -/
def openBlock (a : Assembly) (t : Token) : Assembly :=
  let a := a.flush
  { a with stack := t.kind :: a.stack }.push t

/-- Closes the innermost block. -/
def closeBlock (a : Assembly) : Assembly :=
  let a := a.flush
  match a.stack with
  | [] => a
  | kind :: outer => { a with stack := outer }.push (.closing kind outer.length)

/-- Begins a run. -/
def startRun (a : Assembly) : Assembly := { a with run := some ⟨[], false⟩ }

/-- The tokens of a run, last first, with one more.  Text that follows text is joined to it. -/
def addInline (children : List Token) (t : Token) : List Token :=
  match children with
  | last :: before =>
    if t.kind == .text && last.kind == .text then
      { last with content := last.content ++ t.content } :: before
    else t :: children
  | [] => [t]

/-- Adds an inline token to the run.  Without a run, a hidden paragraph is opened for it. -/
def pushInline (a : Assembly) (t : Token) : Assembly :=
  match a.run with
  | some run => { a with run := some { run with children := addInline run.children t } }
  | none =>
    { a with
      stack := .paragraph :: a.stack
      run := some ⟨[t], true⟩ }.push { Token.opening .paragraph a.level with hidden := true }

/-- Takes in text. -/
def text (a : Assembly) (s : String) : Assembly :=
  match a.capture with
  | some (.code fence) =>
    { a with capture := some (.code { fence with content := fence.content ++ s }) }
  | some (.html t) => { a with capture := some (.html (t ++ s)) }
  | some (.metadata t) => { a with capture := some (.metadata (t ++ s)) }
  | none => a.pushInline (.text s)

/-- Completes the text that is being captured. -/
def endCapture (a : Assembly) : Assembly :=
  match a.capture with
  | some (.code fence) => { a with capture := none }.push fence
  | some (.html t) =>
    { a with capture := none }.push { Token.leaf .htmlBlock a.level with content := t }
  | some (.metadata t) => { a with capture := none, metadata := t :: a.metadata }
  | none => a

/-- The token that opens a link or an image, with its address under `name`. -/
def targetToken (kind : Kind) (name : String) (target : Target) : Token :=
  let t := (Token.mark kind .opening).setAttr name target.destination
  if target.title.isEmpty then t else t.setAttr "title" target.title

/-- The token that opens a list. -/
def listToken (start : Option Nat) (level : Nat) : Token :=
  match start with
  | none => .opening .bulletList level
  | some 1 => .opening .orderedList level
  | some n => (Token.opening .orderedList level).setAttr "start" (toString n)

/-- Takes in the start of a tag. -/
def start (a : Assembly) : Tag → Assembly
  | .paragraph => (a.openBlock (.opening .paragraph a.level)).startRun
  | .heading n => (a.openBlock (.opening (.heading n) a.level)).startRun
  | .blockquote => a.openBlock (.opening .blockquote a.level)
  | .codeBlock info =>
    let a := a.flush
    let info := match info with
      | some s => String.ofList (Text.trim s.toList)
      | none => ""
    { a with capture := some (.code { Token.leaf .fence a.level with info }) }
  | .htmlBlock => { a.flush with capture := some (.html "") }
  | .metadataBlock => { a with capture := some (.metadata "") }
  | .list start => a.openBlock (listToken start a.level)
  | .item => a.openBlock (.opening .listItem a.level)
  | .footnoteDefinition _ => a
  | .definitionList => a.openBlock (.opening .definitionList a.level)
  | .definitionTerm => a.openBlock (.opening .definitionTerm a.level)
  | .definitionDetails => a.openBlock (.opening .definitionDetails a.level)
  | .table alignments =>
    { a with alignments, inBody := false }.openBlock (.opening .table a.level)
  | .tableHead =>
    let a := { a with inHead := true, column := 0 }.openBlock (.opening .tableHead a.level)
    a.openBlock (.opening .tableRow a.level)
  | .tableRow =>
    let a := if a.inBody then a
      else { a with inBody := true }.openBlock (.opening .tableBody a.level)
    { a with column := 0 }.openBlock (.opening .tableRow a.level)
  | .tableCell =>
    let cell := Token.opening (if a.inHead then .tableHeaderCell else .tableDataCell) a.level
    let cell := match a.alignments[a.column]?.bind Alignment.style? with
      | some style => cell.setAttr "style" style
      | none => cell
    (a.openBlock cell).startRun
  | .emphasis => a.pushInline (.mark .emphasis .opening)
  | .strong => a.pushInline (.mark .strong .opening)
  | .strikethrough => a.pushInline (.mark .strikethrough .opening)
  | .superscript => a.pushInline (.mark .superscript .opening)
  | .subscript => a.pushInline (.mark .subscript .opening)
  | .link target => a.pushInline (targetToken .link "href" target)
  | .image target => a.pushInline (targetToken .image "src" target)

/-- Takes in the end of a tag. -/
def finishTag (a : Assembly) : TagEnd → Assembly
  | .codeBlock | .htmlBlock | .metadataBlock => a.endCapture
  | .footnoteDefinition => a
  | .tableHead => { a.closeBlock.closeBlock with inHead := false }
  | .tableCell =>
    let a := a.closeBlock
    { a with column := a.column + 1 }
  | .table =>
    let a := if a.inBody then { a.closeBlock with inBody := false } else a
    a.closeBlock
  | .paragraph | .heading _ | .blockquote | .list _ | .item | .definitionList
  | .definitionTerm | .definitionDetails | .tableRow => a.closeBlock
  | .emphasis => a.pushInline (.mark .emphasis .closing)
  | .strong => a.pushInline (.mark .strong .closing)
  | .strikethrough => a.pushInline (.mark .strikethrough .closing)
  | .superscript => a.pushInline (.mark .superscript .closing)
  | .subscript => a.pushInline (.mark .subscript .closing)
  | .link => a.pushInline (.mark .link .closing)
  | .image => a.pushInline (.mark .image .closing)

/-- An inline token that stands alone and has content. -/
def inlineLeaf (kind : Kind) (content : String) : Token :=
  (Token.mark kind .single).withContent content

/-- Takes in one event. -/
def event (a : Assembly) : Event → Assembly
  | .start tag => a.start tag
  | .finish tag => a.finishTag tag
  | .text s | .inlineMath s | .displayMath s => a.text s
  | .code s => a.pushInline (inlineLeaf .codeInline s)
  | .html s =>
    match a.capture with
    | some (.html t) => { a with capture := some (.html (t ++ s)) }
    | _ => a.pushInline (inlineLeaf .htmlInline s)
  | .inlineHtml s => a.pushInline (inlineLeaf .htmlInline s)
  | .footnoteReference _ => a
  | .softBreak => a.pushInline (.mark .softBreak .single)
  | .hardBreak => a.pushInline (.mark .hardBreak .single)
  | .rule =>
    let a := a.flush
    a.push (.leaf .rule a.level)
  | .taskMarker checked => a.pushInline (.mark (.taskMarker checked) .single)

/-- Closes blocks as long as some are open.  `fuel` bounds their number. -/
def closeAll : Nat → Assembly → Assembly
  | 0, a => a
  | fuel + 1, a => if a.stack.isEmpty then a else closeAll fuel a.closeBlock

/-- Closes what is open. -/
def finish (a : Assembly) : Assembly :=
  let a := a.flush
  closeAll a.stack.length a

end Assembly

/-- The tokens of a list of events, and the texts of its metadata blocks. -/
def assemble (events : List Event) : List Token × List String :=
  let a := (events.foldl Assembly.event {}).finish
  (a.tokens.reverse, a.metadata.reverse)

end Folio.Markdown
