import Folio.Html.Lexeme
import Folio.Html.Tree

/-!
# Pages under construction

A page is read into nodes that are moved while it is read, so they stand in a table and refer to
each other by number.  Beside the table the reader keeps the elements that are open and the
formatting elements that go on in the next block.

## Main definitions

* `Table` — nodes by number, with what moves them.
* `Builder` — a table with the open elements and the state of the reader.
* `Builder.insert`, `Builder.insertCharacters` — new nodes at the place where the reader is.
* `Builder.closeFormatting` — the end tag of a formatting element, which may be misnested.
-/

namespace Folio.Html

/-! ### Nodes by number -/

/-- A node in the table. -/
structure Entry where
  /-- The node, without what it holds. -/
  node : Node
  /-- The node that holds it. -/
  parent : Option Nat := none
  /-- The nodes that it holds, the last one first. -/
  children : List Nat := []
  deriving Repr, Inhabited

/-- Nodes by number. -/
structure Table where
  /-- The entry of each number. -/
  entries : Array Entry
  deriving Repr, Inhabited

namespace Table

/-- The count of nodes, which is the number of the next one. -/
def size (t : Table) : Nat := t.entries.size

/-- The node that holds a node. -/
def parent? (t : Table) (i : Nat) : Option Nat := (t.entries[i]?).bind Entry.parent

/-- Adds a node that nothing holds. -/
def push (t : Table) (node : Node) : Table := ⟨t.entries.push { node := node }⟩

/-- Changes the entry of a node. -/
def change (t : Table) (i : Nat) (f : Entry → Entry) : Table := ⟨t.entries.modify i f⟩

/-- Takes a node out of the node that holds it. -/
def detach (t : Table) (i : Nat) : Table :=
  match t.parent? i with
  | some p =>
    let t := t.change p fun e => { e with children := e.children.filter (· != i) }
    t.change i fun e => { e with parent := none }
  | none => t

/-- Makes a node the last one in another. -/
def append (t : Table) (holder i : Nat) : Table :=
  let t := (t.detach i).change i fun e => { e with parent := some holder }
  t.change holder fun e => { e with children := i :: e.children }

/-- The list with `i` behind the first `next`. -/
def insertBehind (next i : Nat) : List Nat → List Nat
  | [] => []
  | j :: rest => if j == next then j :: i :: rest else j :: insertBehind next i rest

/-- Puts a node just before another, in the node that holds that. -/
def insertBefore (t : Table) (next i : Nat) : Table :=
  match t.parent? next with
  | some p =>
    let t := (t.detach i).change i fun e => { e with parent := some p }
    t.change p fun e => { e with children := insertBehind next i e.children }
  | none => t

/-- Moves all that one node holds to another. -/
def moveChildren (t : Table) (source target : Nat) : Table :=
  match t.entries[source]? with
  | some e => e.children.reverse.foldl (fun t i => t.append target i) t
  | none => t

/-- The tree below a node.  `fuel` bounds its depth.  What a template holds is not part of the
page. -/
def tree (t : Table) : Nat → Nat → Node
  | 0, _ => .text ""
  | fuel + 1, i =>
    match t.entries[i]? with
    | some e =>
      match e.node with
      | .element name attributes _ =>
        if name.isNamed "template" then .element name attributes []
        else .element name attributes (e.children.reverse.map (t.tree fuel))
      | node => node
    | none => .text ""

end Table

/-! ### The state of the reader -/

/-- What the reader expects next. -/
inductive Mode where
  | body
  | text
  | table
  | tableText
  | caption
  | columnGroup
  | tableBody
  | row
  | cell
  | template
  deriving DecidableEq, Repr, Inhabited

/-- An element that is open. -/
structure OpenElement where
  /-- Its number in the table. -/
  id : Nat
  /-- Its name. -/
  name : ElementName
  /-- It is MathML that announces HTML. -/
  announcesHtml : Bool := false
  deriving DecidableEq, Repr, Inhabited

/-- A formatting element that goes on in the next block. -/
structure Formatting where
  /-- Its number in the table. -/
  id : Nat
  /-- Its start tag. -/
  tag : Tag
  deriving DecidableEq, Repr, Inhabited

/-- The state of the reader. -/
structure Builder where
  /-- The nodes; the first is the root of the page. -/
  nodes : Table := ⟨#[{ node := .element ⟨.html, "html"⟩ [] [] }]⟩
  /-- The open elements, the innermost first. -/
  stack : List OpenElement := [{ id := 0, name := ⟨.html, "html"⟩ }]
  /-- The formatting elements, the last one first, with a mark where a cell or an object began. -/
  formatting : List (Option Formatting) := []
  /-- What is expected next. -/
  mode : Mode := .body
  /-- What is expected behind text. -/
  after : Mode := .body
  /-- What is expected in the open templates, the innermost first. -/
  templates : List Mode := []
  /-- Text in a table that is not placed yet, the last character first. -/
  pending : List Char := []
  /-- The open form. -/
  form : Option Nat := none
  /-- What does not fit into a table goes before it. -/
  fostering : Bool := false
  /-- A line feed that comes next is dropped. -/
  dropsNewline : Bool := false
  /-- How the text of the innermost element is read. -/
  content : Content := .markup
  deriving Inhabited

namespace Builder

/-! ### Open elements -/

/-- The name of the innermost open element. -/
def current (b : Builder) : ElementName :=
  match b.stack with
  | e :: _ => e.name
  | [] => ⟨.html, "html"⟩

/-- Closes the innermost open element. -/
def pop (b : Builder) : Builder := { b with stack := b.stack.tail }

/-- Closes open elements up to and including the first one that satisfies a test. -/
def popThrough (b : Builder) (test : ElementName → Bool) : Builder :=
  { b with stack := (b.stack.dropWhile fun e => !test e.name).tail }

/-- Closes open elements up to and including the first one of a name. -/
def popNamed (b : Builder) (name : String) : Builder := b.popThrough fun e => e.isNamed name

/-- Closes open elements down to the first one of some names. -/
def popTo (b : Builder) (names : List String) : Builder :=
  { b with stack := b.stack.dropWhile fun e => !e.name.isOneOf names }

/-- Closes open elements whose end tag may be left out. -/
def closeImplied (b : Builder) (names : List String) : Builder :=
  { b with stack := b.stack.dropWhile fun e => e.name.isOneOf names }

/-- Closes open elements whose end tag may be left out, but for those of a name. -/
def closeImpliedBut (b : Builder) (name : String) : Builder :=
  b.closeImplied (impliedNames.filter (· != name))

/-- An open element satisfies a test, and no element between it and the innermost one ends the
scope. -/
def inScope (s : Scope) (test : OpenElement → Bool) : List OpenElement → Bool
  | [] => false
  | e :: rest => test e || (!e.name.endsScope s && inScope s test rest)

/-- An element of a name is open in a scope. -/
def has (b : Builder) (s : Scope) (name : String) : Bool :=
  inScope s (fun e => e.name.isNamed name) b.stack

/-- An element of a name is open. -/
def isInside (b : Builder) (name : String) : Bool := b.stack.any fun e => e.name.isNamed name

/-- Closes the open paragraph. -/
def closeParagraph (b : Builder) : Builder := (b.closeImpliedBut "p").popNamed "p"

/-- Closes a paragraph if one is open. -/
def endParagraph (b : Builder) : Builder := if b.has .button "p" then b.closeParagraph else b

/-! ### New nodes -/

/-- A place for a node. -/
inductive Place where
  | lastOf (holder : Nat)
  | before (next : Nat)
  deriving DecidableEq, Repr

/-- The place before the innermost table, or at the end of the innermost template inside it. -/
def fosterPlace (nodes : Table) : List OpenElement → Place
  | [] => .lastOf 0
  | e :: rest =>
    if e.name.isNamed "template" then .lastOf e.id
    else if e.name.isNamed "table" then
      if (nodes.parent? e.id).isSome then .before e.id
      else .lastOf ((rest.head?.map OpenElement.id).getD 0)
    else fosterPlace nodes rest

/-- The place of a node that comes next in an open element. -/
def placeIn (b : Builder) (e : OpenElement) : Place :=
  if b.fostering && e.name.isOneOf ["table", "tbody", "tfoot", "thead", "tr"] then
    fosterPlace b.nodes b.stack
  else .lastOf e.id

/-- The place of a node that comes next. -/
def place (b : Builder) : Place :=
  match b.stack with
  | e :: _ => b.placeIn e
  | [] => .lastOf 0

/-- Puts a node at a place. -/
def put (nodes : Table) (p : Place) (i : Nat) : Table :=
  match p with
  | .lastOf holder => nodes.append holder i
  | .before next => nodes.insertBefore next i

/-- Adds a node where the reader is. -/
def add (b : Builder) (node : Node) : Builder :=
  { b with nodes := put (b.nodes.push node) b.place b.nodes.size }

/-- MathML that announces that it holds HTML. -/
def announcesHtml (name : ElementName) (attributes : List ElementAttribute) : Bool :=
  name == ⟨.mathml, "annotation-xml"⟩ && attributes.any fun a =>
    a.name == "encoding" && ["text/html", "application/xhtml+xml"].contains a.value.toLower

/-- Adds an element where the reader is, and opens it. -/
def insertIn (b : Builder) (space : Namespace) (t : Tag) : Builder :=
  let name : ElementName := ⟨space, t.name⟩
  let opened : OpenElement := ⟨b.nodes.size, name, announcesHtml name t.attributes⟩
  let b := b.add (.element name t.attributes [])
  { b with stack := opened :: b.stack }

/-- Adds an element of HTML where the reader is, and opens it. -/
def insert (b : Builder) (t : Tag) : Builder := b.insertIn .html t

/-- Adds an element without content where the reader is. -/
def insertEmpty (b : Builder) (t : Tag) : Builder := (b.insert t).pop

/-- Adds characters where the reader is. -/
def insertCharacters (b : Builder) (cs : List Char) : Builder :=
  if cs.isEmpty then b else b.add (.text (String.ofList cs))

/-- Opens an element whose content is text. -/
def insertText (b : Builder) (t : Tag) (content : Content) : Builder :=
  { b.insert t with mode := .text, after := b.mode, content := content }

/-! ### Formatting elements -/

/-- The formatting elements since the last mark, the last one first. -/
def sinceMark : List (Option Formatting) → List Formatting
  | some f :: rest => f :: sinceMark rest
  | _ => []

/-- Marks the place where formatting ends. -/
def mark (b : Builder) : Builder := { b with formatting := none :: b.formatting }

/-- Forgets the formatting elements since the last mark, and the mark. -/
def clearToMark (b : Builder) : Builder :=
  { b with formatting := (b.formatting.dropWhile Option.isSome).tail }

/-- Forgets a formatting element. -/
def forget (b : Builder) (id : Nat) : Builder :=
  { b with formatting := b.formatting.filter fun f => f.map Formatting.id != some id }

/-- Closes an open element, wherever it is. -/
def dropOpen (b : Builder) (id : Nat) : Builder :=
  { b with stack := b.stack.filter fun e => e.id != id }

/-- The formatting element is open. -/
def isOpen (b : Builder) (f : Formatting) : Bool := b.stack.any fun e => e.id == f.id

/-- Opens formatting elements again, given the last one first. -/
def reopen (b : Builder) : List Formatting → Builder
  | [] => b
  | f :: earlier =>
    let b := b.reopen earlier
    let id := b.nodes.size
    let b := b.insert f.tag
    { b with formatting := b.formatting.map fun g =>
        if g.map Formatting.id == some f.id then some { f with id := id } else g }

/-- Opens the formatting elements again that go on here. -/
def resumeFormatting (b : Builder) : Builder :=
  b.reopen ((sinceMark b.formatting).takeWhile fun f => !b.isOpen f)

/-- Two tags have the same name and the same attributes, in any order. -/
def sameTag (t u : Tag) : Bool :=
  t.name == u.name && t.attributes.length == u.attributes.length
    && t.attributes.all u.attributes.contains

/-- Opens a formatting element.  Of four that are the same the first is forgotten. -/
def insertFormatting (b : Builder) (t : Tag) : Builder :=
  let same := (sinceMark b.formatting).filter fun f => sameTag t f.tag
  let b := match same[2]? with
    | some first => b.forget first.id
    | none => b
  let id := b.nodes.size
  let b := b.insert t
  { b with formatting := some ⟨id, t⟩ :: b.formatting }

/-- An element of a name is open, and no element between it and the innermost one is special. -/
def isReached (name : String) : List OpenElement → Bool
  | [] => false
  | e :: rest => e.name.isNamed name || (!e.name.isSpecial && isReached name rest)

/-- The end tag of an element without rules of its own. -/
def closeOther (b : Builder) (name : String) : Builder :=
  if isReached name b.stack then (b.closeImpliedBut name).popNamed name else b

/-- How a misnested formatting element is taken apart. -/
structure Adoption where
  /-- The state of the reader. -/
  builder : Builder
  /-- The elements that stay open, the outermost first. -/
  kept : List OpenElement := []
  /-- The outermost element that is moved. -/
  last : Nat
  /-- The formatting element behind which the new one comes. -/
  mark : Option Nat := none

/-- Takes the `n`th element between a formatting element and the block in it: it is opened again
around what is moved, unless it does not count as formatting. -/
def Adoption.step (block : Nat) (a : Adoption) (e : OpenElement) (n : Nat) : Adoption :=
  let b := a.builder
  match b.formatting.find? fun f => f.map Formatting.id == some e.id with
  | some (some f) =>
    if 2 < n then { a with builder := b.forget e.id }
    else
      let id := b.nodes.size
      let nodes := b.nodes.push (.element ⟨.html, f.tag.name⟩ f.tag.attributes [])
      { builder :=
          { b with
            nodes := nodes.append id a.last
            formatting := b.formatting.map fun g =>
              if g.map Formatting.id == some e.id then some { f with id := id } else g }
        kept := ⟨id, ⟨.html, f.tag.name⟩, false⟩ :: a.kept
        last := id
        mark := if a.last == block then some id else a.mark }
  | _ => a

/-- The list with a formatting element put before the one of a number, which is behind it on the
page. -/
def insertFormattingBehind (id : Nat) (new : Formatting) :
    List (Option Formatting) → List (Option Formatting)
  | [] => []
  | f :: rest =>
    if f.map Formatting.id == some id then some new :: f :: rest
    else f :: insertFormattingBehind id new rest

/-- Takes a formatting element `f` apart that holds a block: the elements between them are opened
again around the block, and `f` inside it. -/
def adopt (b : Builder) (f : Formatting) (newer : List OpenElement) (block : OpenElement)
    (between below : List OpenElement) : Builder :=
  let a := between.zipIdx.foldl (fun a p => a.step block.id p.1 p.2)
    ({ builder := b, last := block.id } : Adoption)
  let b := a.builder
  let target := match below with
    | e :: _ => b.placeIn e
    | [] => .lastOf 0
  let nodes := put b.nodes target a.last
  let id := nodes.size
  let nodes := nodes.push (.element ⟨.html, f.tag.name⟩ f.tag.attributes [])
  let nodes := (nodes.moveChildren block.id id).append block.id id
  let renewed : Formatting := { f with id := id }
  let formatting := match a.mark with
    | none => b.formatting.map fun g =>
      if g.map Formatting.id == some f.id then some renewed else g
    | some m => (insertFormattingBehind m renewed b.formatting).filter fun g =>
      g.map Formatting.id != some f.id
  { b with
    nodes := nodes
    formatting := formatting
    stack := newer ++ ⟨id, ⟨.html, f.tag.name⟩, false⟩ :: block :: a.kept.reverse ++ below }

/-- The list split at its last element that satisfies a test. -/
def splitLast? {α : Type} (test : α → Bool) (l : List α) : Option (List α × α × List α) :=
  let after := (l.reverse.takeWhile fun x => !test x).reverse
  match (l.reverse.drop after.length) with
  | x :: before => some (before.reverse, x, after)
  | [] => none

/-- Closes the formatting element of a name, at most `fuel` times taken apart. -/
def closeFormattingWith (name : String) : Nat → Builder → Builder
  | 0, b => b
  | fuel + 1, b =>
    match (sinceMark b.formatting).find? fun f => f.tag.name == name with
    | none => b.closeOther name
    | some f =>
      let above := b.stack.takeWhile fun e => e.id != f.id
      match b.stack.drop above.length with
      | [] => b.forget f.id
      | _ :: below =>
        if !inScope .general (fun e => e.id == f.id) b.stack then b
        else match splitLast? (fun e => e.name.isSpecial) above with
          | none => { b.forget f.id with stack := below }
          | some (newer, block, between) =>
            closeFormattingWith name fuel (b.adopt f newer block between below)

/-- The end tag of a formatting element.  Where it is misnested the element is taken apart, so
that it ends here and goes on inside the block that is open. -/
def closeFormatting (b : Builder) (name : String) : Builder :=
  let idle := match b.stack with
    | e :: _ => e.name.isNamed name && !b.formatting.any fun f => f.map Formatting.id == some e.id
    | [] => false
  if idle then b.pop else closeFormattingWith name 8 b

end Builder

end Folio.Html
