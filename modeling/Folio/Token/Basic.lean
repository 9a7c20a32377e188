/-!
# Tokens

A document between reading and rendering is a flat list of tokens.  A block that holds other
blocks is a pair of an opening and a closing token of one kind; a run of inline content is one
token of kind `inline`, whose children are the inline tokens.

## Main definitions

* `Kind`, `Nesting`, `Token` — the model.
* `Attributes.get?`, `Attributes.set`, `Attributes.join` — the attributes of a token.
* `Token.opening`, `Token.closing`, `Token.leaf`, `Token.text` — builders.
* `plainText` — the visible text of a list of tokens.
* `Token.inlineRun` — a run of inline content, which caches the plain text of its children.
-/

namespace Folio

/-- The place of a token in the structure. -/
inductive Nesting where
  /-- Begins a container. -/
  | opening
  /-- Ends the innermost container of its kind. -/
  | closing
  /-- Stands alone. -/
  | single
  deriving DecidableEq, Repr, Inhabited

/-- What a token stands for. -/
inductive Kind where
  | heading (level : Nat)
  | paragraph
  | blockquote
  | bulletList
  | orderedList
  | listItem
  | table
  | tableHead
  | tableBody
  | tableRow
  | tableHeaderCell
  | tableDataCell
  | definitionList
  | definitionTerm
  | definitionDetails
  /-- A code block: its language in `info`, its source in `content`. -/
  | fence
  | htmlBlock
  | rule
  /-- A run of inline content. -/
  | inline
  | text
  | codeInline
  | htmlInline
  | softBreak
  | hardBreak
  | emphasis
  | strong
  | strikethrough
  | superscript
  | subscript
  | link
  /-- An image: the text between its two tokens is the alternative text. -/
  | image
  | taskMarker (checked : Bool)
  /-- A kind of a plugin's own. -/
  | custom (name : String)
  deriving DecidableEq, Repr, Inhabited

/-- Attributes in order of their insertion. -/
abbrev Attributes := List (String × String)

namespace Attributes

/-- The value of the first attribute of this name. -/
def get? (attrs : Attributes) (name : String) : Option String :=
  attrs.lookup name

/-- The attributes with `value` under `name`: the first of that name is replaced, a new one goes
to the end. -/
def set : Attributes → String → String → Attributes
  | [], name, value => [(name, value)]
  | (n, v) :: rest, name, value =>
    if n == name then (n, value) :: rest else (n, v) :: set rest name value

/-- The attributes with `value` added to the words under `name`. -/
def join : Attributes → String → String → Attributes
  | [], name, value => [(name, value)]
  | (n, v) :: rest, name, value =>
    if n == name then (n, if v.isEmpty then value else v ++ " " ++ value) :: rest
    else (n, v) :: join rest name value

end Attributes

/-- One node of a document. -/
structure Token where
  /-- What the token stands for. -/
  kind : Kind
  /-- Whether it begins a container, ends one or stands alone. -/
  nesting : Nesting
  /-- The number of blocks around the token; 0 for inline tokens. -/
  level : Nat
  /-- The attributes of the element. -/
  attrs : Attributes := []
  /-- The text of the token itself. -/
  content : String := ""
  /-- The words behind an opening code fence, or the origin of a link. -/
  info : String := ""
  /-- The inline tokens of a run or of a custom token. -/
  children : List Token := []
  /-- The token is a block. -/
  block : Bool := false
  /-- The renderer passes over the token. -/
  hidden : Bool := false
  deriving Repr, Inhabited, BEq

namespace Token

/-- A block that begins a container. -/
def opening (kind : Kind) (level : Nat) : Token :=
  { kind, nesting := .opening, level, block := true }

/-- A block that ends a container. -/
def closing (kind : Kind) (level : Nat) : Token :=
  { kind, nesting := .closing, level, block := true }

/-- A block that stands alone. -/
def leaf (kind : Kind) (level : Nat) : Token :=
  { kind, nesting := .single, level, block := true }

/-- An inline token without content. -/
def mark (kind : Kind) (nesting : Nesting) : Token :=
  { kind, nesting, level := 0 }

/-- An inline token of text. -/
def text (content : String) : Token :=
  { kind := .text, nesting := .single, level := 0, content }

/-- The token begins a container. -/
def isOpening (t : Token) : Bool := t.nesting == .opening

/-- The token ends a container. -/
def isClosing (t : Token) : Bool := t.nesting == .closing

/-- The level of a heading, if the token begins one. -/
def headingLevel? (t : Token) : Option Nat :=
  match t.kind, t.nesting with
  | .heading n, .opening => some n
  | _, _ => none

/-- The token with other content. -/
def withContent (t : Token) (content : String) : Token := { t with content }

/-- The token with `value` for the attribute `name`. -/
def setAttr (t : Token) (name value : String) : Token :=
  { t with attrs := t.attrs.set name value }

/-- The token with a word added to the attribute `name`. -/
def joinAttr (t : Token) (name value : String) : Token :=
  { t with attrs := t.attrs.join name value }

/-- The value of an attribute. -/
def attr? (t : Token) (name : String) : Option String := t.attrs.get? name

mutual

/-- The visible text of a token: the content of text and code, a blank for a break, and the text
of the children of all else. -/
def plainText : Token → String
  | ⟨kind, _, _, _, content, _, children, _, _⟩ =>
    match kind with
    | .text | .codeInline => content
    | .softBreak | .hardBreak => " "
    | _ => plainTextOf children

/-- The visible texts of the tokens, one after the other. -/
def plainTextOf : List Token → String
  | [] => ""
  | t :: ts => t.plainText ++ plainTextOf ts

end

/-- A run of inline content at a level.  It caches the plain text of its children. -/
def inlineRun (children : List Token) (level : Nat) : Token :=
  { kind := .inline, nesting := .single, level, content := plainTextOf children, children,
    block := true }

end Token

/-- The visible text of a list of tokens. -/
def plainText (tokens : List Token) : String := Token.plainTextOf tokens

@[simp] theorem plainText_nil : plainText [] = "" := by simp [plainText, Token.plainTextOf]

@[simp] theorem plainText_cons (t : Token) (ts : List Token) :
    plainText (t :: ts) = t.plainText ++ plainText ts := by simp [plainText, Token.plainTextOf]

end Folio
