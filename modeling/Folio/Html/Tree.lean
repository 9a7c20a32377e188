import Folio.Html.Element

/-!
# Trees of elements

A page as the tree of its elements, and the text that such a tree is written as.

## Main definitions

* `Node` — a text, a comment or an element with what it holds.
* `Node.write`, `writeNodes` — the text of a tree.
-/

namespace Folio.Html

/-- A node of a page. -/
inductive Node where
  | text (s : String)
  | comment (s : String)
  | element (name : ElementName) (attributes : List ElementAttribute) (children : List Node)
  deriving Repr, Inhabited

/-- One character of a text that is written between tags. -/
def textChar (c : Char) : List Char :=
  if c == '&' then ['&', 'a', 'm', 'p', ';']
  else if c == '\u00a0' then ['&', 'n', 'b', 's', 'p', ';']
  else if c == '<' then ['&', 'l', 't', ';']
  else if c == '>' then ['&', 'g', 't', ';']
  else [c]

/-- One character of a value that is written between double quotes. -/
def valueChar (c : Char) : List Char :=
  if c == '\x22' then ['&', 'q', 'u', 'o', 't', ';'] else textChar c

/-- The text of an attribute, with the blank before it. -/
def ElementAttribute.write (a : ElementAttribute) : List Char :=
  let space := match a.space with
    | some s => s.text.toList ++ [':']
    | none => []
  ' ' :: space ++ a.name.toList ++ ['=', '\x22'] ++ a.value.toList.flatMap valueChar ++ ['\x22']

/-- The text of a start tag. -/
def writeStartTag (name : ElementName) (attributes : List ElementAttribute) : List Char :=
  '<' :: name.name.toList ++ attributes.flatMap ElementAttribute.write ++ ['>']

/-- The text of an end tag. -/
def writeEndTag (name : ElementName) : List Char :=
  '<' :: '/' :: name.name.toList ++ ['>']

mutual

/-- The text of a node that an element holds; the escaping of text depends on that element. -/
def Node.write (holder : ElementName) : Node → List Char
  | .text s => if isUnescaped holder then s.toList else s.toList.flatMap textChar
  | .comment s => "<!--".toList ++ s.toList ++ "-->".toList
  | .element name attributes children =>
    writeStartTag name attributes
      ++ if isVoid name then [] else writeNodes name children ++ writeEndTag name

/-- The text of nodes that an element holds. -/
def writeNodes (holder : ElementName) : List Node → List Char
  | [] => []
  | n :: rest => n.write holder ++ writeNodes holder rest

end

end Folio.Html
