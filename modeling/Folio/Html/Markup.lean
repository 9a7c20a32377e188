/-!
# Markup

What a renderer writes: tags, text and raw HTML, one after the other.  Text and the names and
values of attributes are escaped when the markup is written out, so nothing in them can begin a
tag or end a value.

## Main definitions

* `escape` — a text as it stands between tags or between quotes.
* `Markup` — one piece of a page.
* `Markup.write`, `writeAll` — the page as text.
-/

namespace Folio.Html

/-- One character of a text: the five characters that have a meaning in HTML are written as
character references. -/
def escapeChar (c : Char) : List Char :=
  if c == '&' then ['&', 'a', 'm', 'p', ';']
  else if c == '<' then ['&', 'l', 't', ';']
  else if c == '>' then ['&', 'g', 't', ';']
  else if c == '\x22' then ['&', 'q', 'u', 'o', 't', ';']
  else if c == '\x27' then ['&', '#', 'x', '2', '7', ';']
  else [c]

/-- A text with its special characters escaped. -/
def escapeChars (cs : List Char) : List Char := cs.flatMap escapeChar

/-- A text with its special characters escaped. -/
def escape (s : String) : String := String.ofList (escapeChars s.toList)

@[simp] theorem escapeChars_cons (c : Char) (cs : List Char) :
    escapeChars (c :: cs) = escapeChar c ++ escapeChars cs := rfl

theorem escapeChars_append (cs ds : List Char) :
    escapeChars (cs ++ ds) = escapeChars cs ++ escapeChars ds := by
  simp [escapeChars]

/-- An attribute of a tag; a flag has no value. -/
structure Attribute where
  /-- The name. -/
  name : String
  /-- The value. -/
  value : Option String
  deriving DecidableEq, Repr, Inhabited

/-- One piece of a page. -/
inductive Markup where
  | startTag (name : String) (attributes : List Attribute)
  | endTag (name : String)
  /-- Text, which is escaped. -/
  | text (s : String)
  /-- HTML that is written as it stands. -/
  | raw (s : String)
  deriving DecidableEq, Repr, Inhabited

/-- The text of an attribute, with the blank before it. -/
def Attribute.write (a : Attribute) : String :=
  match a.value with
  | some value => " " ++ escape a.name ++ "=\"" ++ escape value ++ "\""
  | none => " " ++ escape a.name

/-- The text of a piece. -/
def Markup.write : Markup → String
  | .startTag name attributes => "<" ++ name ++ String.join (attributes.map Attribute.write) ++ ">"
  | .endTag name => "</" ++ name ++ ">"
  | .text s => escape s
  | .raw s => s

/-- The text of a page. -/
def writeAll (page : List Markup) : String := String.join (page.map Markup.write)

/-- Named values as attributes. -/
def attributes (pairs : List (String × String)) : List Attribute :=
  pairs.map fun p => ⟨p.1, some p.2⟩

end Folio.Html
