import Folio.Markdown.Line

/-!
# Raw HTML

Which texts are tags, comments, declarations and the like, and which lines begin a block of
HTML.

## Main definitions

* `htmlTag?` — an opening or closing tag.
* `inlineHtml?` — any piece of HTML within a paragraph.
* `htmlBlockEnd?` — the text that ends a block of HTML, for the blocks that have one.
* `beginsHtmlBlock`, `isLoneTag` — the blocks of HTML that a blank line ends.
-/

namespace Folio.Markdown

/-- Blank space between the parts of a tag. -/
def isTagSpace (c : Char) : Bool := isLineSpace c || c == '\n'

/-- A character of a tag name after the first. -/
def isTagNameChar (c : Char) : Bool := c.isAlphanum || c == '-'

/-- The first character of an attribute name. -/
def isAttributeStart (c : Char) : Bool := c.isAlpha || c == '_' || c == ':'

/-- A character of an attribute name after the first. -/
def isAttributeChar (c : Char) : Bool :=
  c.isAlphanum || c == '_' || c == '.' || c == ':' || c == '-'

/-- A character of an attribute value without quotes. -/
def isBareValueChar (c : Char) : Bool :=
  !(c == '\x22' || c == '\x27' || c == ' ' || c == '=' || c == '>' || c == '<' || c == '\x60'
    || c == '\n')

/-- What follows the first occurrence of a text. -/
def afterFirst? (pattern : List Char) : List Char → Option (List Char)
  | [] => if pattern.isEmpty then some [] else none
  | c :: cs =>
    if pattern.isPrefixOf (c :: cs) then some ((c :: cs).drop pattern.length)
    else afterFirst? pattern cs

/-- What follows an attribute value. -/
def attributeValue? : List Char → Option (List Char)
  | [] => none
  | c :: cs =>
    if c == '\x22' || c == '\x27' then afterFirst? [c] cs
    else if isBareValueChar c then some (cs.dropWhile isBareValueChar)
    else none

/-- What follows an attribute, with or without a value. -/
def attribute? : List Char → Option (List Char)
  | [] => none
  | c :: cs =>
    if isAttributeStart c then
      let afterName := cs.dropWhile isAttributeChar
      match afterName.dropWhile isTagSpace with
      | '=' :: value => attributeValue? (value.dropWhile isTagSpace)
      | _ => some afterName
    else none

/-- What follows the attributes of a tag: the characters that end it.  `fuel` bounds the number
of attributes. -/
def attributes? : Nat → List Char → Option (List Char)
  | 0, _ => none
  | fuel + 1, cs =>
    match cs.dropWhile isTagSpace with
    | [] => none
    | c :: rest =>
      if c == '/' || c == '>' then some (c :: rest)
      else match cs with
        | d :: _ =>
          if isTagSpace d then (attribute? (c :: rest)).bind (attributes? fuel) else none
        | [] => none

/-- What follows a tag, from behind its `<`. -/
def htmlTag? (cs : List Char) : Option (List Char) :=
  match cs with
  | '/' :: c :: rest =>
    if c.isAlpha then
      match (rest.dropWhile isTagNameChar).dropWhile isLineSpace with
      | '>' :: after => some after
      | _ => none
    else none
  | c :: rest =>
    if c.isAlpha then
      let afterName := rest.dropWhile isTagNameChar
      match attributes? (afterName.length + 1) afterName with
      | some ('/' :: '>' :: after) => some after
      | some ('>' :: after) => some after
      | _ => none
    else none
  | [] => none

/-- What follows a comment, from behind its `<!--`. -/
def comment? (cs : List Char) : Option (List Char) :=
  match cs with
  | '>' :: after => some after
  | '-' :: '>' :: after => some after
  | _ => afterFirst? ['-', '-', '>'] cs

/-- What follows a section of character data, from behind its `<![CDATA[`.  The first run of
brackets has to end it. -/
def characterData? (cs : List Char) : Option (List Char) :=
  match cs.dropWhile (· != ']') with
  | [] => none
  | brackets =>
    match brackets.dropWhile (· == ']') with
    | '>' :: after => some after
    | _ => none

/-- What follows a piece of HTML within a paragraph, from behind its `<`. -/
def inlineHtml? (cs : List Char) : Option (List Char) :=
  match cs with
  | '!' :: '-' :: '-' :: rest => comment? rest
  | '!' :: '[' :: 'C' :: 'D' :: 'A' :: 'T' :: 'A' :: '[' :: rest => characterData? rest
  | '!' :: c :: rest => if c.isAlpha then afterFirst? ['>'] rest else none
  | '?' :: rest => afterFirst? ['?', '>'] rest
  | _ => htmlTag? cs

/-- The elements whose content is not markup, each with its closing tag. -/
def literalElements : List (String × String) :=
  [("pre", "</pre>"), ("style", "</style>"), ("script", "</script>"),
    ("textarea", "</textarea>")]

/-- The text begins with a name, in any case, and the name ends there. -/
def startsWithName (cs : List Char) (name : String) (ends : List Char → Bool) : Bool :=
  let n := name.toList.length
  (cs.take n).map Char.toLower == name.toList && ends (cs.drop n)

/-- The text whose line ends a block of HTML that begins behind the `<` with `cs`. -/
def htmlBlockEnd? (cs : List Char) : Option (List Char) :=
  let ends : List Char → Bool
    | [] => true
    | c :: _ => isTagSpace c || c == '>'
  match literalElements.find? fun e => startsWithName cs e.1 ends with
  | some e => some e.2.toList
  | none =>
    match cs with
    | '!' :: '-' :: '-' :: _ => some ['-', '-', '>']
    | '?' :: _ => some ['?', '>']
    | '!' :: '[' :: 'C' :: 'D' :: 'A' :: 'T' :: 'A' :: '[' :: _ => some [']', ']', '>']
    | '!' :: c :: _ => if c.isAlpha then some ['>'] else none
    | _ => none

/-- The elements that begin a block of HTML wherever they stand at the beginning of a line. -/
def blockElements : List String :=
  ["address", "article", "aside", "base", "basefont", "blockquote", "body", "caption", "center",
    "col", "colgroup", "dd", "details", "dialog", "dir", "div", "dl", "dt", "fieldset",
    "figcaption", "figure", "footer", "form", "frame", "frameset", "h1", "h2", "h3", "h4", "h5",
    "h6", "head", "header", "hr", "html", "iframe", "legend", "li", "link", "main", "menu",
    "menuitem", "nav", "noframes", "ol", "optgroup", "option", "p", "param", "search", "section",
    "summary", "table", "tbody", "td", "tfoot", "th", "thead", "title", "tr", "track", "ul"]

/-- A block element begins behind the `<` with `cs`. -/
def beginsHtmlBlock (cs : List Char) : Bool :=
  let cs := match cs with
    | '/' :: rest => rest
    | _ => cs
  let name := cs.takeWhile Char.isAlphanum
  let ends := match cs.drop name.length with
    | [] => true
    | '/' :: '>' :: _ => true
    | c :: _ => c == ' ' || c == '\t' || c == '>'
  blockElements.contains (String.ofList (name.map Char.toLower)) && ends

/-- A single tag, behind whose `<` stands `cs`, fills the line. -/
def isLoneTag (cs : List Char) : Bool :=
  match htmlTag? cs with
  | some rest => isBlankLine rest
  | none => false

end Folio.Markdown
