import Folio.Html.Builder

/-!
# Reading modes

What each lexeme of a page does to the page under construction, in each mode of the reader.

## Main definitions

* `Builder.inBody`, `Builder.inTable`, … — the rules of each mode.
* `Builder.inForeign` — the rules inside SVG and MathML.
* `Builder.read` — what a lexeme does, whatever the mode.
-/

namespace Folio.Html

namespace Builder

/-- White space between elements. -/
def isSpace (c : Char) : Bool := isTagBlank c || c == '\r'

/-- What a lexeme comes to. -/
inductive Outcome where
  | done (b : Builder)
  /-- The lexeme is to be read again, in the mode that the reader is in now. -/
  | again (b : Builder)
  deriving Inhabited

/-! ### Head and templates -/

/-- The start tag of an element that belongs to the head of a page. -/
def startHead (b : Builder) (t : Tag) : Builder :=
  if t.name == "title" then b.insertText t (.escapable "title")
  else if t.name == "script" then b.insertText t .script
  else if t.name == "noframes" || t.name == "style" then b.insertText t (.raw t.name)
  else if t.name == "template" then
    { (b.insert t).mark with mode := .template, templates := .template :: b.templates }
  else b.insertEmpty t

/-- The names of elements that belong to the head of a page. -/
def headNames : List String :=
  ["base", "basefont", "bgsound", "link", "meta", "noframes", "script", "style", "template",
    "title"]

/-- The mode that belongs to open elements. -/
def modeOf (templates : List Mode) : List OpenElement → Mode
  | [] => .body
  | [_] => .body
  | e :: rest =>
    if e.name.isOneOf ["td", "th"] then .cell
    else if e.name.isNamed "tr" then .row
    else if e.name.isOneOf ["tbody", "thead", "tfoot"] then .tableBody
    else if e.name.isNamed "caption" then .caption
    else if e.name.isNamed "colgroup" then .columnGroup
    else if e.name.isNamed "table" then .table
    else if e.name.isNamed "template" then templates.headD .body
    else modeOf templates rest

/-- The reader in the mode that belongs to its open elements. -/
def resetMode (b : Builder) : Builder := { b with mode := modeOf b.templates b.stack }

/-- The end tag of a template. -/
def endTemplate (b : Builder) : Builder :=
  if b.isInside "template" then
    let b := ((b.closeImplied thoroughlyImpliedNames).popNamed "template").clearToMark
    { b with templates := b.templates.tail }.resetMode
  else b

/-! ### The body -/

/-- The block elements that may not stand in a paragraph. -/
def blockNames : List String :=
  ["address", "article", "aside", "blockquote", "center", "details", "dialog", "dir", "div", "dl",
    "fieldset", "figcaption", "figure", "footer", "header", "hgroup", "main", "menu", "nav", "ol",
    "p", "search", "section", "summary", "ul"]

/-- The block elements that an end tag closes. -/
def closedBlockNames : List String :=
  ["address", "article", "aside", "blockquote", "button", "center", "details", "dialog", "dir",
    "div", "dl", "fieldset", "figcaption", "figure", "footer", "header", "hgroup", "listing",
    "main", "menu", "nav", "ol", "pre", "search", "section", "select", "summary", "ul"]

/-- The formatting elements. -/
def formattingNames : List String :=
  ["a", "b", "big", "code", "em", "font", "i", "nobr", "s", "small", "strike", "strong", "tt",
    "u"]

/-- The elements of which one ends the other's item, that is open and that no other block is in. -/
def openItem? (names : List String) : List OpenElement → Option String
  | [] => none
  | e :: rest =>
    if e.name.isOneOf names then some e.name.name
    else if e.name.isSpecial && !e.name.isOneOf ["address", "div", "p"] then none
    else openItem? names rest

/-- The start tag of an item, which ends the item before it. -/
def startItem (b : Builder) (names : List String) (t : Tag) : Builder :=
  let b := match openItem? names b.stack with
    | some name => (b.closeImpliedBut name).popNamed name
    | none => b
  b.endParagraph.insert t

/-- Closes the link that is open, so that links do not nest. -/
def endLink (b : Builder) : Builder :=
  match (sinceMark b.formatting).find? fun f => f.tag.name == "a" with
  | some f => ((b.closeFormatting "a").forget f.id).dropOpen f.id
  | none => b

/-- The start tag of the root of SVG or MathML. -/
def startForeign (b : Builder) (space : Namespace) (t : Tag) : Builder :=
  let b := b.insertIn space (t.respelled space)
  if t.selfClosing then b.pop else b

/-- The start tag of a control of a form. -/
def startControl (b : Builder) (t : Tag) : Builder :=
  let inSelect := b.has .general "select"
  if t.name == "select" then
    if inSelect then b.popNamed "select" else b.resumeFormatting.insert t
  else if t.name == "input" then
    let b := if inSelect then b.popNamed "select" else b
    b.resumeFormatting.insertEmpty t
  else if t.name == "button" then
    let b := if b.has .general "button" then (b.closeImplied impliedNames).popNamed "button" else b
    b.resumeFormatting.insert t
  else if t.name == "textarea" then
    { b.insertText t (.escapable "textarea") with dropsNewline := true }
  else
    let b :=
      if inSelect then
        if t.name == "option" then b.closeImpliedBut "optgroup" else b.closeImplied impliedNames
      else if b.current.isNamed "option" then b.pop
      else b
    b.resumeFormatting.insert t

/-- A start tag in the body. -/
def startBody (b : Builder) (t : Tag) : Builder :=
  let one (names : List String) : Bool := names.contains t.name
  if one headNames then b.startHead t
  else if one ["html", "body", "frameset", "caption", "col", "colgroup", "frame", "head", "tbody",
    "td", "tfoot", "th", "thead", "tr"] then b
  else if one blockNames then b.endParagraph.insert t
  else if one headingNames then
    let b := b.endParagraph
    (if b.current.isOneOf headingNames then b.pop else b).insert t
  else if one ["pre", "listing"] then { b.endParagraph.insert t with dropsNewline := true }
  else if t.name == "form" then
    if b.isInside "template" then b.endParagraph.insert t
    else if b.form.isSome then b
    else
      let b := b.endParagraph
      { b.insert t with form := some b.nodes.size }
  else if t.name == "li" then b.startItem ["li"] t
  else if one ["dd", "dt"] then b.startItem ["dd", "dt"] t
  else if t.name == "plaintext" then { b.endParagraph.insert t with content := .plain }
  else if one ["button", "select", "input", "textarea", "option", "optgroup"] then
    b.startControl t
  else if t.name == "a" then b.endLink.resumeFormatting.insertFormatting t
  else if t.name == "nobr" then
    let b := b.resumeFormatting
    let b := if b.has .general "nobr" then (b.closeFormatting "nobr").resumeFormatting else b
    b.insertFormatting t
  else if one formattingNames then b.resumeFormatting.insertFormatting t
  else if one ["applet", "marquee", "object"] then (b.resumeFormatting.insert t).mark
  else if t.name == "table" then { b.endParagraph.insert t with mode := .table }
  else if one ["area", "br", "embed", "img", "keygen", "wbr"] then b.resumeFormatting.insertEmpty t
  else if t.name == "image" then b.resumeFormatting.insertEmpty { t with name := "img" }
  else if one ["param", "source", "track"] then b.insertEmpty t
  else if t.name == "hr" then
    let b := b.endParagraph
    (if b.has .general "select" then b.closeImplied impliedNames else b).insertEmpty t
  else if t.name == "xmp" then b.endParagraph.resumeFormatting.insertText t (.raw "xmp")
  else if one ["iframe", "noembed"] then b.insertText t (.raw t.name)
  else if one ["rb", "rtc"] then
    (if b.has .general "ruby" then b.closeImplied impliedNames else b).insert t
  else if one ["rp", "rt"] then
    (if b.has .general "ruby" then b.closeImpliedBut "rtc" else b).insert t
  else if t.name == "math" then b.resumeFormatting.startForeign .mathml t
  else if t.name == "svg" then b.resumeFormatting.startForeign .svg t
  else b.resumeFormatting.insert t

/-- The end tag of a form. -/
def endForm (b : Builder) : Builder :=
  if b.isInside "template" then
    if b.has .general "form" then (b.closeImplied impliedNames).popNamed "form" else b
  else match b.form with
    | none => b
    | some id =>
      let b := { b with form := none }
      if inScope .general (fun e => e.id == id) b.stack then
        (b.closeImplied impliedNames).dropOpen id
      else b

/-- An end tag in the body. -/
def endBody (b : Builder) (t : Tag) : Builder :=
  let one (names : List String) : Bool := names.contains t.name
  if t.name == "template" then b.endTemplate
  else if one ["body", "html"] then b
  else if one closedBlockNames then
    if b.has .general t.name then (b.closeImplied impliedNames).popNamed t.name else b
  else if t.name == "form" then b.endForm
  else if t.name == "p" then
    (if b.has .button "p" then b else b.insert { name := "p" }).closeParagraph
  else if t.name == "li" then
    if b.has .listItem "li" then (b.closeImpliedBut "li").popNamed "li" else b
  else if one ["dd", "dt"] then
    if b.has .general t.name then (b.closeImpliedBut t.name).popNamed t.name else b
  else if one headingNames then
    if inScope .general (fun e => e.name.isOneOf headingNames) b.stack then
      (b.closeImplied impliedNames).popThrough fun e => e.isOneOf headingNames
    else b
  else if one formattingNames then b.closeFormatting t.name
  else if one ["applet", "marquee", "object"] then
    if b.has .general t.name then
      ((b.closeImplied impliedNames).popNamed t.name).clearToMark
    else b
  else if t.name == "br" then b.resumeFormatting.insertEmpty { name := "br" }
  else b.closeOther t.name

/-- Characters in the body. -/
def bodyCharacters (b : Builder) (cs : List Char) : Builder :=
  let cs := cs.filter (· != '\x00')
  if cs.isEmpty then b else b.resumeFormatting.insertCharacters cs

/-- A lexeme in the body. -/
def inBody (b : Builder) : Lexeme → Builder
  | .startTag t => b.startBody t
  | .endTag t => b.endBody t
  | .comment s => b.add (.comment s)
  | .characters cs => b.bodyCharacters cs

/-- A lexeme in the body that may not stand in a table. -/
def foster (b : Builder) (l : Lexeme) : Builder :=
  { { b with fostering := true }.inBody l with fostering := false }

/-- A lexeme in an element whose content is text. -/
def inText (b : Builder) : Lexeme → Builder
  | .characters cs => b.insertCharacters cs
  | .endTag _ => { b.pop with mode := b.after, content := .markup }
  | _ => b

/-! ### Tables -/

/-- The elements between which a table has no text. -/
def tableNames : List String := ["table", "tbody", "template", "tfoot", "thead", "tr"]

/-- The input is not shown. -/
def isHidden (t : Tag) : Bool :=
  t.attributes.any fun a => a.name == "type" && a.value.toLower == "hidden"

/-- A start tag in a table. -/
def startTable (b : Builder) (t : Tag) : Outcome :=
  let one (names : List String) : Bool := names.contains t.name
  let b' := b.popTo ["html", "table", "template"]
  if t.name == "caption" then .done { b'.mark.insert t with mode := .caption }
  else if t.name == "colgroup" then .done { b'.insert t with mode := .columnGroup }
  else if t.name == "col" then
    .again { b'.insert { name := "colgroup" } with mode := .columnGroup }
  else if one ["tbody", "tfoot", "thead"] then .done { b'.insert t with mode := .tableBody }
  else if one ["td", "th", "tr"] then
    .again { b'.insert { name := "tbody" } with mode := .tableBody }
  else if t.name == "table" then
    if b.has .table "table" then .again (b.popNamed "table").resetMode else .done b
  else if one ["style", "script", "template"] then .done (b.startHead t)
  else if t.name == "input" && isHidden t then .done (b.insertEmpty t)
  else if t.name == "form" then
    if b.isInside "template" || b.form.isSome then .done b
    else .done { b.insertEmpty t with form := some b.nodes.size }
  else .done (b.foster (.startTag t))

/-- An end tag in a table. -/
def endTable (b : Builder) (t : Tag) : Outcome :=
  let one (names : List String) : Bool := names.contains t.name
  if t.name == "table" then
    if b.has .table "table" then .done (b.popNamed "table").resetMode else .done b
  else if one ["body", "caption", "col", "colgroup", "html", "tbody", "td", "tfoot", "th", "thead",
    "tr"] then .done b
  else if t.name == "template" then .done b.endTemplate
  else .done (b.foster (.endTag t))

/-- A lexeme in a table. -/
def inTable (b : Builder) : Lexeme → Outcome
  | .startTag t => b.startTable t
  | .endTag t => b.endTable t
  | .comment s => .done (b.add (.comment s))
  | .characters cs =>
    if b.current.isOneOf tableNames then
      .again { b with mode := .tableText, after := b.mode, pending := [] }
    else .done (b.foster (.characters cs))

/-- Places the text of a table: before the table, unless it is blank. -/
def placePending (b : Builder) : Builder :=
  let cs := b.pending.reverse
  let b := { b with pending := [], mode := b.after }
  if cs.all isSpace then b.insertCharacters cs else b.foster (.characters cs)

/-- A lexeme in the text of a table. -/
def inTableText (b : Builder) : Lexeme → Outcome
  | .characters cs =>
    .done { b with pending := (cs.filter (· != '\x00')).reverse ++ b.pending }
  | _ => .again b.placePending

/-- A lexeme in the caption of a table. -/
def inCaption (b : Builder) (l : Lexeme) : Outcome :=
  let close (again : Bool) : Outcome :=
    if b.has .table "caption" then
      let b := ((b.closeImplied impliedNames).popNamed "caption").clearToMark
      let b := { b with mode := .table }
      if again then .again b else .done b
    else .done b
  match l with
  | .startTag t =>
    if ["caption", "col", "colgroup", "tbody", "td", "tfoot", "th", "thead", "tr"].contains t.name
    then close true
    else .done (b.inBody l)
  | .endTag t =>
    if t.name == "table" then close true
    else if t.name == "caption" then close false
    else if ["body", "col", "colgroup", "html", "tbody", "td", "tfoot", "th", "thead",
      "tr"].contains t.name then .done b
    else .done (b.inBody l)
  | _ => .done (b.inBody l)

/-- A lexeme in a group of columns. -/
def inColumnGroup (b : Builder) (l : Lexeme) : Outcome :=
  let leave : Outcome :=
    if b.current.isNamed "colgroup" then .again { b.pop with mode := .table } else .done b
  match l with
  | .characters cs => if cs.all isSpace then .done (b.insertCharacters cs) else leave
  | .comment s => .done (b.add (.comment s))
  | .startTag t =>
    if t.name == "html" then .done b
    else if t.name == "col" then .done (b.insertEmpty t)
    else if t.name == "template" then .done (b.startHead t)
    else leave
  | .endTag t =>
    if t.name == "colgroup" then
      if b.current.isNamed "colgroup" then .done { b.pop with mode := .table } else .done b
    else if t.name == "col" then .done b
    else if t.name == "template" then .done b.endTemplate
    else leave

/-- A lexeme between the rows of a table. -/
def inTableBody (b : Builder) (l : Lexeme) : Outcome :=
  let b' := b.popTo ["tbody", "tfoot", "thead", "template", "html"]
  let leave : Outcome :=
    if inScope .table (fun e => e.name.isOneOf ["table", "tbody", "tfoot"]) b.stack then
      .again { b'.pop with mode := .table }
    else .done b
  match l with
  | .startTag t =>
    if t.name == "tr" then .done { b'.insert t with mode := .row }
    else if ["td", "th"].contains t.name then
      .again { b'.insert { name := "tr" } with mode := .row }
    else if ["caption", "col", "colgroup", "tbody", "tfoot", "thead"].contains t.name then leave
    else b.inTable l
  | .endTag t =>
    if ["tbody", "tfoot", "thead"].contains t.name then
      if b.has .table t.name then .done { b'.pop with mode := .table } else .done b
    else if t.name == "table" then leave
    else if ["body", "caption", "col", "colgroup", "html", "td", "th", "tr"].contains t.name then
      .done b
    else b.inTable l
  | _ => b.inTable l

/-- A lexeme between the cells of a row. -/
def inRow (b : Builder) (l : Lexeme) : Outcome :=
  let b' := b.popTo ["tr", "template", "html"]
  let leave : Outcome :=
    if b.has .table "tr" then .again { b'.pop with mode := .tableBody } else .done b
  match l with
  | .startTag t =>
    if ["td", "th"].contains t.name then .done { (b'.insert t).mark with mode := .cell }
    else if ["caption", "col", "colgroup", "tbody", "tfoot", "thead", "tr"].contains t.name then
      leave
    else b.inTable l
  | .endTag t =>
    if t.name == "tr" then
      if b.has .table "tr" then .done { b'.pop with mode := .tableBody } else .done b
    else if t.name == "table" then leave
    else if ["tbody", "tfoot", "thead"].contains t.name then
      if b.has .table t.name then leave else .done b
    else if ["body", "caption", "col", "colgroup", "html", "td", "th"].contains t.name then .done b
    else b.inTable l
  | _ => b.inTable l

/-- Closes a cell. -/
def closeCell (b : Builder) : Builder :=
  let b := (b.closeImplied impliedNames).popThrough fun e => e.isOneOf ["td", "th"]
  { b.clearToMark with mode := .row }

/-- A lexeme in a cell. -/
def inCell (b : Builder) (l : Lexeme) : Outcome :=
  match l with
  | .startTag t =>
    if ["caption", "col", "colgroup", "tbody", "td", "tfoot", "th", "thead", "tr"].contains t.name
    then
      if inScope .table (fun e => e.name.isOneOf ["td", "th"]) b.stack then .again b.closeCell
      else .done b
    else .done (b.inBody l)
  | .endTag t =>
    if ["td", "th"].contains t.name then
      if b.has .table t.name then
        let b := ((b.closeImplied impliedNames).popNamed t.name).clearToMark
        .done { b with mode := .row }
      else .done b
    else if ["body", "caption", "col", "colgroup", "html"].contains t.name then .done b
    else if ["table", "tbody", "tfoot", "thead", "tr"].contains t.name then
      if b.has .table t.name then .again b.closeCell else .done b
    else .done (b.inBody l)
  | _ => .done (b.inBody l)

/-! ### Templates -/

/-- A lexeme at the beginning of a template. -/
def inTemplate (b : Builder) (l : Lexeme) : Outcome :=
  let enter (m : Mode) : Outcome :=
    .again { b with mode := m, templates := m :: b.templates.tail }
  match l with
  | .startTag t =>
    if headNames.contains t.name then .done (b.startHead t)
    else if ["caption", "colgroup", "tbody", "tfoot", "thead"].contains t.name then enter .table
    else if t.name == "col" then enter .columnGroup
    else if t.name == "tr" then enter .tableBody
    else if ["td", "th"].contains t.name then enter .row
    else enter .body
  | .endTag t => if t.name == "template" then .done b.endTemplate else .done b
  | _ => .done (b.inBody l)

/-- A lexeme in the mode that the reader is in. -/
def inMode (b : Builder) (l : Lexeme) : Outcome :=
  match b.mode with
  | .body => .done (b.inBody l)
  | .text => .done (b.inText l)
  | .table => b.inTable l
  | .tableText => b.inTableText l
  | .caption => b.inCaption l
  | .columnGroup => b.inColumnGroup l
  | .tableBody => b.inTableBody l
  | .row => b.inRow l
  | .cell => b.inCell l
  | .template => b.inTemplate l

/-! ### SVG and MathML -/

/-- The lexeme belongs to SVG or MathML. -/
def isForeign (b : Builder) (l : Lexeme) : Bool :=
  match b.stack with
  | [] => false
  | e :: _ =>
    if e.name.space == .html then false
    else
      let holds := match l with
        | .characters _ => e.name.holdsMathText || e.name.holdsSvgHtml || e.announcesHtml
        | .startTag t =>
          (e.name.holdsMathText && !(["mglyph", "malignmark"].contains t.name))
            || e.name.holdsSvgHtml || e.announcesHtml
            || (e.name == ⟨.mathml, "annotation-xml"⟩ && t.name == "svg")
        | _ => false
      !holds

/-- The elements of HTML that end SVG and MathML. -/
def endsForeign (t : Tag) : Bool :=
  ["b", "big", "blockquote", "body", "br", "center", "code", "dd", "div", "dl", "dt", "em",
    "embed", "h1", "h2", "h3", "h4", "h5", "h6", "head", "hr", "i", "img", "li", "listing", "menu",
    "meta", "nobr", "ol", "p", "pre", "ruby", "s", "small", "span", "strong", "strike", "sub",
    "sup", "table", "tt", "u", "ul", "var"].contains t.name
    || (t.name == "font" && t.attributes.any fun a => ["color", "face", "size"].contains a.name)

/-- Closes SVG and MathML. -/
def leaveForeign (b : Builder) : Builder :=
  { b with stack := b.stack.dropWhile fun e =>
      !(e.name.space == .html || e.name.holdsMathText || e.name.holdsSvgHtml) }

/-- What an end tag comes to in SVG or MathML. -/
inductive ForeignEnd where
  /-- It closes an element; these are open behind it. -/
  | closed (stack : List OpenElement)
  /-- It is left to the rules of HTML. -/
  | html
  /-- It closes nothing. -/
  | ignored

/-- What an end tag of a name comes to.  At the root of the page nothing is closed. -/
def foreignEnd (name : String) : List OpenElement → ForeignEnd
  | [] => .ignored
  | [_] => .ignored
  | e :: rest =>
    if e.name.space == .html then .html
    else if e.name.name.toLower == name then .closed rest
    else foreignEnd name rest

/-- A lexeme in SVG or MathML. -/
def inForeign (b : Builder) (l : Lexeme) : Outcome :=
  match l with
  | .characters cs => .done (b.insertCharacters (withoutZero cs))
  | .comment s => .done (b.add (.comment s))
  | .startTag t =>
    if endsForeign t then b.leaveForeign.inMode l else .done (b.startForeign b.current.space t)
  | .endTag t =>
    if t.name == "br" || t.name == "p" then b.leaveForeign.inMode l
    else match foreignEnd t.name b.stack with
      | .closed rest => .done { b with stack := rest }
      | .html => b.inMode l
      | .ignored => .done b

/-- A lexeme, read again as often as the rules ask; `fuel` bounds how often. -/
def readWith : Nat → Builder → Lexeme → Builder
  | 0, b, _ => b
  | fuel + 1, b, l =>
    match if b.isForeign l then b.inForeign l else b.inMode l with
    | .done b => b
    | .again b => readWith fuel b l

/-- What a lexeme does.  Each time a lexeme is read again an element is closed or a part of a
table is opened, so the count of open elements bounds how often. -/
def read (b : Builder) (l : Lexeme) : Builder :=
  let b' := { b with dropsNewline := false }
  match b.dropsNewline, l with
  | true, .characters ('\n' :: rest) =>
    if rest.isEmpty then b' else readWith (4 * b.stack.length + 16) b' (.characters rest)
  | _, .characters [] => b'
  | _, _ => readWith (4 * b.stack.length + 16) b' l

/-- Reads a page.  `fuel` bounds its length. -/
def readAll : Nat → Builder → List Char → Builder
  | 0, b, _ => b
  | _, b, [] => b
  | fuel + 1, b, c :: rest =>
    let foreign := b.current.space != .html
    let (l, after) := Lexeme.next b.content foreign c rest
    readAll fuel (b.read l) after

end Builder

/-- The nodes of a page, which stands in a division of another. -/
def parse (page : String) : List Node :=
  let cs := match normalizedLines page.toList with
    | '\ufeff' :: rest => rest
    | cs => cs
  let b := Builder.readAll cs.length {} cs
  let b := if b.mode == .tableText then b.placePending else b
  match b.nodes.tree b.nodes.size 0 with
  | .element _ _ children => children
  | _ => []

end Folio.Html
