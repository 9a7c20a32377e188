import Folio.Environment
import Folio.Html.Markup
import Folio.Text.Character
import Folio.Token.Pairing

/-!
# Rendering

Tokens become markup one after the other.  A token of a plugin's own kind is rendered by the rule
for its name; without a rule its children or its content stand in its place.

## Main definitions

* `RenderRule` — the markup of a token of a plugin's own kind.
* `Renderer` — what rendering depends on beside the tokens.
* `Renderer.blocks`, `Renderer.inlines` — the markup of blocks and of inline tokens.
* `Renderer.render`, `Renderer.renderInline` — the same as text.
* `resolveLang` — the language of a code block.
-/

namespace Folio

open Html (Markup)

/-- What a render rule sees of a token. -/
structure RuleInput where
  /-- The token. -/
  token : Token
  /-- Its children, rendered as inline tokens. -/
  inlines : List Markup
  /-- Its children, rendered as blocks. -/
  blocks : List Markup
  /-- What the run has found out about the document. -/
  env : Environment

/-- The markup of a token of a plugin's own kind. -/
abbrev RenderRule := RuleInput → List Markup

/-- Highlighted HTML for code in a language, if the highlighter knows the language. -/
abbrev Highlighter := (code lang : String) → Option String

/-- What rendering depends on beside the tokens. -/
structure Renderer where
  /-- Raw HTML is passed through. -/
  allowHtml : Bool := false
  /-- A soft line break is rendered as a hard one. -/
  breaks : Bool := true
  /-- The languages that the aliases of code blocks stand for. -/
  langs : List (String × String) := []
  /-- The rules by name; of two with one name the first counts. -/
  rules : List (String × RenderRule) := []
  /-- The highlighter of code blocks. -/
  highlighter : Option Highlighter := none
  /-- What the run has found out about the document. -/
  env : Environment := {}

/-- The language that a name stands for.  The name is compared in lower case. -/
def resolveLang (langs : List (String × String)) (lang : String) : String :=
  let lower := String.ofList (Text.lowerText lang.toList)
  (langs.lookup lower).getD lower

/-- The first word of a text. -/
def firstWord? (s : String) : Option String :=
  match (Text.trimStart s.toList).takeWhile fun c => !Text.isBlank c with
  | [] => none
  | word => some (String.ofList word)

/-- A tag that opens, closes, or encloses the content of the token. -/
def tagMarkup (name : String) (t : Token) : List Markup :=
  match t.nesting with
  | .opening => [.startTag name (Html.attributes t.attrs)]
  | .closing => [.endTag name]
  | .single => [.startTag name (Html.attributes t.attrs), .text t.content, .endTag name]

/-- The line break and the end of the line. -/
def breakMarkup : List Markup := [.startTag "br" [], .raw "\n"]

/-- The check box of a task. -/
def taskMarkup (checked : Bool) : List Markup :=
  let box : List Html.Attribute := if checked then [⟨"checked", none⟩] else []
  [.startTag "input" (⟨"type", some "checkbox"⟩ :: box ++ [⟨"disabled", none⟩]), .raw " "]

/-- An image with its alternative text. -/
def imageMarkup (t : Token) (alt : String) : List Markup :=
  let src := (t.attr? "src").getD ""
  let others := t.attrs.filter fun p => p.1 != "src"
  [.startTag "img" (Html.attributes (("src", src) :: ("alt", alt) :: others))]

namespace Renderer

/-- Raw HTML, which is text unless it is allowed. -/
def rawMarkup (r : Renderer) (s : String) : List Markup :=
  [if r.allowHtml then .raw s else .text s]

/-- A code block. -/
def codeMarkup (r : Renderer) (t : Token) : List Markup :=
  let lang := (firstWord? t.info).map (resolveLang r.langs)
  let highlighted := lang.bind fun l => r.highlighter.bind fun h => h t.content l
  let code : List Markup := match lang, highlighted with
    | some l, some html =>
      [.startTag "code" [⟨"class", some ("hljs language-" ++ l)⟩], .raw html]
    | some l, none =>
      [.startTag "code" [⟨"class", some ("language-" ++ l)⟩], .text t.content]
    | none, _ => [.startTag "code" [], .text t.content]
  .startTag "pre" (Html.attributes t.attrs) :: code ++ [Markup.endTag "code", .endTag "pre"]

/-- An inline token of a kind that is no plugin's own.  Blocks have no inline markup. -/
def inlineMarkup (r : Renderer) (t : Token) : List Markup :=
  match t.kind with
  | .text => [.text t.content]
  | .codeInline =>
    [.startTag "code" (Html.attributes t.attrs), .text t.content, .endTag "code"]
  | .htmlInline => r.rawMarkup t.content
  | .softBreak => if r.breaks then breakMarkup else [.raw "\n"]
  | .hardBreak => breakMarkup
  | .taskMarker checked => taskMarkup checked
  | .emphasis => tagMarkup "em" t
  | .strong => tagMarkup "strong" t
  | .strikethrough => tagMarkup "s" t
  | .superscript => tagMarkup "sup" t
  | .subscript => tagMarkup "sub" t
  | .link => tagMarkup "a" t
  | .image => if t.isClosing then [] else imageMarkup t (plainText t.children)
  | _ => []

/-- A block of a kind that is no plugin's own.  An inline token among blocks has its inline
markup. -/
def blockMarkup (r : Renderer) (t : Token) : List Markup :=
  if t.hidden then []
  else match t.kind with
    | .heading n =>
      let name := "h" ++ toString n
      if t.isOpening then [.startTag name (Html.attributes t.attrs)] else [.endTag name]
    | .paragraph => tagMarkup "p" t
    | .blockquote => tagMarkup "blockquote" t
    | .bulletList => tagMarkup "ul" t
    | .orderedList => tagMarkup "ol" t
    | .listItem => tagMarkup "li" t
    | .table => tagMarkup "table" t
    | .tableHead => tagMarkup "thead" t
    | .tableBody => tagMarkup "tbody" t
    | .tableRow => tagMarkup "tr" t
    | .tableHeaderCell => tagMarkup "th" t
    | .tableDataCell => tagMarkup "td" t
    | .definitionList => tagMarkup "dl" t
    | .definitionTerm => tagMarkup "dt" t
    | .definitionDetails => tagMarkup "dd" t
    | .fence => r.codeMarkup t
    | .htmlBlock => r.rawMarkup t.content
    | .rule => [.startTag "hr" (Html.attributes t.attrs)]
    | _ => r.inlineMarkup t

mutual

/-- A token of a plugin's own kind. -/
def customMarkup (r : Renderer) (name : String) : Token → List Markup
  | ⟨kind, nesting, level, attrs, content, info, children, block, hidden⟩ =>
    match r.rules.lookup name with
    | some rule =>
      rule {
        token := ⟨kind, nesting, level, attrs, content, info, children, block, hidden⟩
        inlines := r.inlinesFrom 0 children
        blocks := r.blocks children
        env := r.env }
    | none => if children.isEmpty then [.text content] else r.inlinesFrom 0 children

/-- Inline tokens without the first `skip` of them.  The tokens between the two ends of an image
are its alternative text. -/
def inlinesFrom (r : Renderer) : Nat → List Token → List Markup
  | _, [] => []
  | skip + 1, _ :: ts => r.inlinesFrom skip ts
  | 0, t :: ts =>
    match t.kind with
    | .image =>
      if t.isOpening then
        let inside := ((findClose? (t :: ts) 0).getD (ts.length + 1)) - 1
        imageMarkup t (plainText (ts.take inside)) ++ r.inlinesFrom (inside + 1) ts
      else r.inlineMarkup t ++ r.inlinesFrom 0 ts
    | .custom name => r.customMarkup name t ++ r.inlinesFrom 0 ts
    | _ => r.inlineMarkup t ++ r.inlinesFrom 0 ts

/-- Blocks. -/
def blocks (r : Renderer) : List Token → List Markup
  | [] => []
  | t :: ts =>
    (match t with
      | ⟨kind, nesting, level, attrs, content, info, children, block, hidden⟩ =>
        match kind with
        | .inline => r.inlinesFrom 0 children
        | .custom name =>
          r.customMarkup name ⟨kind, nesting, level, attrs, content, info, children, block, hidden⟩
        | _ => r.blockMarkup ⟨kind, nesting, level, attrs, content, info, children, block, hidden⟩)
      ++ r.blocks ts

end

/-- Inline tokens. -/
def inlines (r : Renderer) (tokens : List Token) : List Markup := r.inlinesFrom 0 tokens

/-- The HTML of blocks. -/
def render (r : Renderer) (tokens : List Token) : String := Html.writeAll (r.blocks tokens)

/-- The HTML of inline tokens. -/
def renderInline (r : Renderer) (tokens : List Token) : String :=
  Html.writeAll (r.inlines tokens)

end Renderer

end Folio
