/-!
# Elements

The names of elements and the classes they fall into when a page is read.

## Main definitions

* `Namespace`, `ElementName` — the name of an element.
* `AttributeSpace` — what may stand in front of the name of an attribute.
* `ElementAttribute`, `Tag` — an attribute of an element, and a tag of a page.
* `ElementName.isSpecial`, `ElementName.endsScope`, … — the classes of elements.
* `isVoid`, `isUnescaped` — elements without an end tag, and elements whose text is not escaped.
-/

namespace Folio.Html

/-- The vocabulary that an element belongs to. -/
inductive Namespace where
  | html
  | svg
  | mathml
  deriving DecidableEq, Repr, Inhabited

/-- The name of an element. -/
structure ElementName where
  /-- The vocabulary. -/
  space : Namespace := .html
  /-- The name in the vocabulary. -/
  name : String
  deriving DecidableEq, Repr, Inhabited

/-- The vocabulary that an attribute of SVG or MathML is borrowed from. -/
inductive AttributeSpace where
  | xlink
  | xml
  | xmlns
  deriving DecidableEq, Repr, Inhabited

/-- What stands before a colon in front of the name of such an attribute. -/
def AttributeSpace.text : AttributeSpace → String
  | .xlink => "xlink"
  | .xml => "xml"
  | .xmlns => "xmlns"

/-- An attribute of an element. -/
structure ElementAttribute where
  /-- What stands before a colon in front of the name, for the few attributes that have it. -/
  space : Option AttributeSpace := none
  /-- The name. -/
  name : String
  /-- The value. -/
  value : String
  deriving DecidableEq, Repr, Inhabited

/-- A start tag or an end tag of a page. -/
structure Tag where
  /-- The name, in lower case. -/
  name : String
  /-- The attributes, each name once. -/
  attributes : List ElementAttribute := []
  /-- The tag ends in a slash. -/
  selfClosing : Bool := false
  deriving DecidableEq, Repr, Inhabited

/-! ### Classes of elements -/

/-- An element of HTML with one of some names. -/
def ElementName.isOneOf (e : ElementName) (names : List String) : Bool :=
  e.space == .html && names.contains e.name

/-- An element of HTML with a name. -/
def ElementName.isNamed (e : ElementName) (name : String) : Bool :=
  e.space == .html && e.name == name

/-- The names of headings. -/
def headingNames : List String := ["h1", "h2", "h3", "h4", "h5", "h6"]

/-- The elements that an unknown end tag does not close. -/
def specialNames : List String :=
  ["address", "applet", "area", "article", "aside", "base", "basefont", "bgsound", "blockquote",
    "body", "br", "button", "caption", "center", "col", "colgroup", "dd", "details", "dir", "div",
    "dl", "dt", "embed", "fieldset", "figcaption", "figure", "footer", "form", "frame",
    "frameset", "h1", "h2", "h3", "h4", "h5", "h6", "head", "header", "hgroup", "hr", "html",
    "iframe", "img", "input", "isindex", "li", "link", "listing", "main", "marquee", "menu",
    "meta", "nav", "noembed", "noframes", "noscript", "object", "ol", "p", "param", "plaintext",
    "pre", "script", "search", "section", "select", "source", "style", "summary", "table",
    "tbody", "td", "template", "textarea", "tfoot", "th", "thead", "title", "tr", "track", "ul",
    "wbr", "xmp"]

/-- An element that an unknown end tag does not close. -/
def ElementName.isSpecial (e : ElementName) : Bool := e.isOneOf specialNames

/-- An element of MathML that holds text. -/
def ElementName.holdsMathText (e : ElementName) : Bool :=
  e.space == .mathml && ["mi", "mo", "mn", "ms", "mtext"].contains e.name

/-- An element of SVG that holds HTML. -/
def ElementName.holdsSvgHtml (e : ElementName) : Bool :=
  e.space == .svg && ["foreignObject", "desc", "title"].contains e.name

/-- A scope of open elements, which a search for an element does not leave. -/
inductive Scope where
  | general
  | listItem
  | button
  | table
  deriving DecidableEq, Repr

/-- The elements that end every scope but that of tables. -/
def ElementName.endsGeneralScope (e : ElementName) : Bool :=
  e.isOneOf ["applet", "caption", "html", "table", "td", "th", "marquee", "object", "select",
    "template"] || e.holdsMathText || e.holdsSvgHtml

/-- An element at which a search in a scope ends. -/
def ElementName.endsScope (e : ElementName) : Scope → Bool
  | .general => e.endsGeneralScope
  | .listItem => e.endsGeneralScope || e.isOneOf ["ol", "ul"]
  | .button => e.endsGeneralScope || e.isNamed "button"
  | .table => e.isOneOf ["html", "table", "template"]

/-- The elements whose end tag may be left out. -/
def impliedNames : List String :=
  ["dd", "dt", "li", "option", "optgroup", "p", "rb", "rp", "rt", "rtc"]

/-- The elements whose end tag may be left out at the end of a template. -/
def thoroughlyImpliedNames : List String :=
  impliedNames ++ ["caption", "colgroup", "tbody", "td", "tfoot", "th", "thead", "tr"]

/-- Elements of HTML that have no end tag. -/
def isVoid (e : ElementName) : Bool :=
  e.isOneOf ["area", "base", "basefont", "bgsound", "br", "col", "embed", "frame", "hr", "img",
    "input", "keygen", "link", "meta", "param", "source", "track", "wbr"]

/-- Elements of HTML whose text is written as it stands. -/
def isUnescaped (e : ElementName) : Bool :=
  e.isOneOf ["style", "script", "xmp", "iframe", "noembed", "noframes", "plaintext", "noscript"]

/-! ### Names in upper and lower case -/

/-- The elements of SVG whose names have capitals. -/
def svgMixedNames : List String :=
  ["altGlyph", "altGlyphDef", "altGlyphItem", "animateColor", "animateMotion", "animateTransform",
    "clipPath", "feBlend", "feColorMatrix", "feComponentTransfer", "feComposite",
    "feConvolveMatrix", "feDiffuseLighting", "feDisplacementMap", "feDistantLight",
    "feDropShadow", "feFlood", "feFuncA", "feFuncB", "feFuncG", "feFuncR", "feGaussianBlur",
    "feImage", "feMerge", "feMergeNode", "feMorphology", "feOffset", "fePointLight",
    "feSpecularLighting", "feSpotLight", "feTile", "feTurbulence", "foreignObject", "glyphRef",
    "linearGradient", "radialGradient", "textPath"]

/-- The attributes of SVG whose names have capitals. -/
def svgMixedAttributes : List String :=
  ["attributeName", "attributeType", "baseFrequency", "baseProfile", "calcMode", "clipPathUnits",
    "diffuseConstant", "edgeMode", "filterUnits", "glyphRef", "gradientTransform",
    "gradientUnits", "kernelMatrix", "kernelUnitLength", "keyPoints", "keySplines", "keyTimes",
    "lengthAdjust", "limitingConeAngle", "markerHeight", "markerUnits", "markerWidth",
    "maskContentUnits", "maskUnits", "numOctaves", "pathLength", "patternContentUnits",
    "patternTransform", "patternUnits", "pointsAtX", "pointsAtY", "pointsAtZ", "preserveAlpha",
    "preserveAspectRatio", "primitiveUnits", "refX", "refY", "repeatCount", "repeatDur",
    "requiredExtensions", "requiredFeatures", "specularConstant", "specularExponent",
    "spreadMethod", "startOffset", "stdDeviation", "stitchTiles", "surfaceScale",
    "systemLanguage", "tableValues", "targetX", "targetY", "textLength", "viewBox", "viewTarget",
    "xChannelSelector", "yChannelSelector", "zoomAndPan"]

/-- The name of a list that is spelled as given but for capitals, or the name as given. -/
def respell (names : List String) (name : String) : String :=
  (names.find? fun n => n.toLower == name).getD name

/-- The attributes that may have something before a colon in front of the name. -/
def spacedAttributes : List (AttributeSpace × List String) :=
  [(.xlink, ["actuate", "arcrole", "href", "role", "show", "title", "type"]),
    (.xml, ["lang", "space"]), (.xmlns, ["xlink"])]

/-- The attribute with its name taken apart at a colon, where the name has one. -/
def ElementAttribute.spaced (a : ElementAttribute) : ElementAttribute :=
  let found := spacedAttributes.findSome? fun p =>
    (p.2.find? fun name => p.1.text ++ ":" ++ name == a.name).map fun name => (p.1, name)
  match found with
  | some (space, name) => { a with space := some space, name := name }
  | none => a

/-- An attribute in the spelling of a vocabulary. -/
def ElementAttribute.respelled (a : ElementAttribute) : Namespace → ElementAttribute
  | .html => a
  | .svg => { a with name := respell svgMixedAttributes a.name }.spaced
  | .mathml => { a with name := respell ["definitionURL"] a.name }.spaced

/-- A tag in the spelling of a vocabulary. -/
def Tag.respelled (t : Tag) (space : Namespace) : Tag :=
  { t with
    name := if space == .svg then respell svgMixedNames t.name else t.name
    attributes := t.attributes.map fun a => a.respelled space }

end Folio.Html
