import Folio.Html.Mode
import Folio.Sanitize.Policy
import Folio.Sanitize.Url

/-!
# Cleaning a page

A page is read into its tree, elements and attributes that a policy does not keep are taken out,
and what is left is written out again.

## Main definitions

* `Policy.keepsAttribute` — the attributes that stay.
* `fits` — an element may be where it is.
* `clean`, `cleanAll` — what a policy leaves of a tree.
* `Cleaner`, `treeCleaner` — what cleans a page, and the one that goes by the tree of the page.
* `sanitize` — a page cleaned with options.
-/

namespace Folio

open Html

/-- The schemes that a reference may have. -/
def allowedSchemes : List String :=
  ["bitcoin", "ftp", "ftps", "geo", "http", "https", "im", "irc", "ircs", "magnet", "mailto",
    "mms", "mx", "news", "nntp", "openpgp4fpr", "sip", "sms", "smsto", "ssh", "tel", "url",
    "webcal", "wtai", "xmpp"]

/-- The value of the attribute is a reference to another page. -/
def isReference (element name : String) : Bool :=
  name == "href" || name == "src"
    || (element == "form" && name == "action")
    || (element == "object" && name == "data")
    || ((element == "button" || element == "input") && name == "formaction")
    || (element == "a" && name == "ping")
    || (element == "video" && name == "poster")

/-- A reference is relative or has a scheme that is allowed. -/
def isAllowedReference (value : String) : Bool :=
  match Url.target value with
  | .relative => true
  | .absolute scheme => allowedSchemes.contains scheme
  | .malformed => false

/-- An attribute of an element stays: its name is allowed, and so is what it refers to. -/
def Policy.keepsAttribute (p : Policy) (element : String) (a : ElementAttribute) : Bool :=
  (p.genericAttributes.contains a.name
      || ((p.tagAttributes.lookup element).getD []).contains a.name)
    && (!isReference element a.name || isAllowedReference a.value)

/-- The attributes that an element keeps; a link gets the relation of the policy. -/
def Policy.attributes (p : Policy) (element : String) (all : List ElementAttribute) :
    List ElementAttribute :=
  let kept := all.filter (p.keepsAttribute element)
  match p.linkRel with
  | some rel => if element == "a" then kept ++ [{ name := "rel", value := rel }] else kept
  | none => kept

/-! ### Vocabularies -/

/-- The names of SVG. -/
def svgNames : List String :=
  ["a", "animate", "animateMotion", "animateTransform", "circle", "clipPath", "defs", "desc",
    "discard", "ellipse", "feBlend", "feColorMatrix", "feComponentTransfer", "feComposite",
    "feConvolveMatrix", "feDiffuseLighting", "feDisplacementMap", "feDistantLight",
    "feDropShadow", "feFlood", "feFuncA", "feFuncB", "feFuncG", "feFuncR", "feGaussianBlur",
    "feImage", "feMerge", "feMergeNode", "feMorphology", "feOffset", "fePointLight",
    "feSpecularLighting", "feSpotLight", "feTile", "feTurbulence", "filter", "foreignObject",
    "g", "image", "line", "linearGradient", "marker", "mask", "metadata", "mpath", "path",
    "pattern", "polygon", "polyline", "radialGradient", "rect", "script", "set", "stop", "style",
    "svg", "switch", "symbol", "text", "textPath", "title", "tspan", "use", "view"]

/-- The names of MathML. -/
def mathNames : List String :=
  ["abs", "and", "annotation", "annotation-xml", "apply", "approx", "arccos", "arccosh", "arccot",
    "arccoth", "arccsc", "arccsch", "arcsec", "arcsech", "arcsin", "arcsinh", "arctan", "arctanh",
    "arg", "bind", "bvar", "card", "cartesianproduct", "cbytes", "ceiling", "cerror", "ci", "cn",
    "codomain", "complexes", "compose", "condition", "conjugate", "cos", "cosh", "cot", "coth",
    "cs", "csc", "csch", "csymbol", "curl", "declare", "degree", "determinant", "diff",
    "divergence", "divide", "domain", "domainofapplication", "emptyset", "eq", "equivalent",
    "eulergamma", "exists", "exp", "exponentiale", "factorial", "factorof", "false", "floor",
    "fn", "forall", "gcd", "geq", "grad", "gt", "ident", "image", "imaginary", "imaginaryi",
    "implies", "in", "infinity", "int", "integers", "intersect", "interval", "inverse", "lambda",
    "laplacian", "lcm", "leq", "limit", "list", "ln", "log", "logbase", "lowlimit", "lt",
    "maction", "maligngroup", "malignmark", "math", "matrix", "matrixrow", "max", "mean",
    "median", "menclose", "merror", "mfenced", "mfrac", "mglyph", "mi", "min", "minus",
    "mlabeledtr", "mlongdiv", "mmultiscripts", "mn", "mo", "mode", "moment", "momentabout",
    "mover", "mpadded", "mphantom", "mprescripts", "mroot", "mrow", "ms", "mscarries", "mscarry",
    "msgroup", "msline", "mspace", "msqrt", "msrow", "mstack", "mstyle", "msub", "msubsup",
    "msup", "mtable", "mtd", "mtext", "mtr", "munder", "munderover", "naturalnumbers", "neq",
    "none", "not", "notanumber", "notin", "notprsubset", "notsubset", "or", "otherwise",
    "outerproduct", "partialdiff", "pi", "piece", "piecewise", "plus", "power", "primes",
    "product", "prsubset", "quotient", "rationals", "real", "reals", "reln", "rem", "root",
    "scalarproduct", "sdev", "sec", "sech", "selector", "semantics", "sep", "set", "setdiff",
    "share", "sin", "sinh", "span", "subset", "sum", "tan", "tanh", "tendsto", "times",
    "transpose", "true", "union", "uplimit", "variance", "vector", "vectorproduct", "xor"]

/-- The names that HTML shares with SVG or MathML. -/
def sharedNames : List String := ["title", "style", "font", "a", "script", "span"]

/-- An element may be where it is: its vocabulary is that of the element that holds it or is
entered at an element made for that, and its name belongs to its vocabulary. -/
def fits (holder e : ElementName) : Bool :=
  match holder.space, e.space with
  | .html, .svg => e.name == "svg"
  | .html, .mathml => e.name == "math"
  | .mathml, .svg | .mathml, .html =>
    ["mi", "mo", "mn", "ms", "mtext", "annotation-xml"].contains holder.name
  | .svg, .mathml | .svg, .html => holder.name == "foreignObject"
  | .svg, .svg => svgNames.contains e.name
  | .mathml, .mathml => mathNames.contains e.name
  | .html, .html =>
    !(svgNames.contains e.name || mathNames.contains e.name) || sharedNames.contains e.name

/-! ### Trees -/

mutual

/-- What a policy leaves of a node that an element holds.  The content of an element that is taken
out stays in its place, unless it goes with its element. -/
def clean (p : Policy) (holder : ElementName) : Node → List Node
  | .text s => [.text s]
  | .comment s => if p.stripComments then [] else [.comment s]
  | .element name attributes children =>
    if droppedTags.contains name.name || !fits holder name then []
    else if p.tags.contains name.name then
      [.element name (p.attributes name.name attributes) (cleanAll p name children)]
    else cleanAll p holder children

/-- What a policy leaves of nodes that an element holds. -/
def cleanAll (p : Policy) (holder : ElementName) : List Node → List Node
  | [] => []
  | n :: rest => clean p holder n ++ cleanAll p holder rest

end

/-- The element that holds the nodes of a page. -/
def pageRoot : ElementName := { name := "html" }

/-- A page cleaned with a policy. -/
def Policy.clean (p : Policy) (page : String) : String :=
  String.ofList (writeNodes pageRoot (cleanAll p pageRoot (parse page)))

/-- What cleans a page with a policy, or refuses the policy. -/
abbrev Cleaner := Policy → String → Except PolicyError String

/-- The cleaner that goes by the tree of a page.  It refuses a policy that contradicts itself. -/
def treeCleaner : Cleaner := fun policy page => do
  policy.check
  return policy.clean page

/-- A page cleaned with options; options may make a policy that contradicts itself. -/
def sanitize (o : SanitizeOptions) (page : String) (cleaner : Cleaner := treeCleaner) :
    Except PolicyError String :=
  cleaner o.policy page

end Folio
