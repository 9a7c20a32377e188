/-!
# Sanitizing policies

Which elements and attributes stay when a page is cleaned.

## Main definitions

* `SanitizeOptions` — what an author adds to and removes from the defaults.
* `Policy` — the elements and attributes that stay.
* `SanitizeOptions.policy` — the policy that options make.
* `Policy.check` — what makes a policy contradict itself.
-/

namespace Folio

/-- What an author adds to the defaults of the sanitizer and removes from them. -/
structure SanitizeOptions where
  /-- More elements that stay. -/
  addTags : List String := ["input"]
  /-- Elements that do not stay. -/
  removeTags : List String := []
  /-- More attributes that stay on every element. -/
  addGenericAttributes : List String := ["id", "class"]
  /-- More attributes that stay on the elements of one name. -/
  addTagAttributes : List (String × List String) := [("input", ["type", "checked", "disabled"])]
  /-- Comments are dropped. -/
  stripComments : Bool := true
  /-- The relation that every link gets. -/
  linkRel : Option String := some "noopener noreferrer"
  deriving DecidableEq, Repr, Inhabited

/-- Which elements and attributes stay. -/
structure Policy where
  /-- The elements that stay; of others their content stays. -/
  tags : List String
  /-- The attributes that stay on every element. -/
  genericAttributes : List String
  /-- The attributes that stay on the elements of one name. -/
  tagAttributes : List (String × List String)
  /-- Comments are dropped. -/
  stripComments : Bool
  /-- The relation that every link gets. -/
  linkRel : Option String
  deriving DecidableEq, Repr, Inhabited

/-- What makes a policy contradict itself. -/
inductive PolicyError where
  /-- An element that goes with its content is to stay. -/
  | droppedTag (tag : String)
  /-- An element that goes with its content is to keep attributes. -/
  | droppedTagAttributes (tag : String)
  /-- A relation that links get is to stay as it is. -/
  | linkRelation
  deriving DecidableEq, Repr

/-- The text of an error. -/
def PolicyError.message : PolicyError → String
  | .droppedTag tag => "the element \x60" ++ tag ++ "\x60 cannot both stay and go"
  | .droppedTagAttributes tag => "the element \x60" ++ tag ++ "\x60 goes with its attributes"
  | .linkRelation => "the relation of links cannot both be set and stay"

/-- The elements that go with their content. -/
def droppedTags : List String := ["script", "style"]

/-- The attributes that stay on the elements of one name by default. -/
def defaultTagAttributes : List (String × List String) :=
  let aligned := ["align", "char", "charoff"]
  let cell := ["align", "char", "charoff", "colspan", "headers", "rowspan"]
  [("a", ["href", "hreflang"]), ("bdo", ["dir"]), ("blockquote", ["cite"]),
    ("col", aligned ++ ["span"]), ("colgroup", aligned ++ ["span"]),
    ("del", ["cite", "datetime"]), ("hr", ["align", "size", "width"]),
    ("img", ["align", "alt", "height", "src", "width"]), ("ins", ["cite", "datetime"]),
    ("ol", ["start"]), ("q", ["cite"]), ("table", aligned ++ ["summary"]), ("tbody", aligned),
    ("td", cell), ("tfoot", aligned), ("th", cell ++ ["scope"]), ("thead", aligned),
    ("tr", aligned)]

/-- The elements that stay by default. -/
def defaultTags : List String :=
  ["a", "abbr", "acronym", "area", "article", "aside", "b", "bdi", "bdo", "blockquote", "br",
    "caption", "center", "cite", "code", "col", "colgroup", "data", "dd", "del", "details", "dfn",
    "div", "dl", "dt", "em", "figcaption", "figure", "footer", "h1", "h2", "h3", "h4", "h5", "h6",
    "header", "hgroup", "hr", "i", "img", "ins", "kbd", "li", "map", "mark", "nav", "ol", "p",
    "pre", "q", "rp", "rt", "rtc", "ruby", "s", "samp", "small", "span", "strike", "strong", "sub",
    "summary", "sup", "table", "tbody", "td", "th", "thead", "time", "tr", "tt", "u", "ul", "var",
    "wbr"]

/-- The attributes that stay on every element by default. -/
def defaultGenericAttributes : List String := ["lang", "title"]

/-- Adds attributes to those that stay on the elements of one name. -/
def allowAttributes (all : List (String × List String)) (tag : String) (names : List String) :
    List (String × List String) :=
  match all with
  | [] => [(tag, names)]
  | (t, ns) :: rest =>
    if t == tag then (t, ns ++ names) :: rest else (t, ns) :: allowAttributes rest tag names

/-- The policy that options make.  Elements that go with their content are not added, nor is the
relation of links if the policy sets it. -/
def SanitizeOptions.policy (o : SanitizeOptions) : Policy :=
  let keeps (name : String) : Bool := o.linkRel.isNone || name != "rel"
  { tags := (defaultTags ++ o.addTags.filter fun t => !droppedTags.contains t).filter fun t =>
      !o.removeTags.contains t
    genericAttributes := defaultGenericAttributes ++ o.addGenericAttributes.filter keeps
    tagAttributes := o.addTagAttributes.foldl (fun all p =>
      allowAttributes all p.1 (p.2.filter fun name => p.1 != "a" || keeps name))
      defaultTagAttributes
    stripComments := o.stripComments
    linkRel := o.linkRel }

/-- The first element of a list that satisfies a test, as an error. -/
def firstError (names : List String) (test : String → Bool) (error : String → PolicyError) :
    Except PolicyError Unit :=
  match names.find? test with
  | some name => .error (error name)
  | none => .ok ()

/-- A policy must not keep elements or attributes that it drops or sets. -/
def Policy.check (p : Policy) : Except PolicyError Unit := do
  firstError droppedTags p.tags.contains .droppedTag
  firstError droppedTags (fun tag => (p.tagAttributes.lookup tag).isSome) .droppedTagAttributes
  if p.linkRel.isSome && (p.genericAttributes.contains "rel"
      || ((p.tagAttributes.lookup "a").getD []).contains "rel") then
    .error .linkRelation
  else .ok ()

end Folio
