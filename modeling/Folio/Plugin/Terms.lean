import Folio.Plugin.Basic

/-!
# The term plugin

A paragraph `[*key]: text` defines a term, and a link to `*key` refers to it.  The definitions are
taken out of the document and rendered at its end.

## Main definitions

* `Terms.definitionMark?` — the mark at the beginning of a definition.
* `Terms.definition?` — a paragraph as a definition.
* `Terms.extract` — turns all such paragraphs into definitions.
* `Terms.markReferences` — turns links to terms into references.
* `Terms.rule`, `Terms.processor` — the parts of the plugin.
-/

namespace Folio.Plugin

namespace Terms

/-- The kind of a definition. -/
def definitionKind : Kind := .custom "term_definition"

/-- The kind of the two ends of a reference. -/
def referenceKind : Kind := .custom "term"

/-- A character of a key. -/
def isKeyChar (c : Char) : Bool := Text.isWordChar c || c == '-'

/-- The key in the mark at the beginning of a definition, and the text behind the mark. -/
def definitionMark? (cs : List Char) : Option (List Char × List Char) :=
  match cs with
  | '[' :: '*' :: rest =>
    let key := rest.takeWhile isKeyChar
    match key, rest.drop key.length with
    | _ :: _, ']' :: ':' :: text => some (key, text.dropWhile fun c => c == ' ' || c == '\t')
    | _, _ => none
  | _ => none

/-- A token for the definition of a key. -/
def definitionToken (key : String) (level : Nat) (children : List Token) : Token :=
  { (Token.leaf definitionKind level).setAttr "key" key with
    content := plainText children
    children }

/-- The definition that a paragraph of three tokens makes. -/
def definition? (start run stop : Token) : Option Token :=
  if start.kind == .paragraph && start.isOpening && stop.isClosing then
    match run.children with
    | [] => none
    | first :: others =>
      if first.kind == .text then
        (definitionMark? first.content.toList).map fun (key, text) =>
          let children :=
            if text.isEmpty then others else first.withContent (String.ofList text) :: others
          definitionToken (String.ofList key) start.level children
      else none
  else none

/-- Turns the paragraphs that define terms into definitions. -/
def extract : List Token → List Token
  | a :: b :: c :: rest =>
    match definition? a b c with
    | some d => d :: extract rest
    | none => a :: extract (b :: c :: rest)
  | ts => ts

/-- The keys that the definitions in a list define, in order. -/
def definedKeys (tokens : List Token) : List String :=
  tokens.filterMap fun t =>
    if t.kind == definitionKind then some ((t.attr? "key").getD "") else none

/-- The key that a token refers to, if it opens a link to a term. -/
def referenceKey? (t : Token) : Option String :=
  if t.kind == .link && t.isOpening then
    match (t.attr? "href").map String.toList with
    | some ('*' :: key) => some (String.ofList key)
    | _ => none
  else none

/-- The token that opens a reference. -/
def referenceOpening (key : String) : Token :=
  (Token.mark referenceKind .opening).setAttr "key" key

/-- The token that closes a reference. -/
def referenceClosing : Token := Token.mark referenceKind .closing

/-- Turns the link that begins at an index into a reference if it links to a term. -/
def markAt (state : List Token × List String) (index : Nat) : List Token × List String :=
  let (children, keys) := state
  match children[index]?.bind referenceKey?, findClose? children index with
  | some key, some stop =>
    ((children.set index (referenceOpening key)).set stop referenceClosing, keys ++ [key])
  | _, _ => state

/-- Turns the links to terms into references, and lists the keys in order. -/
def markReferences (children : List Token) : List Token × List String :=
  (List.range children.length).foldl markAt (children, [])

/-- Turns the links to terms in all inline runs into references, and lists the keys in order. -/
def markAll : List Token → List Token × List String
  | [] => ([], [])
  | t :: ts =>
    let (marked, keys) := markAll ts
    if t.kind == .inline then
      let (children, found) := markReferences t.children
      ({ t with children } :: marked, found ++ keys)
    else (t :: marked, keys)

/-- Reports the keys that are defined once more. -/
def reportRepeated : (seen : List String) → List String → Session → Session
  | _, [], s => s
  | seen, key :: keys, s =>
    if seen.contains key then
      reportRepeated seen keys
        (s.report .warn "terms" ("term \x60" ++ key ++ "\x60 is defined more than once"))
    else reportRepeated (key :: seen) keys s

/-- Reports the keys that are used but not defined. -/
def reportUndefined (defined keys : List String) (s : Session) : Session :=
  keys.foldl (fun s key =>
    if defined.contains key then s
    else s.report .warn "terms" ("term \x60" ++ key ++ "\x60 is used but not defined")) s

/-- The revision of the tokens.  Only the definitions that it makes itself count as such. -/
def revise (tokens : List Token) (s : Session) : List Token × Session :=
  let extracted := extract tokens
  let made := extractedKeys tokens
  let (marked, keys) := markAll extracted
  (marked, reportUndefined made keys (reportRepeated [] made s))
where
  /-- The keys of the definitions that the paragraphs of a list make. -/
  extractedKeys : List Token → List String
    | a :: b :: c :: rest =>
      match definition? a b c with
      | some d => (d.attr? "key").getD "" :: extractedKeys rest
      | none => extractedKeys (b :: c :: rest)
    | _ => []

/-- The rule that revises the tokens. -/
def rule : CoreRule := { name := "terms", apply := revise }

/-- A definition is rendered with an id that its references point to. -/
def renderDefinition : RenderRule := fun input =>
  let key := (input.token.attr? "key").getD ""
  .startTag "dfn" (Html.attributes [("class", "term-definition"), ("id", "term-" ++ key)])
    :: input.inlines ++ [Html.Markup.endTag "dfn"]

/-- A reference names the definition that describes it. -/
def renderReference : RenderRule := fun input =>
  let key := (input.token.attr? "key").getD ""
  match input.token.nesting with
  | .opening =>
    [.startTag "i" (Html.attributes
      [("class", "term"), ("data-term", key), ("aria-describedby", "term-" ++ key)])]
  | .closing => [.endTag "i"]
  | .single => []

/-- Takes the definitions out of the document, to be rendered at its end. -/
def processor : Processor := fun _ tokens s =>
  let (definitions, others) := tokens.partition fun t => t.kind == definitionKind
  (.ok others, s.mapEnv fun env => env.defer definitions)

end Terms

/-- The term plugin. -/
def terms : Plugin where
  name := "terms"
  coreRules _ := [Terms.rule]
  renderRules := [("term_definition", Terms.renderDefinition), ("term", Terms.renderReference)]
  processor := some fun _ => Terms.processor

end Folio.Plugin
