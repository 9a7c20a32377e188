import Folio.Plugin.Basic

/-!
# The asset plugin

The local files that a document shows or links to are recorded in the environment.

## Main definitions

* `Assets.isLocal` — the address is that of a file beside the document.
* `Assets.isDocument` — the address is that of another document.
* `Assets.collect` — records the files of a list of tokens.
-/

namespace Folio.Plugin

namespace Assets

/-- The address is that of a file beside the document: it is not empty, no anchor within the page,
and has neither a host nor one of the schemes `data:` and `mailto:`. -/
def isLocal (url : List Char) : Bool :=
  !(url.isEmpty || "#".toList.isPrefixOf url || "//".toList.isPrefixOf url
    || "data:".toList.isPrefixOf url || "mailto:".toList.isPrefixOf url
    || Text.occursIn "://".toList url)

/-- The parts of a path between its slashes. -/
def segments : List Char → List (List Char)
  | [] => [[]]
  | c :: cs =>
    match segments cs with
    | [] => [[c]]
    | s :: ss => if c == '/' then [] :: s :: ss else (c :: s) :: ss

/-- The name of the file that a path leads to.  Empty parts and single points are passed over. -/
def fileName? (path : List Char) : Option (List Char) :=
  match ((segments path).filter fun s => !s.isEmpty && s != ['.']).getLast? with
  | some name => if name == ['.', '.'] then none else some name
  | none => none

/-- The extension of a file name: what follows its last point, unless that begins the name. -/
def extension? (name : List Char) : Option (List Char) :=
  match Text.splitLast? ['.'] name with
  | some (before, after) => if before.isEmpty then none else some after
  | none => none

/-- The address is that of another document: a directory, or a file with the extension `md`. -/
def isDocument (url : List Char) : Bool :=
  let path := url.takeWhile fun c => c != '#' && c != '?'
  path.getLast? == some '/' || match (fileName? path).bind extension? with
    | some ext => ext.map Char.toLower == ['m', 'd']
    | none => false

/-- The file that a token refers to. -/
def asset? (t : Token) : Option Asset :=
  if !t.isOpening then none
  else match t.kind with
    | .image =>
      (t.attr? "src").bind fun src =>
        if isLocal src.toList then some ⟨.image, src⟩ else none
    | .link =>
      (t.attr? "href").bind fun href =>
        if isLocal href.toList && !isDocument href.toList then some ⟨.link, href⟩ else none
    | _ => none

/-- The files that the inline runs of a list refer to, in order. -/
def found (tokens : List Token) : List Asset :=
  tokens.flatMap fun t => if t.kind == .inline then t.children.filterMap asset? else []

/-- Records the files of a list of tokens. -/
def collect (tokens : List Token) (env : Environment) : Environment :=
  (found tokens).foldl Environment.addAsset env

end Assets

/-- The asset plugin. -/
def assets : Plugin where
  name := "assets"
  coreRules _ :=
    [{ name := "assets", apply := fun tokens s => (tokens, s.mapEnv (Assets.collect tokens)) }]

end Folio.Plugin
