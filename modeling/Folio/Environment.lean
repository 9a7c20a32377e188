import Folio.Json.Value
import Folio.Token.Basic

/-!
# The environment of a run

What a run finds out about a document beside its tokens: the title, the headings, the metadata,
the files that it refers to, and the tokens that are rendered at its end.

## Main definitions

* `Heading` — a heading with the headings below it.
* `Asset` — a file that the document refers to.
* `Environment` — all of them.
* `Environment.beginRun` — forgets what an earlier run has found out.
* `Environment.defer`, `Environment.takeDeferred` — the tokens that are rendered at the end.
-/

namespace Folio

/-- A heading with the headings below it. -/
structure Heading where
  /-- The level. -/
  level : Nat
  /-- The plain text. -/
  title : String
  /-- The id of the heading in the page. -/
  id : String
  /-- The headings below it. -/
  items : List Heading := []
  deriving Repr, Inhabited, BEq

/-- The address of a heading within its page. -/
def Heading.href (h : Heading) : String := "#" ++ h.id

/-- How a document refers to a file. -/
inductive AssetKind where
  | image
  | link
  deriving DecidableEq, Repr, Inhabited

/-- A file that a document refers to. -/
structure Asset where
  /-- How the document refers to it. -/
  kind : AssetKind
  /-- The address as it is written in the document. -/
  src : String
  deriving DecidableEq, Repr, Inhabited

/-- What a run finds out about a document. -/
structure Environment where
  /-- The title, empty as long as there is none. -/
  title : String := ""
  /-- The headings. -/
  headings : List Heading := []
  /-- The metadata. -/
  metadata : Json.Members := []
  /-- The files, in the order in which they were found. -/
  assets : List Asset := []
  /-- The tokens that are rendered behind all others. -/
  deferred : List Token := []
  deriving Repr, Inhabited

namespace Environment

/-- Forgets what an earlier run has found out. -/
def beginRun (env : Environment) : Environment :=
  { env with title := "", headings := [], metadata := [], assets := [], deferred := [] }

/-- Adds tokens to those that are rendered at the end. -/
def defer (env : Environment) (tokens : List Token) : Environment :=
  { env with deferred := env.deferred ++ tokens }

/-- The tokens that are rendered at the end, which leaves none. -/
def takeDeferred (env : Environment) : List Token × Environment :=
  (env.deferred, { env with deferred := [] })

/-- Records a file, once. -/
def addAsset (env : Environment) (asset : Asset) : Environment :=
  if env.assets.contains asset then env else { env with assets := env.assets ++ [asset] }

/-- Stores a value in the metadata. -/
def setMeta (env : Environment) (key : String) (value : Json) : Environment :=
  { env with metadata := env.metadata.insert key value }

end Environment

end Folio
