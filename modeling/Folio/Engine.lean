import Folio.Environment
import Folio.FrontMatter
import Folio.Html.Render
import Folio.Linkify
import Folio.Log
import Folio.Markdown.Assembly
import Folio.Markdown.Blocks

/-!
# The engine

The engine reads a text into tokens and renders tokens.  After reading, the rules of the plugins
revise the tokens, one after the other, and last the addresses in the text become links.

## Main definitions

* `Session` — the environment and the log of a run.
* `CoreRule` — a revision of the tokens that have just been read.
* `Engine` — the rules and options of an engine.
* `Engine.parseEvents`, `Engine.parse`, `Engine.render`, `Engine.renderInline`.
-/

namespace Folio

/-- The environment and the log of a run. -/
structure Session where
  /-- What the run has found out about the document. -/
  env : Environment := {}
  /-- What plugins have reported. -/
  log : Log := []
  deriving Repr, Inhabited

namespace Session

/-- The session at the beginning of a run: nothing is left of an earlier one. -/
def beginRun (s : Session) : Session := { env := s.env.beginRun, log := s.log.clear }

/-- The session with a changed environment. -/
def mapEnv (s : Session) (f : Environment → Environment) : Session := { s with env := f s.env }

/-- The session with one more log entry. -/
def report (s : Session) (level : LogLevel) (plugin message : String) : Session :=
  { s with log := s.log.add level plugin message }

end Session

/-- A revision of the tokens that have just been read. -/
structure CoreRule where
  /-- The name of the rule. -/
  name : String
  /-- The revision. -/
  apply : List Token → Session → List Token × Session

/-- The rules and options of an engine. -/
structure Engine where
  /-- The revisions, in the order in which they are made. -/
  coreRules : List CoreRule := []
  /-- Addresses in the text become links. -/
  linksText : Bool := false
  /-- How addresses in the text are found. -/
  linkify : Linkify := {}
  /-- How tokens are rendered. -/
  renderer : Renderer := {}

namespace Engine

/-- The events of a text. -/
def readEvents (input : String) : List Markdown.Event :=
  Markdown.blockEvents (Markdown.readDocument input.toList)

/-- Stores the members of a metadata block.  A block that is no mapping changes nothing. -/
def storeFrontMatter (env : Environment) (text : String) : Environment :=
  match frontMatter? text with
  | some members => { env with metadata := members }
  | none => env

/-- Makes the revisions of a list of rules. -/
def applyRules (rules : List CoreRule) (tokens : List Token) (s : Session) :
    List Token × Session :=
  rules.foldl (fun (tokens, s) rule => rule.apply tokens s) (tokens, s)

/-- The tokens of a sequence of events: assembled, then revised. -/
def parseEvents (e : Engine) (events : List Markdown.Event) (s : Session) :
    List Token × Session :=
  let (tokens, metadata) := Markdown.assemble events
  let (tokens, s) := applyRules e.coreRules tokens
    (s.mapEnv fun env => metadata.foldl storeFrontMatter env)
  (if e.linksText then e.linkify.apply tokens else tokens, s)

/-- The tokens of a text. -/
def parse (e : Engine) (input : String) (s : Session) : List Token × Session :=
  e.parseEvents (readEvents input) s

/-- The renderer, for a run that has found out `env`. -/
def rendererIn (e : Engine) (env : Environment) : Renderer := { e.renderer with env }

/-- The HTML of blocks. -/
def render (e : Engine) (tokens : List Token) (env : Environment := {}) : String :=
  (e.rendererIn env).render tokens

/-- The HTML of inline tokens. -/
def renderInline (e : Engine) (tokens : List Token) (env : Environment := {}) : String :=
  (e.rendererIn env).renderInline tokens

end Engine

end Folio
