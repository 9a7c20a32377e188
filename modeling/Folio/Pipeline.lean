import Folio.Outline
import Folio.Plugin.Builtin
import Folio.Sanitize.Clean

/-!
# The pipeline

A document is parsed into tokens, processed by the plugins, and compiled into a page.  A session
goes through all of them.  Parsing begins a run: whatever the session held before, it forgets.

## Main definitions

* `Options` — what a pipeline is built from.
* `Pipeline` — an engine with plugins.
* `Pipeline.parse`, `Pipeline.process`, `Pipeline.compile` — the three stages.
* `Pipeline.render` — all of them.
* `Pipeline.parseEvents`, `Pipeline.renderEvents` — the same for a document given by its events.
-/

namespace Folio

/-- What a pipeline is built from. -/
structure Options where
  /-- Raw HTML is passed through. -/
  allowHtml : Bool := false
  /-- Addresses in the text become links. -/
  linkify : Bool := false
  /-- More top-level domains for such links. -/
  linkDomains : List String := []
  /-- A soft line break is rendered as a hard one. -/
  breaks : Bool := true
  /-- The languages that the aliases of code blocks stand for. -/
  langs : List (String × String) := []
  /-- The highlighter of code blocks. -/
  highlighter : Option Highlighter := none
  /-- The title is taken out of the document. -/
  extractTitle : Bool := false
  /-- The title is found, and stays in the document. -/
  needTitle : Bool := false
  /-- How the title is found. -/
  titleStrategy : TitleStrategy := Folio.extractTitle
  /-- The headings are listed flat. -/
  flatHeadings : Bool := false
  /-- The plugins behind the attribute plugin. -/
  plugins : List Plugin := Plugin.defaults
  /-- The delimiters of attribute blocks. -/
  delimiters : Delimiters := {}
  /-- The variables. -/
  vars : Json.Members := []
  /-- The path of the document. -/
  path : Option String := none
  /-- Conditions in code blocks are evaluated. -/
  conditionsInCode : Bool := false
  /-- Templates are not evaluated. -/
  disableLiquid : Bool := false
  /-- Options that all plugins share. -/
  custom : Json.Members := []
  /-- The page is cleaned with these options. -/
  sanitize : Option SanitizeOptions := none
  /-- What cleans the page. -/
  cleaner : Cleaner := treeCleaner

/-- The processor of a plugin, with the plugin's name. -/
structure Stage where
  /-- The name of the plugin. -/
  plugin : String
  /-- The transformation. -/
  run : Processor

/-- An engine with plugins. -/
structure Pipeline where
  /-- The engine. -/
  engine : Engine
  /-- The processors in order. -/
  stages : List Stage
  /-- The title is taken out of the document. -/
  extractTitle : Bool
  /-- The title is found, and stays in the document. -/
  needTitle : Bool
  /-- The headings are listed flat. -/
  flatHeadings : Bool
  /-- How the title is found. -/
  titleStrategy : TitleStrategy
  /-- The page is cleaned with these options. -/
  sanitize : Option SanitizeOptions
  /-- What cleans the page. -/
  cleaner : Cleaner

/-- Why a run fails. -/
inductive RunError where
  /-- The processor of a plugin fails. -/
  | stage (plugin : String) (error : PluginError)
  /-- The cleaner refuses the sanitizing policy. -/
  | policy (error : PolicyError)
  deriving DecidableEq, Repr

/-- The text of an error. -/
def RunError.message : RunError → String
  | .stage plugin _ => "plugin \x60" ++ plugin ++ "\x60 failed"
  | .policy e => e.message

/-- A rendered document. -/
structure Rendered where
  /-- The page. -/
  html : String
  /-- The title. -/
  title : String
  /-- The headings. -/
  headings : List Heading
  /-- The metadata. -/
  metadata : Json.Members
  /-- The files that the document refers to. -/
  assets : List Asset

namespace Options

/-- What every plugin gets to know. -/
def forPlugins (o : Options) : PluginOptions where
  custom := o.custom
  conditionsInCode := o.conditionsInCode
  vars := o.vars
  path := o.path
  titleStrategy := o.titleStrategy
  disableLiquid := o.disableLiquid

/-- The engine with the rules of all plugins, those for attributes first. -/
def engine (o : Options) : Engine :=
  let bare : Engine := {
    linksText := o.linkify
    linkify := ({} : Linkify).addDomains (if o.linkify then o.linkDomains else [])
    renderer := {
      allowHtml := o.allowHtml
      breaks := o.breaks
      langs := o.langs
      highlighter := o.highlighter } }
  (Plugin.attributes o.delimiters :: o.plugins).foldl
    (fun e plugin => plugin.register o.forPlugins e) bare

/-- The pipeline that options make. -/
def pipeline (o : Options) : Pipeline where
  engine := o.engine
  stages := o.plugins.filterMap fun plugin =>
    plugin.processor.map fun processor => ⟨plugin.name, processor o.forPlugins⟩
  extractTitle := o.extractTitle
  needTitle := o.needTitle
  flatHeadings := o.flatHeadings
  titleStrategy := o.titleStrategy
  sanitize := o.sanitize
  cleaner := o.cleaner

end Options

namespace Pipeline

/-- The title of a document as it is shown: with its markup if it has any. -/
def shownTitle (p : Pipeline) (found : TitleExtraction) (env : Environment) : String :=
  if 1 < found.titleTokens.length then p.engine.renderInline found.titleTokens env
  else found.title

/-- Parses a document that is given by its events.  The session begins anew. -/
def parseEvents (p : Pipeline) (events : List Markdown.Event) (s : Session := {}) :
    List Token × Session :=
  let (tokens, s) := p.engine.parseEvents events s.beginRun
  let (tokens, s) :=
    if p.extractTitle then
      let found := p.titleStrategy tokens
      (found.tokens, s.mapEnv fun env => { env with title := p.shownTitle found env })
    else (tokens, s)
  let s := if p.needTitle then
      s.mapEnv fun env => { env with title := (p.titleStrategy tokens).title }
    else s
  (tokens, s.mapEnv fun env => { env with headings := outline p.flatHeadings tokens })

/-- Parses a document. -/
def parse (p : Pipeline) (input : String) (s : Session := {}) : List Token × Session :=
  p.parseEvents (Engine.readEvents input) s

/-- Runs one stage, and checks that its tokens are balanced. -/
def runStage (e : Engine) (stage : Stage) (tokens : List Token) (s : Session) :
    Except RunError (List Token) × Session :=
  match stage.run e tokens s with
  | (.error error, s) => (.error (.stage stage.plugin error), s)
  | (.ok tokens, s) =>
    match checkBalance tokens with
    | .ok () => (.ok tokens, s)
    | .error imbalance =>
      (.error (.stage stage.plugin (.invalidTokens imbalance.message)), s)

/-- Runs stages one after the other, up to the first that fails. -/
def runStages (e : Engine) : List Stage → List Token → Session →
    Except RunError (List Token) × Session
  | [], tokens, s => (.ok tokens, s)
  | stage :: stages, tokens, s =>
    match runStage e stage tokens s with
    | (.ok tokens, s) => runStages e stages tokens s
    | (.error error, s) => (.error error, s)

/-- Runs the processors of all plugins. -/
def process (p : Pipeline) (tokens : List Token) (s : Session) :
    Except RunError (List Token) × Session :=
  runStages p.engine p.stages tokens s

/-- Compiles tokens into a page.  The tokens that wait for the end of the page follow them. -/
def compile (p : Pipeline) (tokens : List Token) (s : Session) :
    Except RunError String × Session :=
  let (deferred, env) := s.env.takeDeferred
  let html := p.engine.render (tokens ++ deferred) env
  let page := match p.sanitize with
    | some options => (Folio.sanitize options html p.cleaner).mapError RunError.policy
    | none => .ok html
  (page, { s with env })

/-- Renders the tokens of a document that has just been parsed. -/
def finish (p : Pipeline) (tokens : List Token) (s : Session) :
    Except RunError Rendered × Session :=
  match p.process tokens s with
  | (.error error, s) => (.error error, s)
  | (.ok tokens, s) =>
    match p.compile tokens s with
    | (.error error, s) => (.error error, s)
    | (.ok html, s) =>
      (.ok ⟨html, s.env.title, s.env.headings, s.env.metadata, s.env.assets⟩, s)

/-- Renders a document that is given by its events. -/
def renderEvents (p : Pipeline) (events : List Markdown.Event) (s : Session := {}) :
    Except RunError Rendered × Session :=
  let (tokens, s) := p.parseEvents events s
  p.finish tokens s

/-- Renders a document. -/
def render (p : Pipeline) (input : String) (s : Session := {}) :
    Except RunError Rendered × Session :=
  p.renderEvents (Engine.readEvents input) s

end Pipeline

end Folio
