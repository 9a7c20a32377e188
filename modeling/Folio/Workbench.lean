import Folio.Pipeline

/-!
# A pipeline at work

One pipeline serves many documents, one after the other.  It holds the session of the run that
began last, and whoever uses it may change that session between the stages.

## Main definitions

* `Workbench` — a pipeline with its session.
* `Workbench.parseEvents`, `Workbench.process`, `Workbench.compile`, `Workbench.renderEvents` —
  the stages, and all of them.
* `Workbench.edit`, `Workbench.defer`, `Workbench.take`, `Workbench.report` — direct changes of the
  session.
-/

namespace Folio

/-- A pipeline with the session of the run that began last. -/
structure Workbench where
  /-- The pipeline. -/
  pipeline : Pipeline
  /-- What is known of the document that is being worked on. -/
  session : Session := {}

/-- A new pipeline, which has not worked on any document. -/
def Options.workbench (o : Options) : Workbench := { pipeline := o.pipeline }

namespace Workbench

/-- Parses a document that is given by its events.  This begins a run. -/
def parseEvents (w : Workbench) (events : List Markdown.Event) : List Token × Workbench :=
  let (tokens, session) := w.pipeline.parseEvents events w.session
  (tokens, { w with session })

/-- Parses a document. -/
def parse (w : Workbench) (input : String) : List Token × Workbench :=
  w.parseEvents (Engine.readEvents input)

/-- Runs the processors of all plugins. -/
def process (w : Workbench) (tokens : List Token) :
    Except RunError (List Token) × Workbench :=
  let (result, session) := w.pipeline.process tokens w.session
  (result, { w with session })

/-- Compiles tokens into a page. -/
def compile (w : Workbench) (tokens : List Token) : Except RunError String × Workbench :=
  let (page, session) := w.pipeline.compile tokens w.session
  (page, { w with session })

/-- Renders a document that is given by its events. -/
def renderEvents (w : Workbench) (events : List Markdown.Event) :
    Except RunError Rendered × Workbench :=
  let (result, session) := w.pipeline.renderEvents events w.session
  (result, { w with session })

/-- Renders a document. -/
def render (w : Workbench) (input : String) : Except RunError Rendered × Workbench :=
  w.renderEvents (Engine.readEvents input)

/-- Changes the environment. -/
def edit (w : Workbench) (change : Environment → Environment) : Workbench :=
  { w with session := w.session.mapEnv change }

/-- Adds tokens to those that the next page ends with. -/
def defer (w : Workbench) (tokens : List Token) : Workbench := w.edit (·.defer tokens)

/-- The tokens that the next page would have ended with. -/
def take (w : Workbench) : List Token × Workbench :=
  let (tokens, env) := w.session.env.takeDeferred
  (tokens, { w with session := { w.session with env } })

/-- Adds an entry to the log. -/
def report (w : Workbench) (level : LogLevel) (plugin message : String) : Workbench :=
  { w with session := w.session.report level plugin message }

end Workbench

end Folio
