import Folio.Workbench

/-!
# Histories of a pipeline

A pipeline that has worked on some documents has a session that is full of them.  Nothing of it is
left in the next document: parsing forgets the session, and no operation changes the pipeline.

## Main definitions

* `Operation` — what can be done with a pipeline.
* `Workbench.perform`, `Workbench.performAll` — one operation, and a history of operations.

## Main results

* `Pipeline.parseEvents_eq` — parsing does not depend on the session.
* `Workbench.render_performAll` — **a document is rendered after any history as it is rendered on a
  new pipeline.**
-/

namespace Folio

open Markdown (Event)

/-- What can be done with a pipeline. -/
inductive Operation where
  | parse (events : List Event)
  | process (tokens : List Token)
  | compile (tokens : List Token)
  | render (events : List Event)
  | defer (tokens : List Token)
  | take
  /-- Any other change of the environment. -/
  | edit (change : Environment → Environment)
  | report (level : LogLevel) (plugin message : String)

/-! ### The beginning of a run -/

@[simp] theorem Session.beginRun_eq (s : Session) : s.beginRun = {} := rfl

/-- Parsing does not depend on the session: the run begins with an empty one. -/
theorem Pipeline.parseEvents_eq (p : Pipeline) (events : List Event) (s : Session) :
    p.parseEvents events s = p.parseEvents events := by
  unfold Pipeline.parseEvents
  rw [Session.beginRun_eq, Session.beginRun_eq]

theorem Pipeline.renderEvents_eq (p : Pipeline) (events : List Event) (s : Session) :
    p.renderEvents events s = p.renderEvents events := by
  unfold Pipeline.renderEvents
  rw [parseEvents_eq]

namespace Workbench

/-! ### Operations -/

/-- The workbench after an operation. -/
def perform (w : Workbench) : Operation → Workbench
  | .parse events => (w.parseEvents events).2
  | .process tokens => (w.process tokens).2
  | .compile tokens => (w.compile tokens).2
  | .render events => (w.renderEvents events).2
  | .defer tokens => w.defer tokens
  | .take => w.take.2
  | .edit change => w.edit change
  | .report level plugin message => w.report level plugin message

/-- The workbench after a history of operations. -/
def performAll (w : Workbench) (history : List Operation) : Workbench := history.foldl perform w

/-- An operation changes the session only. -/
theorem pipeline_perform (w : Workbench) (op : Operation) :
    (w.perform op).pipeline = w.pipeline := by
  cases op <;> rfl

theorem pipeline_performAll (history : List Operation) : ∀ w : Workbench,
    (w.performAll history).pipeline = w.pipeline := by
  induction history with
  | nil => exact fun _ => rfl
  | cons op history ih => exact fun w => (ih (w.perform op)).trans (w.pipeline_perform op)

/-- Rendering depends on the pipeline alone. -/
theorem renderEvents_congr {w w' : Workbench} (h : w.pipeline = w'.pipeline)
    (events : List Event) : w.renderEvents events = w'.renderEvents events := by
  unfold renderEvents
  rw [Pipeline.renderEvents_eq, Pipeline.renderEvents_eq _ _ w'.session, h]

/-- **A document is rendered after any history as it is rendered on a new pipeline**: the result is
the same, and so are the environment and the log that it leaves. -/
theorem render_performAll (o : Options) (history : List Operation) :
    (∀ events, (o.workbench.performAll history).renderEvents events
      = o.workbench.renderEvents events) ∧
    ∀ input, (o.workbench.performAll history).render input = o.workbench.render input := by
  have hpipeline := pipeline_performAll history o.workbench
  exact ⟨renderEvents_congr hpipeline, fun input => renderEvents_congr hpipeline _⟩

end Workbench

end Folio
