import Folio.Command.Run

/-!
# Runs of the command

All that can fail in a run comes before all that can be seen of it.  Up to the moment when the
document is there as it is written, the command asks its surroundings and changes nothing in them;
then it writes to one place, and nothing comes behind that.  So a run that fails is one that has
only asked, or one whose single write has failed.

What the surroundings have to grant for this is a structure of its own, `Host.IsCareful`: a
question leaves them as they are, and so does a write that fails.

## Main definitions

* `Observes` — an action that leaves the state as it is.
* `Host.IsCareful` — surroundings that only a write that succeeds changes.
* `Host.Renders` — the document that a run writes.
* `Host.Settles` — what a run comes to.

## Main results

* `Host.IsCareful.observes_loadConfig` — a configuration is found and read without a change.
* `Host.IsCareful.run_render` — a run about one document, as what it asks and then a write.
* `Host.IsCareful.settles` — **a run that fails has changed nothing and has no output; a run about
  one document that succeeds has brought the document to one place.**
-/

namespace Folio

variable {σ α β : Type}

/-! ### Actions that only ask -/

/-- An action that leaves the state as it is. -/
def Observes (action : StateM σ α) : Prop := ∀ s, (action.run s).2 = s

theorem observes_pure (value : α) : Observes (pure value : StateM σ α) := fun _ => rfl

/-- Behind an action that only asks, the rest runs in the same state. -/
theorem Observes.run_bind {action : StateM σ α} (h : Observes action) (rest : α → StateM σ β)
    (s : σ) : (action >>= rest).run s = (rest (action.run s).1).run s := by
  have hs : (action.run s).2 = s := h s
  calc (action >>= rest).run s = (rest (action.run s).1).run (action.run s).2 :=
        StateT.run_bind action rest s
    _ = (rest (action.run s).1).run s := by rw [hs]

theorem Observes.bind {action : StateM σ α} {rest : α → StateM σ β} (h : Observes action)
    (hrest : ∀ value, Observes (rest value)) : Observes (action >>= rest) := by
  intro s
  rw [h.run_bind]
  exact hrest _ s

/-! ### Surroundings -/

/-- Surroundings that only a write that succeeds changes. -/
structure Host.IsCareful (host : Host (StateM σ)) : Prop where
  directory : Observes host.directory
  lookup : ∀ name, Observes (host.lookup name)
  isPresent : ∀ path, Observes (host.isPresent path)
  read : ∀ path, Observes (host.read path)
  readInput : Observes host.readInput
  write : ∀ path text s e, ((host.write path text).run s).1 = .error e →
    ((host.write path text).run s).2 = s

/-- The text of the document that a run is about, or why there is none. -/
def Host.source {m : Type → Type} (host : Host m) (a : RenderArguments) :
    m (Except FileError String) :=
  if a.input == standardInput then host.readInput else host.read a.input

/-- The path of the document that a run is about; the standard input has none. -/
def RenderArguments.path? (a : RenderArguments) : Option String :=
  if a.input == standardInput then none else some a.input

namespace Host.IsCareful

variable {host : Host (StateM σ)} (h : host.IsCareful)
include h

theorem observes_firstPresent (paths : List String) : Observes (host.firstPresent paths) := by
  induction paths with
  | nil => exact observes_pure _
  | cons path paths ih =>
    refine (h.isPresent path).bind fun found => ?_
    cases found with
    | true => exact observes_pure _
    | false => exact ih

theorem observes_findConfig (given : Option String) : Observes (host.findConfig given) := by
  cases given with
  | some path =>
    refine (h.isPresent path).bind fun found => ?_
    cases found <;> exact observes_pure _
  | none =>
    refine h.directory.bind fun directory => ?_
    exact (h.observes_firstPresent _).bind fun _ => observes_pure _

theorem observes_lookupAll (names : List String) : Observes (host.lookupAll names) := by
  induction names with
  | nil => exact observes_pure _
  | cons name names ih =>
    refine ih.bind fun rest => (h.lookup name).bind fun value => ?_
    cases value <;> exact observes_pure _

theorem observes_readConfig (path : String) : Observes (host.readConfig path) := by
  refine (h.read path).bind fun text => ?_
  cases text with
  | error e => exact observes_pure _
  | ok text =>
    dsimp only
    cases Config.read text with
    | error e => exact observes_pure _
    | ok c => exact (h.observes_lookupAll _).bind fun _ => observes_pure _

/-- A configuration is found and read without a change. -/
theorem observes_loadConfig (given : Option String) : Observes (host.loadConfig given) := by
  refine (h.observes_findConfig given).bind fun found => ?_
  match found with
  | .error e => exact observes_pure _
  | .ok none => exact observes_pure _
  | .ok (some path) => exact h.observes_readConfig path

theorem observes_source (a : RenderArguments) : Observes (host.source a) := by
  rw [Host.source]
  split
  · exact h.readInput
  · exact h.read a.input

end Host.IsCareful

/-! ### Documents -/

/-- The document that a run writes, with the configuration that it is written under and the log of
its stages. -/
structure Host.Renders (host : Host (StateM σ)) (a : RenderArguments) (s : σ) (config : Config)
    (content : String) (log : Log) : Prop where
  /-- The configuration is found and read. -/
  configured : ((host.loadConfig a.config).run s).1 = .ok config
  /-- The text is read, and the stages of the configuration make the document of it. -/
  document : ∃ source, ((host.source a).run s).1 = .ok source ∧
    (config.override a.overrides).renderDocument a.format a.path? source = .ok (content, log)

namespace Host.IsCareful

variable {host : Host (StateM σ)} (h : host.IsCareful)
include h

/-- A run about one document: the configuration and the text are asked for in the state that the
run begins in, and only the document that comes of them is delivered. -/
theorem run_render (a : RenderArguments) (s : σ) : (host.render a).run s =
    match ((host.loadConfig a.config).run s).1 with
    | .error e => ((Failure.config e).outcome "", s)
    | .ok config =>
      match ((host.source a).run s).1 with
      | .error e => ((Failure.file e).outcome (a.notice config), s)
      | .ok source =>
        match (config.override a.overrides).renderDocument a.format a.path? source with
        | .error e => (e.outcome (a.notice config), s)
        | .ok (content, log) =>
          (host.deliver a.output content (a.notice config ++ log.warnings)).run s := by
  rw [Host.render, (h.observes_loadConfig a.config).run_bind]
  cases ((host.loadConfig a.config).run s).1 with
  | error e => rfl
  | ok config =>
    refine ((h.observes_source a).run_bind _ s).trans ?_
    cases ((host.source a).run s).1 with
    | error e => rfl
    | ok source =>
      dsimp only [RenderArguments.path?]
      cases (config.override a.overrides).renderDocument a.format
        (if a.input == standardInput then none else some a.input) source with
      | error e => rfl
      | ok document => rfl

/-- A run about one document fails in the state that it began in, or gets as far as writing the
document. -/
theorem render_cases (a : RenderArguments) (s : σ) :
    (∃ (e : Failure) (reported : String), (host.render a).run s = (e.outcome reported, s)) ∨
      ∃ config content log, host.Renders a s config content log ∧
        (host.render a).run s
          = (host.deliver a.output content (a.notice config ++ log.warnings)).run s := by
  rw [h.run_render]
  cases hconfig : ((host.loadConfig a.config).run s).1 with
  | error e => exact .inl ⟨_, _, rfl⟩
  | ok config =>
    cases hsource : ((host.source a).run s).1 with
    | error e => exact .inl ⟨_, _, rfl⟩
    | ok source =>
      dsimp only
      cases hdocument : (config.override a.overrides).renderDocument a.format a.path? source with
      | error e => exact .inl ⟨_, _, rfl⟩
      | ok document =>
        obtain ⟨content, log⟩ := document
        exact .inr ⟨config, content, log, ⟨hconfig, source, hsource, hdocument⟩, rfl⟩

/-- A run that can make the document gets as far as writing it. -/
theorem run_render_of_renders {a : RenderArguments} {s : σ} {config : Config} {content : String}
    {log : Log} (hdocument : host.Renders a s config content log) : (host.render a).run s
      = (host.deliver a.output content (a.notice config ++ log.warnings)).run s := by
  obtain ⟨hconfig, source, hsource, hcontent⟩ := hdocument
  rw [h.run_render, hconfig]
  dsimp only
  rw [hsource]
  dsimp only
  rw [hcontent]

end Host.IsCareful

/-! ### Outcomes -/

/-- No failure is taken for a success. -/
theorem Failure.code_ne_zero (e : Failure) : e.code ≠ 0 := by
  unfold Failure.code
  split <;> decide

/-- A document that can be brought to the place that it is meant for. -/
def Host.CanWrite (host : Host (StateM σ)) (output : Option String) (content : String) (s : σ) :
    Prop :=
  ∀ path, output = some path → ((host.write path content).run s).1 = .ok ()

/-- What a document leaves at the place that it is meant for: a text of the standard output, or a
file in the surroundings, and only one of both. -/
inductive Host.Delivers (host : Host (StateM σ)) (content : String) (s : σ) :
    Option String → Outcome → σ → Prop
  /-- The document is the output, and the surroundings are as they were. -/
  | printed {o : Outcome} (output : o.output = closeLine content) :
    Delivers host content s none o s
  /-- The document is in a file, and there is no output. -/
  | written {path : String} {o : Outcome} {after : σ} (output : o.output = "")
    (file : (host.write path content).run s = (.ok (), after)) :
    Delivers host content s (some path) o after

theorem Host.Delivers.of_none {host : Host (StateM σ)} {content : String} {s after : σ}
    {o : Outcome} (h : host.Delivers content s none o after) :
    o.output = closeLine content ∧ after = s := by
  cases h with
  | printed houtput => exact ⟨houtput, rfl⟩

theorem Host.Delivers.of_some {host : Host (StateM σ)} {content path : String} {s after : σ}
    {o : Outcome} (h : host.Delivers content s (some path) o after) :
    o.output = "" ∧ (host.write path content).run s = (.ok (), after) := by
  cases h with
  | written houtput hfile => exact ⟨houtput, hfile⟩

/-- What a run comes to. -/
structure Host.Settles (host : Host (StateM σ)) (arguments : List String) (s : σ) (o : Outcome)
    (after : σ) : Prop where
  /-- A run that fails has no output, and the surroundings are as they were. -/
  failed : o.code ≠ 0 → o.output = "" ∧ after = s
  /-- A run about one document that succeeds has brought the document to one place. -/
  delivered : ∀ a, Request.ofArguments arguments = .ok (.render a) → o.code = 0 →
    ∃ config content log, host.Renders a s config content log ∧
      host.Delivers content s a.output o after
  /-- A run about one document succeeds if the document can be made and be brought to its place. -/
  succeeds : ∀ a config content log, Request.ofArguments arguments = .ok (.render a) →
    host.Renders a s config content log → host.CanWrite a.output content s → o.code = 0

/-- Where no document is asked for, it is enough that a failure has no output. -/
theorem Host.Settles.of_no_document {host : Host (StateM σ)} {arguments : List String} {s : σ}
    {o : Outcome} (hrequest : ∀ a, Request.ofArguments arguments ≠ .ok (.render a))
    (houtput : o.code ≠ 0 → o.output = "") : host.Settles arguments s o s where
  failed hcode := ⟨houtput hcode, rfl⟩
  delivered a ha := absurd ha (hrequest a)
  succeeds a _ _ _ ha := absurd ha (hrequest a)

namespace Host.IsCareful

variable {host : Host (StateM σ)} (h : host.IsCareful)
include h

/-- A document is brought to its place, or the write fails and nothing has happened. -/
theorem deliver_cases (output : Option String) (content reported : String) (s : σ) :
    (((host.deliver output content reported).run s).1.code = 0 ∧
        host.Delivers content s output ((host.deliver output content reported).run s).1
          ((host.deliver output content reported).run s).2) ∨
      (∃ e : Failure, (host.deliver output content reported).run s = (e.outcome reported, s)) ∧
        ¬ host.CanWrite output content s := by
  cases output with
  | none => exact .inl ⟨rfl, .printed rfl⟩
  | some path =>
    rcases hwrite : (host.write path content).run s with ⟨result, after⟩
    cases result with
    | ok done =>
      have hrun : (host.deliver (some path) content reported).run s
          = ({ errors := reported ++ "Wrote " ++ path ++ "\n" }, after) := by
        rw [Host.deliver, StateT.run_bind, hwrite]
        rfl
      rw [hrun]
      exact .inl ⟨rfl, .written rfl hwrite⟩
    | error e =>
      -- The write has failed, so what came with it is the state from before.
      have hresult : ((host.write path content).run s).1 = .error e := congrArg Prod.fst hwrite
      have hafter : after = s := (congrArg Prod.snd hwrite).symm.trans (h.write _ _ _ _ hresult)
      have hrun : (host.deliver (some path) content reported).run s
          = ((Failure.file e).outcome reported, s) := by
        rw [Host.deliver, StateT.run_bind, hwrite, hafter]
        rfl
      refine .inr ⟨⟨.file e, hrun⟩, fun hcan => ?_⟩
      rw [hcan path rfl] at hresult
      cases hresult

/-- A run about one document fails and has changed nothing, or has brought the document to its
place. -/
theorem render_fails_or_delivers (a : RenderArguments) (s : σ) :
    (∃ (e : Failure) (reported : String), (host.render a).run s = (e.outcome reported, s)) ∨
      ((host.render a).run s).1.code = 0 ∧
        ∃ config content log, host.Renders a s config content log ∧
          host.Delivers content s a.output ((host.render a).run s).1
            ((host.render a).run s).2 := by
  rcases h.render_cases a s with hfailed | ⟨config, content, log, hdocument, hrun⟩
  · exact .inl hfailed
  · rw [hrun]
    rcases h.deliver_cases a.output content (a.notice config ++ log.warnings) s with
      ⟨hcode, hdelivers⟩ | ⟨⟨e, hfailed⟩, -⟩
    · exact .inr ⟨hcode, config, content, log, hdocument, hdelivers⟩
    · exact .inl ⟨e, _, hfailed⟩

/-- A run about one document succeeds if the document can be made and be brought to its place. -/
theorem code_render_of_renders {a : RenderArguments} {s : σ} {config : Config} {content : String}
    {log : Log} (hdocument : host.Renders a s config content log)
    (hcan : host.CanWrite a.output content s) : ((host.render a).run s).1.code = 0 := by
  rw [h.run_render_of_renders hdocument]
  rcases h.deliver_cases a.output content (a.notice config ++ log.warnings) s with
    ⟨hcode, -⟩ | ⟨-, hcannot⟩
  · exact hcode
  · exact absurd hcan hcannot

/-- **A run that fails has changed nothing and has no output; a run about one document that
succeeds has brought the document to one place.** -/
theorem settles (arguments : List String) (s : σ) :
    host.Settles arguments s ((host.run arguments).run s).1 ((host.run arguments).run s).2 := by
  unfold Host.run
  cases hrequest : Request.ofArguments arguments with
  | error e =>
    -- Arguments that ask for nothing ask for no document either.
    refine .of_no_document (fun a => ?_) fun _ => rfl
    simp [hrequest]
  | ok request =>
    cases request with
    | version =>
      refine .of_no_document (fun a => ?_) fun hcode => absurd rfl hcode
      simp [hrequest]
    | help =>
      refine .of_no_document (fun a => ?_) fun hcode => absurd rfl hcode
      simp [hrequest]
    | render a =>
      constructor
      case failed =>
        intro hcode
        rcases h.render_fails_or_delivers a s with ⟨e, reported, hrun⟩ | ⟨hzero, -⟩
        · dsimp only
          rw [hrun]
          exact ⟨rfl, rfl⟩
        · exact absurd hzero hcode
      case delivered =>
        intro b hb hcode
        obtain rfl : a = b := by simpa [hrequest] using hb
        rcases h.render_fails_or_delivers a s with ⟨e, reported, hrun⟩ | ⟨-, hdocument⟩
        · dsimp only at hcode
          rw [hrun] at hcode
          exact absurd hcode e.code_ne_zero
        · exact hdocument
      case succeeds =>
        intro b config content log hb hdocument hcan
        obtain rfl : a = b := by simpa [hrequest] using hb
        exact h.code_render_of_renders hdocument hcan

end Host.IsCareful

end Folio
