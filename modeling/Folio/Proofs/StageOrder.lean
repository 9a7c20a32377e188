import Folio.Proofs.Histories
import Folio.Proofs.Nesting

/-!
# The order of the stages

The processors of the plugins run one after the other.  Each gets the tokens and the session that
the one before it has left, and the first that fails ends the run: its error and its session are
what is left, and the plugins behind it have no part in them.

What a processor does is not known here.  It is any function.

## Main definitions

* `Plugin.Passes`, `Plugin.Fails` — the two ways in which a processor ends.
* `PassAll` — the processors of a list of plugins end well, one after the other.
* `RunsInOrder` — what a run of all processors comes to.

## Main results

* `runStages_eq_ok_iff` — a run ends well exactly if all processors do.
* `runStages_eq_error_iff` — a run fails exactly with the first processor that fails.
* `Workbench.runsInOrder_process` — **after any history, the processors run in the order of their
  plugins, up to the first that fails.**
-/

namespace Folio

variable {options : PluginOptions} {e : Engine} {ts mid ts' : List Token} {s smid s' : Session}

/-! ### One processor -/

/-- The processor of a plugin returns tokens, and they are nested. -/
def Plugin.Passes (plugin : Plugin) (options : PluginOptions) (e : Engine) (ts : List Token)
    (s : Session) (ts' : List Token) (s' : Session) : Prop :=
  ∃ processor, plugin.processor = some processor ∧
    processor options e ts s = (.ok ts', s') ∧ Nested ts'

/-- The processor of a plugin fails: it returns an error, or tokens that are not nested. -/
inductive Plugin.Fails (plugin : Plugin) (options : PluginOptions) (e : Engine) (ts : List Token)
    (s : Session) : PluginError → Session → Prop
  /-- The processor fails itself. -/
  | itself {processor : PluginOptions → Processor} {error : PluginError} {s' : Session}
      (hprocessor : plugin.processor = some processor)
      (hrun : processor options e ts s = (.error error, s')) : Fails plugin options e ts s error s'
  /-- The processor returns tokens that the check rejects. -/
  | unbalanced {processor : PluginOptions → Processor} {ts' : List Token} {s' : Session}
      {imbalance : Imbalance} (hprocessor : plugin.processor = some processor)
      (hrun : processor options e ts s = (.ok ts', s')) (hnested : ¬ Nested ts')
      (hcheck : checkBalance ts' = .error imbalance) :
      Fails plugin options e ts s (.invalidTokens imbalance.message) s'

/-- The stages of a list of plugins. -/
def stagesOf (options : PluginOptions) (plugins : List Plugin) : List Stage :=
  plugins.filterMap fun plugin =>
    plugin.processor.map fun processor => ⟨plugin.name, processor options⟩

@[simp] theorem stagesOf_nil : stagesOf options [] = [] := rfl

theorem stagesOf_cons_of_none {plugin : Plugin} (h : plugin.processor = none)
    (plugins : List Plugin) : stagesOf options (plugin :: plugins) = stagesOf options plugins :=
  List.filterMap_cons_none (by rw [h]; rfl)

theorem stagesOf_cons_of_some {plugin : Plugin} {processor : PluginOptions → Processor}
    (h : plugin.processor = some processor) (plugins : List Plugin) :
    stagesOf options (plugin :: plugins)
      = ⟨plugin.name, processor options⟩ :: stagesOf options plugins :=
  List.filterMap_cons_some (by rw [h]; rfl)

/-- A list that the check rejects is not nested. -/
theorem not_nested_of_checkBalance {imbalance : Imbalance}
    (h : checkBalance ts = .error imbalance) : ¬ Nested ts := by
  intro hnested
  rw [checkBalance_eq_ok_iff.mpr hnested.balanced] at h
  cases h

/-- A processor ends well or fails. -/
theorem Plugin.passes_or_fails {plugin : Plugin} {processor : PluginOptions → Processor}
    (h : plugin.processor = some processor) (options : PluginOptions) (e : Engine)
    (ts : List Token) (s : Session) :
    (∃ ts' s', plugin.Passes options e ts s ts' s') ∨
      ∃ error s', plugin.Fails options e ts s error s' := by
  rcases hrun : processor options e ts s with ⟨error | ts', s'⟩
  · exact .inr ⟨error, s', .itself h hrun⟩
  · rcases hcheck : checkBalance ts' with imbalance | ⟨⟩
    · have hnested := not_nested_of_checkBalance hcheck
      exact .inr ⟨.invalidTokens imbalance.message, s', .unbalanced h hrun hnested hcheck⟩
    · have hnested := nested_of_balanced (checkBalance_eq_ok_iff.mp hcheck)
      exact .inl ⟨ts', s', processor, h, hrun, hnested⟩

/-! ### Runs -/

/-- The processors of a list of plugins end well, one after the other: each gets what the one
before it has left.  A plugin without a processor leaves everything as it is. -/
inductive PassAll (options : PluginOptions) (e : Engine) :
    List Plugin → List Token → Session → List Token → Session → Prop
  | nil (ts : List Token) (s : Session) : PassAll options e [] ts s ts s
  | skip {plugin : Plugin} {plugins : List Plugin} {ts ts' : List Token} {s s' : Session}
      (hnone : plugin.processor = none) (hrest : PassAll options e plugins ts s ts' s') :
      PassAll options e (plugin :: plugins) ts s ts' s'
  | pass {plugin : Plugin} {plugins : List Plugin} {ts mid ts' : List Token}
      {s smid s' : Session} (hpass : plugin.Passes options e ts s mid smid)
      (hrest : PassAll options e plugins mid smid ts' s') :
      PassAll options e (plugin :: plugins) ts s ts' s'

theorem PassAll.of_none {plugins : List Plugin}
    (h : ∀ plugin ∈ plugins, plugin.processor = none) (ts : List Token) (s : Session) :
    PassAll options e plugins ts s ts s := by
  induction plugins with
  | nil => exact .nil ts s
  | cons plugin plugins ih =>
    have hrest := ih fun q hq => h q (List.mem_cons_of_mem plugin hq)
    exact .skip (h plugin List.mem_cons_self) hrest

namespace Pipeline

/-- A run goes on behind a processor that ends well. -/
theorem runStages_of_passes {plugin : Plugin} (h : plugin.Passes options e ts s mid smid)
    (plugins : List Plugin) :
    runStages e (stagesOf options (plugin :: plugins)) ts s
      = runStages e (stagesOf options plugins) mid smid := by
  obtain ⟨processor, hprocessor, hrun, hnested⟩ := h
  have hcheck := checkBalance_eq_ok_iff.mpr hnested.balanced
  have hstage : runStage e ⟨plugin.name, processor options⟩ ts s = (.ok mid, smid) := by
    simp only [runStage, hrun, hcheck]
  rw [stagesOf_cons_of_some hprocessor, runStages, hstage]

/-- A run ends at a processor that fails, whatever stands behind it. -/
theorem runStages_of_fails {plugin : Plugin} {error : PluginError}
    (h : plugin.Fails options e ts s error s') (plugins : List Plugin) :
    runStages e (stagesOf options (plugin :: plugins)) ts s
      = (.error (.stage plugin.name error), s') := by
  cases h with
  | @itself processor _ _ hprocessor hrun =>
    have hstage : runStage e ⟨plugin.name, processor options⟩ ts s
        = (.error (.stage plugin.name error), s') := by simp only [runStage, hrun]
    rw [stagesOf_cons_of_some hprocessor, runStages, hstage]
  | @unbalanced processor _ _ imbalance hprocessor hrun _ hcheck =>
    have hstage : runStage e ⟨plugin.name, processor options⟩ ts s
        = (.error (.stage plugin.name (.invalidTokens imbalance.message)), s') := by
      simp only [runStage, hrun, hcheck]
    rw [stagesOf_cons_of_some hprocessor, runStages, hstage]

/-- **A run goes on behind processors that end well.** -/
theorem runStages_of_passAll {plugins : List Plugin}
    (h : PassAll options e plugins ts s mid smid) (after : List Plugin) :
    runStages e (stagesOf options (plugins ++ after)) ts s
      = runStages e (stagesOf options after) mid smid := by
  induction h with
  | nil => rfl
  | skip hnone _ ih => rw [List.cons_append, stagesOf_cons_of_none hnone, ih]
  | pass hpass _ ih => rw [List.cons_append, runStages_of_passes hpass, ih]

/-- All processors end well, or there is a first that fails. -/
theorem passAll_or_fails (options : PluginOptions) (e : Engine) (plugins : List Plugin) :
    ∀ (ts : List Token) (s : Session),
      (∃ ts' s', PassAll options e plugins ts s ts' s') ∨
      ∃ (before : List Plugin) (plugin : Plugin) (after : List Plugin), ∃ mid smid error s',
        plugins = before ++ plugin :: after ∧ PassAll options e before ts s mid smid ∧
        plugin.Fails options e mid smid error s' := by
  induction plugins with
  | nil => exact fun ts s => .inl ⟨ts, s, .nil ts s⟩
  | cons plugin plugins ih =>
    intro ts s
    rcases hprocessor : plugin.processor with _ | processor
    · rcases ih ts s with
        ⟨ts', s', hall⟩ | ⟨before, p, after, mid, smid, error, s', rfl, hall, hf⟩
      · exact .inl ⟨ts', s', .skip hprocessor hall⟩
      · exact .inr ⟨plugin :: before, p, after, mid, smid, error, s', rfl,
          .skip hprocessor hall, hf⟩
    · rcases plugin.passes_or_fails hprocessor options e ts s with
        ⟨ts₁, s₁, hpass⟩ | ⟨error, s', hf⟩
      · rcases ih ts₁ s₁ with
          ⟨ts', s', hall⟩ | ⟨before, p, after, mid, smid, error, s', rfl, hall, hf⟩
        · exact .inl ⟨ts', s', .pass hpass hall⟩
        · exact .inr ⟨plugin :: before, p, after, mid, smid, error, s', rfl,
            .pass hpass hall, hf⟩
      · exact .inr ⟨[], plugin, plugins, ts, s, error, s', rfl, .nil ts s, hf⟩

/-- **A run ends well exactly if all processors do**, and leaves what the last one has left. -/
theorem runStages_eq_ok_iff {plugins : List Plugin} :
    runStages e (stagesOf options plugins) ts s = (.ok ts', s') ↔
      PassAll options e plugins ts s ts' s' := by
  have hend : ∀ {ts' s'}, PassAll options e plugins ts s ts' s' →
      runStages e (stagesOf options plugins) ts s = (.ok ts', s') := by
    intro ts' s' hall
    simpa [runStages] using runStages_of_passAll hall []
  refine ⟨fun hrun => ?_, hend⟩
  rcases passAll_or_fails options e plugins ts s with
    ⟨ts₁, s₁, hall⟩ | ⟨before, plugin, after, mid, smid, error, s₁, rfl, hall, hf⟩
  · cases (hend hall).symm.trans hrun
    exact hall
  · rw [runStages_of_passAll hall, runStages_of_fails hf] at hrun
    cases hrun

/-- **A run fails exactly with the first processor that fails**, and leaves its session. -/
theorem runStages_eq_error_iff {plugins : List Plugin} {error : RunError} :
    runStages e (stagesOf options plugins) ts s = (.error error, s') ↔
      ∃ (before : List Plugin) (plugin : Plugin) (after : List Plugin), ∃ mid smid source,
        plugins = before ++ plugin :: after ∧ PassAll options e before ts s mid smid ∧
        plugin.Fails options e mid smid source s' ∧
        error = .stage plugin.name source := by
  constructor
  · intro hrun
    rcases passAll_or_fails options e plugins ts s with
      ⟨ts₁, s₁, hall⟩ | ⟨before, plugin, after, mid, smid, source, s₁, rfl, hall, hf⟩
    · cases (runStages_eq_ok_iff.mpr hall).symm.trans hrun
    · rw [runStages_of_passAll hall, runStages_of_fails hf] at hrun
      cases hrun
      exact ⟨before, plugin, after, mid, smid, source, rfl, hall, hf, rfl⟩
  · rintro ⟨before, plugin, after, mid, smid, source, rfl, hall, hf, rfl⟩
    rw [runStages_of_passAll hall, runStages_of_fails hf]

end Pipeline

/-! ### All processors of a pipeline -/

/-- What a run of all processors comes to. -/
structure RunsInOrder (o : Options) (ts : List Token) (s : Session)
    (result : Except RunError (List Token) × Session) : Prop where
  /-- The run ends well exactly if all processors do, and leaves what the last one has left. -/
  succeeds : ∀ ts' s', result = (.ok ts', s') ↔
    PassAll o.forPlugins o.engine o.plugins ts s ts' s'
  /-- The run fails exactly with the first processor that fails, under the name of its plugin, and
  leaves the session that this processor has left. -/
  fails : ∀ error s', result = (.error error, s') ↔
    ∃ (before : List Plugin) (plugin : Plugin) (after : List Plugin), ∃ mid smid source,
      o.plugins = before ++ plugin :: after ∧
      PassAll o.forPlugins o.engine before ts s mid smid ∧
      plugin.Fails o.forPlugins o.engine mid smid source s' ∧ error = .stage plugin.name source
  /-- The plugins behind one that fails have no part in the result: with any others in their
  place it is the same. -/
  stops : ∀ (before : List Plugin) (plugin : Plugin) (after : List Plugin) mid smid source s',
    o.plugins = before ++ plugin :: after →
    PassAll o.forPlugins o.engine before ts s mid smid →
    plugin.Fails o.forPlugins o.engine mid smid source s' →
    ∀ others, Pipeline.runStages o.engine
      (stagesOf o.forPlugins (before ++ plugin :: others)) ts s = result
  /-- Tokens that no processor gets are not even checked. -/
  unchecked : (∀ plugin ∈ o.plugins, plugin.processor = none) → result = (.ok ts, s)

/-- **The processors of a pipeline run in the order of their plugins, up to the first that
fails.** -/
theorem Options.runsInOrder (o : Options) (ts : List Token) (s : Session) :
    RunsInOrder o ts s (o.pipeline.process ts s) := by
  have hprocess : o.pipeline.process ts s
      = Pipeline.runStages o.engine (stagesOf o.forPlugins o.plugins) ts s := rfl
  rw [hprocess]
  constructor
  · exact fun _ _ => Pipeline.runStages_eq_ok_iff
  · exact fun _ _ => Pipeline.runStages_eq_error_iff
  · intro before plugin after mid smid source s' hplugins hall hf others
    rw [hplugins, Pipeline.runStages_of_passAll hall, Pipeline.runStages_of_passAll hall,
      Pipeline.runStages_of_fails hf, Pipeline.runStages_of_fails hf]
  · exact fun hnone => Pipeline.runStages_eq_ok_iff.mpr (.of_none hnone ts s)

/-- The workbench with another session. -/
def Workbench.withSession (w : Workbench) (session : Session) : Workbench := { w with session }

/-- **After any history, successful or not, the processors run in the order of their plugins, up
to the first that fails.**  The session that they begin with may be any, and the pipeline is the
same afterwards. -/
theorem Workbench.runsInOrder_process (o : Options) (history : List Operation) (ts : List Token)
    (s : Session) :
    RunsInOrder o ts s
      ((((o.workbench.performAll history).withSession s).process ts).1,
        (((o.workbench.performAll history).withSession s).process ts).2.session) ∧
    (((o.workbench.performAll history).withSession s).process ts).2.pipeline = o.pipeline := by
  have hpipeline := pipeline_performAll history o.workbench
  have hprocess : ((((o.workbench.performAll history).withSession s).process ts).1,
      (((o.workbench.performAll history).withSession s).process ts).2.session)
      = (o.workbench.performAll history).pipeline.process ts s := rfl
  refine ⟨?_, hpipeline⟩
  rw [hprocess, hpipeline]
  exact o.runsInOrder ts s

end Folio
