import Folio.Pipeline
import Folio.Proofs.Revisions

/-!
# Pages of the built-in plugins

A document goes through the rules of the plugins, the search for the title and the processors of
the plugins, and at its end come the tokens that were deferred.  What is rendered last is a page,
so the tags of the HTML are well nested.

## Main definitions

* `Options.UsesBuiltins` — no plugins but built-in ones, and a title is found as usual.

## Main results

* `Options.isBuiltin_renderer` — tokens are rendered by built-in rules only.
* `pipeline_parseEvents_spec` — **parsing a well-formed document makes a page.**
* `Pipeline.wellNested_renderEvents` — **the HTML of a document is well nested.**
-/

namespace Folio

open Html (WellNested)
open Markdown (Event ProperlyNested assemble)
open Plugin.Terms (definitionKind)

/-! ### The engine -/

/-- The rules of several plugins are added one after the other. -/
theorem coreRules_foldl_register (options : PluginOptions) (plugins : List Plugin) :
    ∀ e : Engine, (plugins.foldl (fun e plugin => plugin.register options e) e).coreRules
      = e.coreRules ++ plugins.flatMap fun plugin => plugin.coreRules options := by
  induction plugins with
  | nil => exact fun e => (List.append_nil _).symm
  | cons plugin plugins ih =>
    intro e
    rw [List.foldl_cons, ih, List.flatMap_cons]
    exact List.append_assoc _ _ _

/-- The rules for terms replace themselves at most. -/
theorem isBuiltin_register {p : Plugin}
    (hp : p.renderRules = [] ∨ p.renderRules = Plugin.terms.renderRules) (options : PluginOptions)
    {e : Engine} (h : e.renderer.IsBuiltin) : (p.register options e).renderer.IsBuiltin := by
  refine ⟨h.html, h.highlighter, fun name => ?_⟩
  have hrules : (p.register options e).renderer.rules
      = p.renderRules.reverse ++ e.renderer.rules := rfl
  have hreverse : Plugin.terms.renderRules.reverse.lookup name
      = Plugin.terms.renderRules.lookup name := by
    by_cases hd : name = "term_definition"
    · subst hd
      rfl
    · have hd' : (name == "term_definition") = false := by simpa using hd
      simp only [Plugin.terms, List.reverse_cons, List.reverse_nil, List.nil_append,
        List.cons_append, List.lookup_cons, List.lookup_nil, hd']
  -- The rules of the plugin come before those that are there.
  rw [hrules]
  rcases hp with hp | hp <;> rw [hp]
  · exact h.rules name
  · have hname := h.rules name
    rw [List.lookup_append, hreverse]
    cases hterms : Plugin.terms.renderRules.lookup name with
    | none => rwa [hterms] at hname
    | some rule => exact .inr rfl

theorem isBuiltin_foldl_register (options : PluginOptions) {plugins : List Plugin}
    (hplugins : ∀ p ∈ plugins, p.renderRules = [] ∨ p.renderRules = Plugin.terms.renderRules) :
    ∀ {e : Engine}, e.renderer.IsBuiltin →
      (plugins.foldl (fun e plugin => plugin.register options e) e).renderer.IsBuiltin := by
  induction plugins with
  | nil => exact fun h => h
  | cons p plugins ih =>
    intro e h
    exact ih (fun q hq => hplugins q (List.mem_cons_of_mem p hq))
      (isBuiltin_register (hplugins p List.mem_cons_self) options h)

namespace Options

/-- There are no plugins but built-in ones, and a title that is taken out is found as usual. -/
structure UsesBuiltins (o : Options) : Prop where
  plugins : ∀ p ∈ o.plugins, p ∈ Plugin.defaults
  title : o.extractTitle = true → o.titleStrategy = Folio.extractTitle

variable {o : Options}

theorem coreRules_engine (o : Options) : o.engine.coreRules
    = .ofTokens "attrs" (Plugin.Attributes.revise o.delimiters) ::
      o.plugins.flatMap fun plugin => plugin.coreRules o.forPlugins :=
  coreRules_foldl_register o.forPlugins (Plugin.attributes o.delimiters :: o.plugins) _

theorem isBuiltin_renderer (ho : o.UsesBuiltins) (hhtml : o.allowHtml = false)
    (hhighlighter : o.highlighter = none) : o.engine.renderer.IsBuiltin := by
  refine isBuiltin_foldl_register o.forPlugins (fun p hp => ?_)
    ⟨hhtml, hhighlighter, fun _ => .inl rfl⟩
  rcases List.mem_cons.mp hp with rfl | hp
  · exact .inl rfl
  · rcases Plugin.mem_defaults.mp (ho.plugins p hp) with rfl | rfl | rfl
    · exact .inl rfl
    · exact .inr rfl
    · exact .inl rfl

/-- What the run has found out changes no rule. -/
theorem isBuiltin_rendererIn (ho : o.UsesBuiltins) (hhtml : o.allowHtml = false)
    (hhighlighter : o.highlighter = none) (env : Environment) :
    (o.engine.rendererIn env).IsBuiltin :=
  have h := isBuiltin_renderer ho hhtml hhighlighter
  ⟨h.html, h.highlighter, h.rules⟩

end Options

/-! ### Parsing -/

/-- Rules that are gentle leave a page. -/
theorem applyRules_spec {rules : List CoreRule} (hrules : ∀ rule ∈ rules, rule.IsGentle) :
    ∀ {ts : List Token} (s : Session), PageContent ts →
      PageContent (Engine.applyRules rules ts s).1 ∧
        KeepsReading ts (Engine.applyRules rules ts s).1 ∧
        (Engine.applyRules rules ts s).2.env.deferred = s.env.deferred := by
  induction rules with
  | nil => exact fun s h => ⟨h, .refl _, rfl⟩
  | cons rule rules ih =>
    intro ts s h
    have hrule := hrules rule List.mem_cons_self
    obtain ⟨hpage, hreading, hdeferred⟩ :=
      ih (fun r hr => hrules r (List.mem_cons_of_mem rule hr)) (rule.apply ts s).2 (hrule.page s h)
    exact ⟨hpage, (hrule.reading s h).trans hreading, hdeferred.trans (hrule.deferred ts s)⟩

/-- Metadata blocks change the metadata, and no more. -/
theorem exists_foldl_storeFrontMatter (metadata : List String) : ∀ env : Environment,
    ∃ members, metadata.foldl Engine.storeFrontMatter env = { env with metadata := members } := by
  induction metadata with
  | nil => exact fun env => ⟨env.metadata, rfl⟩
  | cons text metadata ih =>
    intro env
    obtain ⟨members, hrest⟩ := ih (Engine.storeFrontMatter env text)
    refine ⟨members, hrest.trans ?_⟩
    unfold Engine.storeFrontMatter
    split <;> rfl

theorem deferred_storeFrontMatter (metadata : List String) (env : Environment) :
    (metadata.foldl Engine.storeFrontMatter env).deferred = env.deferred := by
  obtain ⟨members, heq⟩ := exists_foldl_storeFrontMatter metadata env
  rw [heq]

section Parsing

variable {o : Options} {events : List Event}

/-- What the engine reads off the events of a well-formed document. -/
theorem engine_parseEvents_spec (ho : o.UsesBuiltins) (h : ProperlyNested events) :
    PageContent (o.engine.parseEvents events {}).1 ∧
      KeepsReading (Plugin.Attributes.revise o.delimiters (assemble events).1)
        (o.engine.parseEvents events {}).1 ∧
      (o.engine.parseEvents events {}).2.env.deferred = [] := by
  have hrules : ∀ rule ∈ o.plugins.flatMap fun plugin => plugin.coreRules o.forPlugins,
      rule.IsGentle := by
    intro rule hrule
    obtain ⟨p, hp, hrule⟩ := List.mem_flatMap.mp hrule
    exact Plugin.isGentle_of_mem_defaults (ho.plugins p hp) o.forPlugins rule hrule
  have hrevised := Plugin.Attributes.pageContent_revise o.delimiters
    (Markdown.pageContent_assemble h)
  have hstart := deferred_storeFrontMatter (assemble events).2 {}
  obtain ⟨hpage, hreading, hdeferred⟩ := applyRules_spec hrules
    { env := (assemble events).2.foldl Engine.storeFrontMatter {} } hrevised
  unfold Engine.parseEvents
  dsimp only
  rw [Options.coreRules_engine]
  refine ⟨?_, ?_, hdeferred.trans hstart⟩ <;> split
  · exact Linkify.pageContent_apply _ hpage
  · exact hpage
  · exact hreading.trans (Linkify.keepsReading_apply _ hpage)
  · exact hreading

/-- The tokens of a document, without its title if that is taken out. -/
theorem Pipeline.fst_parseEvents (p : Pipeline) (events : List Event) :
    (p.parseEvents events).1
      = if p.extractTitle then (p.titleStrategy (p.engine.parseEvents events {}).1).tokens
        else (p.engine.parseEvents events {}).1 := by
  unfold Pipeline.parseEvents
  dsimp only
  split <;> rfl

theorem Pipeline.deferred_parseEvents (p : Pipeline) (events : List Event) :
    (p.parseEvents events).2.env.deferred = (p.engine.parseEvents events {}).2.env.deferred := by
  unfold Pipeline.parseEvents
  dsimp only
  split <;> split <;> rfl

/-- **Parsing a well-formed document makes a page**, whose runs read as those that the attribute
plugin leaves. -/
theorem pipeline_parseEvents_spec (ho : o.UsesBuiltins) (h : ProperlyNested events) :
    PageContent (o.pipeline.parseEvents events).1 ∧
      KeepsReading (Plugin.Attributes.revise o.delimiters (assemble events).1)
        (o.pipeline.parseEvents events).1 ∧
      (o.pipeline.parseEvents events).2.env.deferred = [] := by
  obtain ⟨hpage, hreading, hdeferred⟩ := engine_parseEvents_spec ho h
  obtain ⟨htitle, htitleReading⟩ := extractTitle_spec hpage
  rw [Pipeline.fst_parseEvents, Pipeline.deferred_parseEvents]
  split
  · next hextract =>
    have hstrategy : o.pipeline.titleStrategy = extractTitle := ho.title hextract
    rw [hstrategy]
    exact ⟨htitle, hreading.trans htitleReading, hdeferred⟩
  · exact ⟨hpage, hreading, hdeferred⟩

end Parsing

/-! ### Processing -/

/-- A definition of a term stands alone. -/
theorem Token.IsPagePart.single_of_definition {t : Token} (h : t.IsPagePart)
    (hk : t.kind = definitionKind) : t.nesting = .single := by
  by_contra hn
  have hpair := (h.pair hn).1
  simp [hk, definitionKind, Kind.isBlockPair] at hpair

/-- What is a page together with what is deferred stays one. -/
structure IsPage (ts : List Token) (s : Session) : Prop where
  page : PageContent ts
  deferred : PageContent s.env.deferred

theorem terms_processor_eq (e : Engine) (ts : List Token) (s : Session) :
    Plugin.Terms.processor e ts s = (.ok (ts.filter fun t => !(t.kind == definitionKind)),
      s.mapEnv fun env => env.defer (ts.filter fun t => t.kind == definitionKind)) := by
  rw [Plugin.Terms.processor, List.partition_eq_filter_filter]
  rfl

/-- The processor for terms defers the definitions. -/
theorem terms_processor_spec (e : Engine) {ts : List Token} {s : Session} (h : IsPage ts s) :
    ∃ ts' s', Plugin.Terms.processor e ts s = (.ok ts', s') ∧ IsPage ts' s' := by
  refine ⟨_, _, terms_processor_eq e ts s, ?_, ?_⟩
  · refine h.page.filter fun t ht hp => (h.page.parts t ht).single_of_definition ?_
    simpa using hp
  · -- The definitions that are taken off are single tokens: they are a page by themselves.
    refine h.deferred.append (pageContent_of_single (fun t ht => ?_) fun t ht => ?_) <;>
      obtain ⟨hmem, hk⟩ := List.mem_filter.mp ht
    · exact (h.page.parts t hmem).single_of_definition (by simpa using hk)
    · exact h.page.parts t hmem

/-- **No stage of a built-in plugin fails**, and every stage leaves a page. -/
theorem runStages_spec (e : Engine) {stages : List Stage}
    (hstages : ∀ stage ∈ stages, stage.run = Plugin.Terms.processor) : ∀ {ts : List Token}
    {s : Session}, IsPage ts s →
      ∃ ts' s', Pipeline.runStages e stages ts s = (.ok ts', s') ∧ IsPage ts' s' := by
  induction stages with
  | nil => exact fun h => ⟨_, _, rfl, h⟩
  | cons stage stages ih =>
    intro ts s h
    obtain ⟨ts', s', hrun, hpage⟩ := terms_processor_spec e h
    -- A page is balanced by kind and visibility, and the check looks at the kinds.
    have hbalance : checkBalance ts' = .ok () :=
      checkBalance_eq_ok_iff.mpr (balanced_of_shown hpage.page.balanced)
    have hstage : Pipeline.runStage e stage ts s = (.ok ts', s') := by
      rw [Pipeline.runStage, hstages stage List.mem_cons_self, hrun]
      dsimp only
      rw [hbalance]
    rw [Pipeline.runStages, hstage]
    exact ih (fun st hst => hstages st (List.mem_cons_of_mem stage hst)) hpage

/-- The only processor of built-in plugins is that for terms. -/
theorem Options.UsesBuiltins.stages {o : Options} (ho : o.UsesBuiltins) :
    ∀ stage ∈ o.pipeline.stages, stage.run = Plugin.Terms.processor := by
  intro stage hstage
  obtain ⟨p, hp, hstage⟩ := List.mem_filterMap.mp hstage
  rcases Plugin.mem_defaults.mp (ho.plugins p hp) with rfl | rfl | rfl
  · simp [Plugin.anchors] at hstage
  · simp only [Plugin.terms, Option.map_some, Option.some.injEq] at hstage
    subst hstage
    rfl
  · simp [Plugin.assets] at hstage

/-- A page without a policy is compiled to the HTML of its tokens and of those that were
deferred. -/
theorem finish_eq {p : Pipeline} (hp : p.sanitize = none) {ts ts' : List Token} {s s' : Session}
    (h : p.process ts s = (.ok ts', s')) :
    p.finish ts s
      = (.ok ⟨p.engine.render (ts' ++ s'.env.deferred) { s'.env with deferred := [] },
          s'.env.title, s'.env.headings, s'.env.metadata, s'.env.assets⟩,
        { s' with env := { s'.env with deferred := [] } }) := by
  unfold Pipeline.finish Pipeline.compile
  rw [h]
  dsimp only
  rw [hp]
  rfl

namespace Pipeline

/-- **The HTML of a document is well nested**, as long as raw HTML is escaped: every end tag
closes the innermost start tag of its name, and none is left open. -/
theorem wellNested_renderEvents (o : Options) (hhtml : o.allowHtml = false)
    (hhighlighter : o.highlighter = none) (hsanitize : o.sanitize = none) (ho : o.UsesBuiltins) :
    (∀ events, ProperlyNested events → ∃ page, (o.pipeline.renderEvents events).1 = .ok page ∧
      WellNested page.html) ∧
    ∀ input, ∃ page, (o.pipeline.render input).1 = .ok page ∧ WellNested page.html := by
  have hevents : ∀ events, ProperlyNested events →
      ∃ page, (o.pipeline.renderEvents events).1 = .ok page ∧ WellNested page.html := by
    intro events h
    obtain ⟨hpage, -, hdeferred⟩ := pipeline_parseEvents_spec ho h
    have hstart : IsPage (o.pipeline.parseEvents events).1 (o.pipeline.parseEvents events).2 :=
      ⟨hpage, by rw [hdeferred]; exact ⟨rfl, List.forall_mem_nil _⟩⟩
    obtain ⟨ts, s, hprocess, hend⟩ := runStages_spec o.engine ho.stages hstart
    have hfinish := finish_eq (p := o.pipeline) hsanitize hprocess
    refine ⟨_, congrArg Prod.fst hfinish, ?_⟩
    exact Renderer.wellNested_render (Options.isBuiltin_rendererIn ho hhtml hhighlighter _)
      (hend.page.append hend.deferred)
  exact ⟨hevents, fun input => hevents _ (Markdown.shaped_blockEvents _).properlyNested⟩

/-- The default options, and strong text in a paragraph. -/
theorem wellNested_renderEvents_strong : ∃ page, (({} : Options).pipeline.renderEvents
    (Markdown.within .paragraph (Markdown.within .strong [.text "a"] ++ []))).1 = .ok page ∧
      WellNested page.html := by
  have hstrong : Markdown.InlineOnly (Markdown.within .strong [.text "a"] ++ []) :=
    .span rfl (.leaf rfl .nil) .nil
  exact (wellNested_renderEvents {} rfl rfl rfl ⟨fun _ h => h, fun _ => rfl⟩).1 _
    (Markdown.Shaped.of_append_nil (.paragraph hstrong .nil)).properlyNested

end Pipeline

end Folio
