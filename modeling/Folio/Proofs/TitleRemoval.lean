import Folio.Proofs.HeadingPass
import Folio.Proofs.Outlines
import Folio.Proofs.RenderRules

/-!
# Taking out the title

A document is rendered twice, with its title taken out and with its title left in.  The title is
taken out when the rules have been run, so both runs see the same tokens up to there; what is taken
out is one heading, and blocks are rendered one by one.  So the pages differ by that heading.

## Main definitions

* `isDeferredBy` — the tokens that the stages of the built-in plugins put at the end of the page.
* `Options.pageOf` — the page of a document that has been parsed.
* `Options.sanitized` — what becomes of a page that has been compiled.
* `LacksHeading` — two pages differ by one heading of level one.
* `DiffersByTitle` — two pages differ by the title of a document, if it has one.

## Main results

* `Options.finish_eq_pageOf` — **what a page of the built-in plugins is rendered from.**
* `Pipeline.renderEvents_extractTitle` — **taking out the title takes out one heading.**
-/

namespace Folio

open Markdown (Event ProperlyNested)
open Plugin.Terms (definitionKind)

/-! ### Processing -/

/-- The stages of built-in plugins defer the token: it defines a term, and there is a stage that
takes such tokens out. -/
def isDeferredBy (stages : List Stage) (t : Token) : Bool :=
  !stages.isEmpty && t.kind == definitionKind

theorem isDeferredBy_of_ne {t : Token} (ht : t.kind ≠ definitionKind) (stages : List Stage) :
    isDeferredBy stages t = false := by
  simp [isDeferredBy, ht]

/-- The first stage takes out all definitions, and leaves none to those behind it. -/
theorem runStages_terms (e : Engine) {stages : List Stage}
    (hstages : ∀ stage ∈ stages, stage.run = Plugin.Terms.processor) : ∀ {ts : List Token}
    {s : Session}, PageContent ts → Pipeline.runStages e stages ts s
      = (.ok (ts.filter fun t => !isDeferredBy stages t),
        s.mapEnv fun env => env.defer (ts.filter (isDeferredBy stages))) := by
  induction stages with
  | nil =>
    intro ts s _
    have hnone : isDeferredBy [] = fun _ => false := rfl
    rw [Pipeline.runStages, hnone]
    simp [Session.mapEnv, Environment.defer]
  | cons stage stages ih =>
    intro ts s h
    have hdefers : isDeferredBy (stage :: stages) = fun t => t.kind == definitionKind := rfl
    have hrest : PageContent (ts.filter fun t => !(t.kind == definitionKind)) :=
      h.filter fun t ht hp => (h.parts t ht).single_of_definition (by simpa using hp)
    have hbalance : checkBalance (ts.filter fun t => !(t.kind == definitionKind)) = .ok () :=
      checkBalance_eq_ok_iff.mpr (balanced_of_shown hrest.balanced)
    have hstage : Pipeline.runStage e stage ts s
        = (.ok (ts.filter fun t => !(t.kind == definitionKind)),
          s.mapEnv fun env => env.defer (ts.filter fun t => t.kind == definitionKind)) := by
      rw [Pipeline.runStage, hstages stage List.mem_cons_self, terms_processor_eq]
      dsimp only
      rw [hbalance]
    have hnone : ∀ t ∈ ts.filter fun t => !(t.kind == definitionKind),
        isDeferredBy stages t = false := by
      intro t ht
      exact isDeferredBy_of_ne (by simpa using (List.mem_filter.mp ht).2) stages
    have hkept : (ts.filter fun t => !(t.kind == definitionKind)).filter
        (fun t => !isDeferredBy stages t) = ts.filter fun t => !(t.kind == definitionKind) :=
      List.filter_eq_self.mpr fun t ht => by rw [hnone t ht]; rfl
    have hdeferred : (ts.filter fun t => !(t.kind == definitionKind)).filter
        (isDeferredBy stages) = [] :=
      List.filter_eq_nil_iff.mpr fun t ht => by rw [hnone t ht]; exact Bool.false_ne_true
    rw [Pipeline.runStages, hstage]
    dsimp only
    rw [ih (fun st hst => hstages st (List.mem_cons_of_mem stage hst)) hrest, hkept, hdeferred,
      hdefers]
    simp [Session.mapEnv, Environment.defer]

/-- The page of a document that has been parsed: the definitions of terms are rendered behind all
other tokens. -/
def Options.pageOf (o : Options) (ts : List Token) (env : Environment) : Rendered where
  html := o.engine.render (ts.filter fun t => !isDeferredBy o.pipeline.stages t)
    ++ o.engine.render (ts.filter (isDeferredBy o.pipeline.stages))
  title := env.title
  headings := env.headings
  metadata := env.metadata
  assets := env.assets

/-- **What a page of the built-in plugins is rendered from.** -/
theorem Options.finish_eq_pageOf {o : Options} (ho : o.UsesBuiltins) (hsanitize : o.sanitize = none)
    {ts : List Token} {s : Session} (hts : PageContent ts) (hs : s.env.deferred = []) :
    o.pipeline.finish ts s = (.ok (o.pageOf ts s.env), s) := by
  have hprocess : o.pipeline.process ts s
      = (.ok (ts.filter fun t => !isDeferredBy o.pipeline.stages t),
        s.mapEnv fun env => env.defer (ts.filter (isDeferredBy o.pipeline.stages))) :=
    runStages_terms o.engine ho.stages hts
  have hrender := o.render_env ho
  rw [finish_eq (p := o.pipeline) hsanitize hprocess]
  obtain ⟨env, log⟩ := s
  dsimp only at hs
  have henv : { env with deferred := [] } = env := by rw [← hs]
  have hrenderer : o.pipeline.engine = o.engine := rfl
  simp only [Session.mapEnv, Environment.defer, hs, List.nil_append, henv, hrenderer, hrender,
    Engine.render_append]
  rfl

/-- What becomes of a page that has been compiled: it is cleaned if the options say so. -/
def Options.sanitized (o : Options) (page : Rendered) : Except RunError Rendered :=
  match o.sanitize with
  | some options =>
    ((Folio.sanitize options page.html o.cleaner).mapError RunError.policy).map fun html =>
      { page with html }
  | none => .ok page

/-- The options without a policy. -/
def Options.unsanitized (o : Options) : Options := { o with sanitize := none }

theorem Pipeline.fst_finish_of_process {p : Pipeline} {ts ts' : List Token} {s s' : Session}
    (h : p.process ts s = (.ok ts', s')) :
    (p.finish ts s).1 = (p.compile ts' s').1.map fun html =>
      ⟨html, s'.env.title, s'.env.headings, s'.env.metadata, s'.env.assets⟩ := by
  have hcompile : p.compile ts' s'
      = ((p.compile ts' s').1, { s' with env := { s'.env with deferred := [] } }) := rfl
  rw [Pipeline.finish, h]
  dsimp only
  rw [hcompile]
  cases (p.compile ts' s').1 <;> rfl

/-- A page is cleaned after everything else. -/
theorem Options.fst_finish_eq_sanitized {o : Options} {ts : List Token} {s : Session}
    {page : Rendered} (h : (o.unsanitized.pipeline.finish ts s).1 = .ok page) :
    (o.pipeline.finish ts s).1 = o.sanitized page := by
  cases hprocess : o.pipeline.process ts s with
  | mk result s' =>
  have hprocess' : o.unsanitized.pipeline.process ts s = (result, s') := hprocess
  cases result with
  | error e =>
    rw [Pipeline.finish, hprocess'] at h
    cases h
  | ok ts' =>
    rw [Pipeline.fst_finish_of_process hprocess'] at h
    obtain rfl := Except.ok.inj h
    rw [Pipeline.fst_finish_of_process hprocess]
    have hsanitize : o.pipeline.sanitize = o.sanitize := rfl
    unfold Pipeline.compile Options.sanitized
    rw [hsanitize]
    cases o.sanitize <;> rfl

/-- What the built-in plugins make of a page is compiled, and cleaned if the options say so. -/
theorem Options.renderEvents_eq_pageOf {o : Options} (ho : o.UsesBuiltins) {events : List Event}
    (hpage : PageContent (o.pipeline.parseEvents events).1)
    (hdeferred : (o.pipeline.parseEvents events).2.env.deferred = []) :
    let page := o.pageOf (o.pipeline.parseEvents events).1 (o.pipeline.parseEvents events).2.env
    (o.unsanitized.pipeline.renderEvents events).1 = .ok page ∧
      (o.pipeline.renderEvents events).1 = o.sanitized page := by
  have hbuiltins : o.unsanitized.UsesBuiltins := ⟨ho.plugins, ho.title⟩
  have hfinish : (o.unsanitized.pipeline.finish (o.pipeline.parseEvents events).1
      (o.pipeline.parseEvents events).2).1 = .ok (o.pageOf (o.pipeline.parseEvents events).1
        (o.pipeline.parseEvents events).2.env) :=
    congrArg Prod.fst (Options.finish_eq_pageOf hbuiltins rfl hpage hdeferred)
  exact ⟨hfinish, Options.fst_finish_eq_sanitized hfinish⟩

/-! ### Parsing with and without the title -/

section Parsing

variable {o : Options} {events : List Event} {ts : List Token} {s : Session}

theorem parseEvents_keepTitle (hneed : o.needTitle = false)
    (hparse : o.engine.parseEvents events {} = (ts, s)) :
    ({ o with extractTitle := false } : Options).pipeline.parseEvents events
      = (ts, s.mapEnv fun env => { env with headings := outline o.flatHeadings ts }) := by
  have hengine : ({ o with extractTitle := false } : Options).pipeline.engine.parseEvents events
      ({} : Session).beginRun = (ts, s) := hparse
  have hneed' : ({ o with extractTitle := false } : Options).pipeline.needTitle = false := hneed
  unfold Pipeline.parseEvents
  rw [hengine, hneed']
  rfl

theorem parseEvents_takeTitle (htitle : o.titleStrategy = Folio.extractTitle)
    (hneed : o.needTitle = false) (hparse : o.engine.parseEvents events {} = (ts, s)) :
    ({ o with extractTitle := true } : Options).pipeline.parseEvents events
      = ((extractTitle ts).tokens, s.mapEnv fun env =>
          { env with
            title := o.pipeline.shownTitle (extractTitle ts) env
            headings := outline o.flatHeadings (extractTitle ts).tokens }) := by
  have hengine : ({ o with extractTitle := true } : Options).pipeline.engine.parseEvents events
      ({} : Session).beginRun = (ts, s) := hparse
  have htitle' : ({ o with extractTitle := true } : Options).pipeline.titleStrategy
      = Folio.extractTitle := htitle
  have hneed' : ({ o with extractTitle := true } : Options).pipeline.needTitle = false := hneed
  unfold Pipeline.parseEvents
  rw [hengine, hneed', htitle']
  rfl

end Parsing

/-! ### The title -/

/-- The HTML of a heading of level one. -/
def titleHtml (e : Engine) (heading run : Token) : String :=
  "<h1" ++ String.join ((Html.attributes heading.attrs).map Html.Attribute.write) ++ ">"
    ++ e.renderInline run.children ++ "</h1>"

theorem HeadingParts.render {o run c : Token} (h : HeadingParts o run c) (ho : o.kind = .heading 1)
    (e : Engine) : e.render [o, run, c] = titleHtml e o run := by
  have hstart : (e.rendererIn {}).blockPiece o = [.startTag "h1" (Html.attributes o.attrs)] := by
    rw [Renderer.blockPiece_heading _ ho, h.visible, Token.isOpening, h.opening]
    rfl
  have hrun : (e.rendererIn {}).blockPiece run = (e.rendererIn {}).inlines run.children := by
    rw [Renderer.blockPiece, h.inline]
    rfl
  have hend : (e.rendererIn {}).blockPiece c = [.endTag "h1"] := by
    rw [Renderer.blockPiece_heading _ (h.closed.trans ho), h.closed_visible, Token.isOpening,
      h.closing]
    rfl
  rw [Engine.render, Renderer.render, Renderer.blocks_eq_flatMap]
  simp only [List.flatMap_cons, List.flatMap_nil, hstart, hrun, hend, Html.writeAll_append,
    List.append_nil]
  rw [titleHtml, Engine.renderInline, Renderer.renderInline]
  simp [Html.writeAll, Html.Markup.write, String.append_assoc]

/-- Two pages differ by a heading of level one: its HTML stands in the one and not in the other,
and so does its entry in the outline. -/
structure LacksHeading (e : Engine) (kept taken : Rendered) (heading run : Token) : Prop where
  html : ∃ before after, taken.html = before ++ after ∧
    kept.html = before ++ titleHtml e heading run ++ after
  headings : ∃ before after, Heading.preorder taken.headings = before ++ after ∧
    Heading.preorder kept.headings = before
      ++ (1, run.content, (heading.attr? "id").getD (slugify run.content)) :: after

/-- Two pages differ by the title of a document, which is its first heading of level one outside
of all blocks.  If there is none they do not differ, and no title has been found. -/
structure DiffersByTitle (e : Engine) (tokens : List Token) (kept taken : Rendered) : Prop where
  title : ∀ heading, tokens.find? Token.beginsTitle = some heading →
    ∃ run, [heading, run] <:+: tokens ∧ LacksHeading e kept taken heading run
  noTitle : tokens.find? Token.beginsTitle = none →
    taken.html = kept.html ∧ taken.headings = kept.headings ∧ taken.title = ""
  metadata : taken.metadata = kept.metadata
  assets : taken.assets = kept.assets

/-- A choice among tokens that takes no part of a heading apart. -/
theorem HeadingParts.filter {o run c : Token} (h : HeadingParts o run c) {p : Token → Bool}
    {b : Bool} (hp : ∀ t : Token, t.kind ≠ definitionKind → p t = b) (pre rest : List Token) :
    (pre ++ o :: run :: c :: rest).filter p
      = pre.filter p ++ (if b then [o, run, c] else []) ++ rest.filter p := by
  obtain ⟨n, hn⟩ := h.exists_kind
  have ho := hp o (by simp [hn, definitionKind])
  have hrun := hp run (by simp [h.inline, definitionKind])
  have hc := hp c (by simp [h.closed, hn, definitionKind])
  cases b <;> simp [ho, hrun, hc]

/-- A page without the title of its document lacks one heading. -/
theorem Headed.lacksHeading {P : Token → Prop} {ts : List Token} (h : Headed P ts) {heading : Token}
    (hfind : ts.find? Token.beginsTitle = some heading) (o : Options) {flat : Bool}
    {env env' : Environment} (henv : env.headings = outline flat ts)
    (henv' : env'.headings = outline flat (extractTitle ts).tokens) :
    ∃ run, [heading, run] <:+: ts ∧ LacksHeading o.engine (o.pageOf ts env)
      (o.pageOf (extractTitle ts).tokens env') heading run := by
  obtain ⟨pre, run, c, rest, rfl, hkind, hparts, hpre, -, htaken⟩ := h.extractTitle_eq hfind
  have hdeferred : ∀ t : Token, t.kind ≠ definitionKind →
      isDeferredBy o.pipeline.stages t = false := fun t ht => isDeferredBy_of_ne ht _
  have hkept : ∀ t : Token, t.kind ≠ definitionKind →
      (!isDeferredBy o.pipeline.stages t) = true := fun t ht => by rw [hdeferred t ht]; rfl
  rw [htaken] at henv' ⊢
  have hpage : (o.pageOf (pre ++ rest) env').html
      = o.engine.render (pre.filter fun t => !isDeferredBy o.pipeline.stages t)
        ++ (o.engine.render (rest.filter fun t => !isDeferredBy o.pipeline.stages t)
          ++ o.engine.render ((pre ++ rest).filter (isDeferredBy o.pipeline.stages))) := by
    rw [Options.pageOf, List.filter_append, Engine.render_append, String.append_assoc]
  refine ⟨run, ⟨pre, c :: rest, by simp⟩, ⟨_, _, hpage, ?_⟩, ?_⟩
  · rw [Options.pageOf, hparts.filter hkept, hparts.filter hdeferred]
    simp only [if_true, Bool.false_eq_true, if_false, List.append_nil, Engine.render_append,
      hparts.render hkind, List.filter_append, String.append_assoc]
  · refine ⟨Heading.preorder (flatOutline pre), Heading.preorder (flatOutline rest), ?_, ?_⟩
    · rw [Options.pageOf, henv', preorder_outline, hpre.flatOutline_append, Heading.preorder_append]
    · rw [Options.pageOf, henv, preorder_outline, hpre.flatOutline_append,
        hparts.flatOutline hkind, Heading.preorder_append, Heading.preorder_cons,
        Heading.entries_mk, Heading.preorder_nil]
      rfl

/-- Two runs differ by the title of the document: their pages do, and they leave the same log. -/
def RunsDifferByTitle (e : Engine) (tokens : List Token)
    (kept taken : Except RunError Rendered × Session) : Prop :=
  ∃ page page', kept.1 = .ok page ∧ taken.1 = .ok page' ∧ DiffersByTitle e tokens page page' ∧
    taken.2.log = kept.2.log

namespace Pipeline

/-- **Taking out the title takes out one heading** of the page and of its outline, and changes
nothing else. -/
theorem renderEvents_extractTitle (o : Options) (hplugins : ∀ p ∈ o.plugins, p ∈ Plugin.defaults)
    (htitle : o.titleStrategy = Folio.extractTitle) (hneed : o.needTitle = false)
    (hsanitize : o.sanitize = none) :
    (∀ events, ProperlyNested events → RunsDifferByTitle o.engine
      (({ o with extractTitle := false } : Options).pipeline.parseEvents events).1
      (({ o with extractTitle := false } : Options).pipeline.renderEvents events)
      (({ o with extractTitle := true } : Options).pipeline.renderEvents events)) ∧
    ∀ input, RunsDifferByTitle o.engine
      (({ o with extractTitle := false } : Options).pipeline.parse input).1
      (({ o with extractTitle := false } : Options).pipeline.render input)
      (({ o with extractTitle := true } : Options).pipeline.render input) := by
  have hevents : ∀ events, ProperlyNested events → RunsDifferByTitle o.engine
      (({ o with extractTitle := false } : Options).pipeline.parseEvents events).1
      (({ o with extractTitle := false } : Options).pipeline.renderEvents events)
      (({ o with extractTitle := true } : Options).pipeline.renderEvents events) := by
    intro events h
    have ho : ∀ extract : Bool, ({ o with extractTitle := extract } : Options).UsesBuiltins :=
      fun _ => ⟨hplugins, fun _ => htitle⟩
    have hheaded := headed_engine_parseEvents hplugins
      (P := fun _ => True) ⟨fun _ _ => trivial, fun _ _ => id, fun _ _ => id, fun _ _ => id⟩ h
    obtain ⟨hpage, -, hdeferred⟩ := pipeline_parseEvents_spec (ho false) h
    obtain ⟨hpage', -, hdeferred'⟩ := pipeline_parseEvents_spec (ho true) h
    have hfinish := Options.finish_eq_pageOf (ho false) hsanitize hpage hdeferred
    have hfinish' := Options.finish_eq_pageOf (ho true) hsanitize hpage' hdeferred'
    have hrender : ∀ p : Pipeline, p.renderEvents events
        = p.finish (p.parseEvents events).1 (p.parseEvents events).2 := fun _ => rfl
    cases hparse : o.engine.parseEvents events {} with
    | mk ts s =>
    rw [hparse] at hheaded
    -- Both runs have the same tokens up to the search for the title.
    rw [RunsDifferByTitle, hrender, hrender, hfinish, hfinish', parseEvents_keepTitle hneed hparse,
      parseEvents_takeTitle htitle hneed hparse]
    refine ⟨_, _, rfl, rfl, ⟨fun heading hfind => ?_, fun hnone => ?_, rfl, rfl⟩, rfl⟩
    · exact hheaded.lacksHeading hfind o rfl rfl
    · rw [extractTitle_of_none hnone]
      exact ⟨rfl, rfl, rfl⟩
  exact ⟨hevents, fun input => hevents _ (Markdown.shaped_blockEvents _).properlyNested⟩

/-- The default options, and a document that is its title and a paragraph. -/
theorem renderEvents_extractTitle_heading :
    RunsDifferByTitle ({} : Options).engine
      (({} : Options).pipeline.parseEvents (Markdown.within (.heading 1) [.text "a"]
        ++ (Markdown.within .paragraph [.text "b"] ++ []))).1
      (({} : Options).pipeline.renderEvents (Markdown.within (.heading 1) [.text "a"]
        ++ (Markdown.within .paragraph [.text "b"] ++ [])))
      (({ extractTitle := true } : Options).pipeline.renderEvents
        (Markdown.within (.heading 1) [.text "a"]
          ++ (Markdown.within .paragraph [.text "b"] ++ []))) ∧
    ((({} : Options).pipeline.parseEvents (Markdown.within (.heading 1) [.text "a"]
        ++ (Markdown.within .paragraph [.text "b"] ++ []))).1.find?
      Token.beginsTitle).isSome = true := by
  have hnested : ProperlyNested (Markdown.within (.heading 1) [.text "a"]
      ++ (Markdown.within .paragraph [.text "b"] ++ [])) :=
    .inlines rfl (.singleton rfl) (.inlines rfl (.singleton rfl) .nil)
  refine ⟨(renderEvents_extractTitle {} (fun _ h => h) rfl rfl rfl).1 _ hnested, ?_⟩
  decide +kernel

end Pipeline

end Folio
