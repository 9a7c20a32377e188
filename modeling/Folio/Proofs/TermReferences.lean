import Folio.Proofs.ParsedTerms
import Folio.Proofs.TermElements

/-!
# References to terms and their definitions

What is reported of terms is told from the same tokens that the page is made of: the references
that have been marked in runs, and the definitions that have been made of paragraphs.  Definitions
outlive the title and wait for the end of the page, so a reference that is not reported finds its
definition there.

## Main definitions

* `undefinedReport` — the report of a term that is used but not defined.
* `Options.RefersToDefinitions` — what is reported of a document is what its page lacks.

## Main results

* `Plugin.Terms.undefinedReport_mem_revise` — what the plugin reports as undefined.
* `Pipeline.log_renderEvents` — nothing else of a run is reported.
* `Pipeline.refersToDefinitions_renderEvents` — **a reference is reported, or its definition stands
  on the page.**
* `Pipeline.lacksDefinition_render` — a highlighter, a policy and a way to find the title that make
  a page without it.
-/

namespace Folio

open Html (startTags)
open Markdown (Event ProperlyNested)
open Plugin.Terms (DefinesTerm extract markAll reportRepeated reportUndefined)

/-! ### Reports -/

/-- The report of a term that is used but not defined. -/
def undefinedReport (key : String) : LogEntry :=
  ⟨.warn, "terms", "term \x60" ++ key ++ "\x60 is used but not defined"⟩

/-- The report of a term that is defined once more. -/
def repeatedReport (key : String) : LogEntry :=
  ⟨.warn, "terms", "term \x60" ++ key ++ "\x60 is defined more than once"⟩

theorem undefinedReport_inj {key key' : String} (h : undefinedReport key = undefinedReport key') :
    key = key' := by
  have hmessage := congrArg (String.toList ∘ LogEntry.message) h
  simp only [Function.comp_apply, undefinedReport, String.toList_append] at hmessage
  exact String.toList_inj.mp (List.append_cancel_left (List.append_cancel_right hmessage))

/-- The two reports end in different words. -/
theorem undefinedReport_ne_repeatedReport (key key' : String) :
    undefinedReport key ≠ repeatedReport key' := by
  intro h
  have hmessage := congrArg (fun entry => entry.message.toList.getLast?) h
  have hundefined : "\x60 is used but not defined".toList.getLast? = some 'd' := by decide
  have hrepeated : "\x60 is defined more than once".toList.getLast? = some 'e' := by decide
  simp only [undefinedReport, repeatedReport, String.toList_append, List.getLast?_append,
    hundefined, hrepeated] at hmessage
  cases hmessage

namespace Plugin.Terms

theorem log_reportUndefined (defined keys : List String) : ∀ s : Session,
    (reportUndefined defined keys s).log
      = s.log ++ (keys.filter fun key => !defined.contains key).map undefinedReport := by
  induction keys with
  | nil => exact fun s => (List.append_nil s.log).symm
  | cons key keys ih =>
    intro s
    rw [reportUndefined, List.foldl_cons, ← reportUndefined, ih, List.filter_cons]
    cases defined.contains key with
    | true => rfl
    | false =>
      rw [if_neg Bool.false_ne_true, Bool.not_false, if_pos rfl, List.map_cons, Session.report,
        Log.add, List.append_assoc]
      rfl

theorem mem_log_reportRepeated {entry : LogEntry} (hentry : ∀ key, entry ≠ repeatedReport key)
    (keys : List String) : ∀ (seen : List String) (s : Session),
      entry ∈ (reportRepeated seen keys s).log ↔ entry ∈ s.log := by
  induction keys with
  | nil => exact fun _ _ => Iff.rfl
  | cons key keys ih =>
    intro seen s
    rw [reportRepeated]
    split
    · rw [ih, Session.report, Log.add, List.mem_append, List.mem_singleton]
      exact or_iff_left (hentry key)
    · exact ih _ s

/-- **What the plugin reports as undefined**: the references that have no definition. -/
theorem undefinedReport_mem_revise {ts : List Token} {s : Session} (key : String)
    (hs : s.log = []) : undefinedReport key ∈ (revise ts s).2.log ↔
      key ∈ (markAll (extract ts)).2 ∧ key ∉ revise.extractedKeys ts := by
  have hnone : undefinedReport key ∉ (reportRepeated [] (revise.extractedKeys ts) s).log := by
    rw [mem_log_reportRepeated (undefinedReport_ne_repeatedReport key), hs]
    exact List.not_mem_nil
  have hrevise : (revise ts s).2 = reportUndefined (revise.extractedKeys ts)
      (markAll (extract ts)).2 (reportRepeated [] (revise.extractedKeys ts) s) := rfl
  rw [hrevise, log_reportUndefined, List.mem_append, or_iff_right hnone, List.mem_map]
  constructor
  · rintro ⟨key', hkey', heq⟩
    obtain rfl := undefinedReport_inj heq
    simpa using hkey'
  · exact fun hkey => ⟨key, by simpa using hkey, rfl⟩

end Plugin.Terms

namespace Pipeline

/-- The stages of built-in plugins report nothing. -/
theorem log_runStages (e : Engine) {stages : List Stage}
    (hstages : ∀ stage ∈ stages, stage.run = Plugin.Terms.processor) :
    ∀ (ts : List Token) (s : Session), (runStages e stages ts s).2.log = s.log := by
  induction stages with
  | nil => exact fun _ _ => rfl
  | cons stage stages ih =>
    intro ts s
    have hlog : (runStage e stage ts s).2.log = s.log := by
      rw [runStage, hstages stage List.mem_cons_self]
      unfold Plugin.Terms.processor
      dsimp only
      split <;> rfl
    rw [runStages]
    split
    · next ts' s' hrun =>
      rw [ih fun stage' hstage' => hstages stage' (List.mem_cons_of_mem stage hstage'), ← hlog,
        hrun]
    · next e' s' hrun => rw [← hlog, hrun]

theorem log_finish {p : Pipeline} (hstages : ∀ stage ∈ p.stages, stage.run = Plugin.Terms.processor)
    (ts : List Token) (s : Session) : (p.finish ts s).2.log = s.log := by
  have hprocess : (p.process ts s).2.log = s.log := log_runStages p.engine hstages ts s
  have hcompile : ∀ ts s, (p.compile ts s).2.log = s.log := fun _ _ => rfl
  unfold finish
  split
  · next e s' hrun => rw [← hprocess, hrun]
  · next ts' s' hrun =>
    rw [hrun] at hprocess
    split
    · next e s'' hcompiled => rw [← hprocess, ← hcompile ts' s', hcompiled]
    · next html s'' hcompiled => rw [← hprocess, ← hcompile ts' s', hcompiled]

theorem log_parseEvents (p : Pipeline) (events : List Event) :
    (p.parseEvents events).2.log = (p.engine.parseEvents events {}).2.log := by
  unfold parseEvents
  dsimp only
  split <;> split <;> rfl

end Pipeline

section Log

variable {o : Options} (ho : o.plugins = Plugin.defaults)

include ho

/-- **Nothing else of a run is reported**, whatever the title is taken to be. -/
theorem Pipeline.log_renderEvents (events : List Event) :
    (o.pipeline.renderEvents events).2.log = (o.engine.parseEvents events {}).2.log := by
  -- The stages do not ask how the title is found.
  have hbuiltins : ({ o with extractTitle := false } : Options).UsesBuiltins :=
    ⟨fun p hp => ho ▸ hp, nofun⟩
  have hstages : ∀ stage ∈ o.pipeline.stages, stage.run = Plugin.Terms.processor := hbuiltins.stages
  exact (Pipeline.log_finish hstages _ _).trans (Pipeline.log_parseEvents _ _)

/-- The reports of a document name the references that have no definition. -/
theorem Options.undefinedReport_mem_log {events : List Event} (h : ProperlyNested events)
    (key : String) : undefinedReport key ∈ (o.pipeline.renderEvents events).2.log ↔
      (∃ t ∈ (o.engine.parseEvents events {}).1, t.kind = .inline ∧
        ∃ c ∈ t.children, c.openedKey? = some (some key)) ∧
      ¬DefinesTerm (o.anchored events) key := by
  rw [Pipeline.log_renderEvents ho, log_engine_parseEvents_defaults ho,
    Plugin.Terms.undefinedReport_mem_revise key rfl, Options.exists_openedKey?_parsed ho h,
    Plugin.Terms.mem_extractedKeys (pageContent_anchored o h).parts (o.isBlock_anchored events)]
  simp

end Log

/-! ### Definitions on the page -/

/-- Every term that the page refers to has a definition on it, unless it is reported. -/
def Rendered.DescribesReferences (page : Rendered) (log : Log) : Prop :=
  ∀ tag ∈ startTags page.html, tag.name = "i" →
    ∀ key, tag.attr? "aria-describedby" = some ("term-" ++ key) → undefinedReport key ∉ log →
      ∃ dfn ∈ startTags page.html, dfn.name = "dfn" ∧ dfn.attr? "id" = some ("term-" ++ key)

/-- The reports of a document name the terms that its runs refer to and no paragraph of it defines,
and all other terms that its page refers to have their definitions on it. -/
structure Options.RefersToDefinitions (o : Options) (events : List Event) : Prop where
  /-- The terms that are reported are referred to and not defined. -/
  reported : ∀ key, undefinedReport key ∈ (o.pipeline.renderEvents events).2.log ↔
    (∃ t ∈ (o.engine.parseEvents events {}).1, t.kind = .inline ∧
      ∃ c ∈ t.children, c.openedKey? = some (some key)) ∧
    ¬DefinesTerm (o.anchored events) key
  /-- On the page, as it is before it is cleaned, all others have a definition. -/
  described : o.allowHtml = false → (o.extractTitle = true → o.titleStrategy = Folio.extractTitle) →
    WritesNo "i" o.highlighter → ∃ page,
      (o.unsanitized.pipeline.renderEvents events).1 = .ok page ∧
      (o.pipeline.renderEvents events).1 = o.sanitized page ∧
      page.DescribesReferences (o.pipeline.renderEvents events).2.log

section Page

variable {o : Options} {events : List Event} (ho : o.plugins = Plugin.defaults)
  (htitle : o.extractTitle = true → o.titleStrategy = Folio.extractTitle)
  (h : ProperlyNested events)

/-- What a reference says is read off the page. -/
theorem attr?_reference (key : String) :
    (Html.written "i" (Html.attributes (referenceAttributes key))).attr? "aria-describedby"
      = some ("term-" ++ key) := by
  have hnames : ∀ n ∈ ["class", "data-term", "aria-describedby"], Html.IsAttributeName n := by
    decide
  have hlegible : ∀ n ∈ (referenceAttributes key).map Prod.fst, Html.IsAttributeName n := hnames
  rw [Html.attr?_written "i" (List.forall_mem_map.mp hlegible) (by decide)]
  rfl

/-- What a definition says is read off the page. -/
theorem attr?_definition (key : String) :
    (Html.written "dfn" (Html.attributes (definitionAttributes key))).attr? "id"
      = some ("term-" ++ key) := by
  have hnames : ∀ n ∈ ["class", "id"], Html.IsAttributeName n := by decide
  have hlegible : ∀ n ∈ (definitionAttributes key).map Prod.fst, Html.IsAttributeName n := hnames
  rw [Html.attr?_written "dfn" (List.forall_mem_map.mp hlegible) (by decide)]
  rfl

include ho htitle h

/-- A term that an element refers to is referred to in a run. -/
theorem Options.exists_openedKey?_of_tag (hhtml : o.allowHtml = false)
    (hhighlighter : WritesNo "i" o.highlighter) {env : Environment} {tag : Html.StartTag}
    (htag : tag ∈ startTags (o.pageOf (o.pipeline.parseEvents events).1 env).html)
    (hname : tag.name = "i") {key : String}
    (hkey : tag.attr? "aria-describedby" = some ("term-" ++ key)) :
    ∃ t ∈ (o.engine.parseEvents events {}).1, t.kind = .inline ∧
      ∃ c ∈ t.children, c.openedKey? = some (some key) := by
  have hbuiltins := Options.usesBuiltins_of_defaults ho htitle
  obtain ⟨hpage, -, -⟩ := pipeline_parseEvents_spec hbuiltins h
  have hkept := Options.keepsTokens hbuiltins h
  have hmem : tag.name ∈ tracedElements := by rw [hname]; decide
  rcases Options.element_of_mem_startTags hhtml hbuiltins hpage htag hmem
    (hname.symm ▸ hhighlighter) with ⟨t, ht, c, hc, pairs, hbecomes, htag⟩ | ⟨t, -, -, rfl⟩
  · rw [hname] at hbecomes htag
    obtain ⟨hk, hn, rfl⟩ := Token.becomes_i_iff.mp hbecomes
    have ht' := hkept.sublist.subset ht
    have hopened : c.openedKey? = some (c.attr? "key") := if_pos ⟨hk, hn⟩
    have hinline : t.kind = .inline := by
      by_contra hne
      rw [Options.openedKey?_of_ne_inline ho ht' hne c hc] at hopened
      cases hopened
    obtain ⟨k, hattr, -⟩ := (Options.exists_openedKey?_parsed ho h (c.attr? "key")).mp
      ⟨t, ht', hinline, c, hc, hopened⟩
    have hterm : c.termKey = k := by rw [Token.termKey, hattr, Option.getD_some]
    rw [htag, attr?_reference, hterm, Option.some.injEq] at hkey
    obtain rfl : k = key := String.toList_inj.mp (List.append_cancel_left (by
      simpa only [String.toList_append] using congrArg String.toList hkey))
    exact ⟨t, ht', hinline, c, hc, hattr ▸ hopened⟩
  · rw [Html.name_written] at hname
    exact absurd hname (by decide)

/-- A term that a paragraph defines has a definition on the page. -/
theorem Options.exists_dfn_of_definesTerm (hhtml : o.allowHtml = false)
    (hhighlighter : WritesNo "i" o.highlighter) {env : Environment} {key : String}
    (hkey : DefinesTerm (o.anchored events) key) :
    ∃ dfn ∈ startTags (o.pageOf (o.pipeline.parseEvents events).1 env).html, dfn.name = "dfn" ∧
      dfn.attr? "id" = some ("term-" ++ key) := by
  have hbuiltins := Options.usesBuiltins_of_defaults ho htitle
  obtain ⟨d, hd, hk, hattr⟩ := (Options.definesTerm_iff ho h key).mpr hkey
  have hd' := (Options.keepsTokens hbuiltins h).definitions d hd hk
  have hpiece := Renderer.startTag_definition_mem (Options.lookup_definition ho) hk
  have hterm : d.termKey = key := by rw [Token.termKey, hattr, Option.getD_some]
  refine ⟨_, Options.written_mem_startTags_pageOf hhtml hbuiltins hhighlighter hd'
    (isTagName_of_mem_elementNames (by decide)) hpiece, rfl, ?_⟩
  rw [attr?_definition, hterm]

end Page

namespace Pipeline

/-- **A reference is reported, or its definition stands on the page.** -/
theorem refersToDefinitions_renderEvents (o : Options) (ho : o.plugins = Plugin.defaults) :
    (∀ events, ProperlyNested events → o.RefersToDefinitions events) ∧
      ∀ input, o.RefersToDefinitions (Engine.readEvents input) := by
  have hevents : ∀ events, ProperlyNested events → o.RefersToDefinitions events := by
    intro events h
    have hreported := fun key => Options.undefinedReport_mem_log ho h key
    refine ⟨hreported, fun hhtml htitle hhighlighter => ?_⟩
    have hbuiltins := Options.usesBuiltins_of_defaults ho htitle
    obtain ⟨hpage, -, hdeferred⟩ := pipeline_parseEvents_spec hbuiltins h
    obtain ⟨hcompiled, hsanitized⟩ := Options.renderEvents_eq_pageOf hbuiltins hpage hdeferred
    refine ⟨_, hcompiled, hsanitized, fun tag htag hname key hkey hnot => ?_⟩
    have hopened :=
      Options.exists_openedKey?_of_tag ho htitle h hhtml hhighlighter htag hname hkey
    -- The term is not reported, so it is defined.
    have hdefined : DefinesTerm (o.anchored events) key := by
      by_contra hundefined
      exact hnot ((hreported key).mpr ⟨hopened, hundefined⟩)
    exact Options.exists_dfn_of_definesTerm ho htitle h hhtml hhighlighter hdefined
  exact ⟨hevents, fun input => hevents _ (Markdown.shaped_blockEvents _).properlyNested⟩

/-- Two references, of which one is defined. -/
theorem refersToDefinitions_render_two :
    ({} : Options).RefersToDefinitions (Engine.readEvents "[a](*k) [b](*l)\n\n[*k]: x y") ∧
    (({} : Options).pipeline.render "[a](*k) [b](*l)\n\n[*k]: x y").2.log = [undefinedReport "l"] :=
  ⟨(refersToDefinitions_renderEvents {} rfl).2 _, by decide +kernel⟩

/-- The document has a page that refers to a term that is neither defined there nor reported. -/
def LacksDefinition (o : Options) (input : String) : Prop :=
  ∃ page, (o.pipeline.render input).1 = .ok page ∧
    ¬page.DescribesReferences (o.pipeline.render input).2.log

/-- It is enough to look at the elements of the page. -/
theorem lacksDefinition_of_elements {o : Options} {input : String} (key : String)
    (h : undefinedReport key ∉ (o.pipeline.render input).2.log ∧
      (o.pipeline.render input).1.toOption.map (fun page =>
        (startTags page.html).any (fun tag =>
          tag.name == "i" && tag.attr? "aria-describedby" == some ("term-" ++ key)) &&
        (startTags page.html).all fun tag => tag.attr? "id" != some ("term-" ++ key))
      = some true) :
    LacksDefinition o input := by
  obtain ⟨hlog, htags⟩ := h
  cases hrender : (o.pipeline.render input).1 with
  | error e =>
    rw [hrender] at htags
    cases htags
  | ok page =>
    rw [hrender] at htags
    have htags := Option.some.inj htags
    simp only [Bool.and_eq_true, List.any_eq_true, List.all_eq_true, beq_iff_eq, bne_iff_ne]
      at htags
    obtain ⟨⟨tag, htag, hname, hkey⟩, hids⟩ := htags
    refine ⟨page, hrender, fun h => ?_⟩
    obtain ⟨dfn, hdfn, -, hid⟩ := h tag htag hname key hkey hlog
    exact hids dfn hdfn hid

/-- What a highlighter writes is not escaped, a policy may take definitions out and leave what
refers to them, and a title may be found in such a way that a definition is lost with it. -/
theorem lacksDefinition_render :
    LacksDefinition { highlighter := some (constantHighlighter
      "<i aria-describedby=\"term-k\"></i>") } "```a\nx\n```" ∧
    LacksDefinition { sanitize := some {
      removeTags := ["dfn"]
      addGenericAttributes := ["aria-describedby"] } } "[a](*k)\n\n[*k]: x y" ∧
    LacksDefinition { extractTitle := true, titleStrategy := fun tokens =>
      { title := "t", tokens := tokens.drop 1 } } "[*k]: x y\n\n[a](*k)" := by
  refine ⟨lacksDefinition_of_elements "k" ?_, lacksDefinition_of_elements "k" ?_,
    lacksDefinition_of_elements "k" ?_⟩
  all_goals decide +kernel

end Pipeline

end Folio
