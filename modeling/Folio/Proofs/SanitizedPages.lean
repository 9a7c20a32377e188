import Folio.Proofs.CleanedPages
import Folio.Proofs.RawTags
import Folio.Proofs.RunElements

/-!
# Sanitized pages and their titles

HTML leaves a pipeline in two places.  The page is compiled at the end, and it is the page that goes
through the cleaner: whatever the cleaner writes is the HTML of the document, so an element that
begins there is one that the policy keeps, if the cleaner is worth its name.  The title is written
when the document is parsed, and neither policy nor cleaner is asked.

So a document has the title that it would have without a policy.  If the title has markup, its
elements are those of its tokens: raw HTML where that is allowed, and otherwise the few elements
that inline tokens become.  An element that the policy removes stands in the title exactly if one
of the tokens begins it.

## Main definitions

* `Options.titleTokens` — the tokens of the title of a document.
* `Options.SanitizesPage` — what a policy does to a document, and what it does not.

## Main results

* `Options.title_parseEvents` — a title with markup is what its tokens are rendered to.
* `Options.hasElement_title_iff` — its elements are those of its tokens.
* `Pipeline.sanitizesPage_renderEvents` — **a sanitized document has a clean page, and the title
  that it has without a policy.**
* `Pipeline.removedTag_mem_title` — elements that a policy removes stand in the title.
-/

namespace Folio

open Html (HasElement)
open Markdown (Event ProperlyNested)

/-! ### The title -/

/-- The tokens of a title are those of a run, if there are any. -/
theorem titleTokens_cases (ts : List Token) : (extractTitle ts).titleTokens = [] ∨
    ∃ run ∈ ts, (extractTitle ts).titleTokens = run.children := by
  unfold extractTitle
  split
  · exact .inl rfl
  · next start stop _ =>
    cases hfind : ((ts.take stop).drop start).find? fun t => t.kind == .inline with
    | none => exact .inl rfl
    | some run =>
      have hmem := List.mem_of_mem_take (List.mem_of_mem_drop (List.mem_of_find?_eq_some hfind))
      exact .inr ⟨run, hmem, rfl⟩

theorem inlineContent_titleTokens {ts : List Token} (hts : PageContent ts) :
    InlineContent (extractTitle ts).titleTokens := by
  rcases titleTokens_cases ts with hnil | ⟨run, hrun, hchildren⟩
  · exact hnil ▸ inlineContent_nil
  · exact hchildren ▸ (hts.parts run hrun).children

/-- The tokens of the title of a document. -/
def Options.titleTokens (o : Options) (events : List Event) : List Token :=
  (Folio.extractTitle (o.engine.parseEvents events {}).1).titleTokens

/-- Raw HTML that a title has from the texts of its document leaves no tag unfinished. -/
theorem Options.endsRawTags_titleTokens {o : Options} (ho : o.UsesBuiltins) {events : List Event}
    (h : Markdown.EndsTags events) : o.engine.renderer.EndsRawTags (o.titleTokens events) := by
  rintro t ht ⟨hk, -⟩
  rcases titleTokens_cases (o.engine.parseEvents events {}).1 with hnil | ⟨run, hrun, hchildren⟩
  · rw [Options.titleTokens, hnil] at ht
    cases ht
  · rw [Options.titleTokens, hchildren] at ht
    exact (Options.endsTag_parsed ho.plugins h run hrun t ht).closed hk

/-- The title with its markup, if it has any. -/
theorem Options.title_parseEvents {o : Options} (hextract : o.extractTitle = true)
    (hneed : o.needTitle = false) (ho : o.UsesBuiltins) {events : List Event}
    (hmarkup : 1 < (o.titleTokens events).length) :
    ∃ env, (o.pipeline.parseEvents events).2.env.title
      = o.engine.renderInline (o.titleTokens events) env := by
  rcases hparse : o.engine.parseEvents events {} with ⟨ts, s⟩
  have hsame : ({ o with extractTitle := true } : Options) = o := by rw [← hextract]
  have htake := parseEvents_takeTitle (ho.title hextract) hneed hparse
  rw [hsame] at htake
  rw [Options.titleTokens, hparse] at hmarkup ⊢
  refine ⟨s.env, ?_⟩
  rw [htake]
  simp only [Session.mapEnv]
  rw [Pipeline.shownTitle, if_pos hmarkup]
  rfl

/-! ### Sanitized documents -/

/-- What a policy does to a document, and what it does not. -/
structure Options.SanitizesPage (o : Options) (c : SanitizeOptions) (events : List Event) :
    Prop where
  /-- There is a page if the cleaner writes one, and it is the page without a policy but for the
  HTML: that is what the cleaner writes.  The title is not touched. -/
  page : ∃ plain, (o.unsanitized.pipeline.renderEvents events).1 = .ok plain ∧
    ∀ page, (o.pipeline.renderEvents events).1 = .ok page ↔
      ∃ html, o.cleaner c.policy plain.html = .ok html ∧ page = { plain with html }
  /-- The cleaner that goes by the tree refuses the options that contradict themselves, and no
  others. -/
  succeeds : o.cleaner = treeCleaner →
    ((∃ page, (o.pipeline.renderEvents events).1 = .ok page) ↔ ¬ c.NamesDropped)
  /-- No element that the policy removes begins in the HTML, if the cleaner keeps to the policy. -/
  html : o.cleaner.KeepsTagsOf c.policy →
    ∀ page, (o.pipeline.renderEvents events).1 = .ok page →
      ∀ name, HasElement name page.html → name ∈ c.policy.tags
  /-- A title with markup is what its tokens are rendered to. -/
  title : 1 < (o.titleTokens events).length →
    ∀ page, (o.pipeline.renderEvents events).1 = .ok page →
      ∃ env, page.title = o.engine.renderInline (o.titleTokens events) env
  /-- Its elements are those of its tokens, and no policy is asked. -/
  names : 1 < (o.titleTokens events).length →
    o.engine.renderer.EndsRawTags (o.titleTokens events) →
    ∀ page, (o.pipeline.renderEvents events).1 = .ok page →
      ∀ name, HasElement name page.title ↔
        o.engine.renderer.ShowsElement (o.titleTokens events) name
  /-- So no element that the policy removes begins in the title either, as long as raw HTML is
  escaped and the policy keeps all that inline tokens become. -/
  kept : 1 < (o.titleTokens events).length → o.allowHtml = false →
    (∀ name ∈ inlineElementNames, name ∈ c.policy.tags) →
    ∀ page, (o.pipeline.renderEvents events).1 = .ok page →
      ∀ name, HasElement name page.title → name ∈ c.policy.tags

/-- A page that has been compiled goes through the cleaner. -/
theorem Options.sanitized_eq_ok_iff {o : Options} {c : SanitizeOptions} (hc : o.sanitize = some c)
    (plain page : Rendered) : o.sanitized plain = .ok page ↔
      ∃ html, o.cleaner c.policy plain.html = .ok html ∧ page = { plain with html } := by
  rw [Options.sanitized, hc]
  dsimp only
  rw [Folio.sanitize]
  cases o.cleaner c.policy plain.html with
  | ok html => simp [Except.mapError, Except.map, eq_comm]
  | error e => simp [Except.mapError, Except.map]

/-- The tree cleaner writes every page, unless the options contradict themselves. -/
theorem exists_treeCleaner_eq_ok_iff (c : SanitizeOptions) (page : String) :
    (∃ html, treeCleaner c.policy page = .ok html) ↔ ¬ c.NamesDropped := by
  rw [← c.check_policy_eq_ok_iff]
  constructor
  · rintro ⟨html, hclean⟩
    cases hcheck : c.policy.check with
    | ok _ => rfl
    | error e =>
      have herror := c.sanitize_of_check_error hcheck page
      rw [Folio.sanitize, hclean] at herror
      cases herror
  · exact fun hcheck => ⟨_, c.sanitize_of_check_ok hcheck page⟩

/-- A document has a page that the cleaner writes, and its title is that of the parsed document. -/
theorem Options.renderEvents_eq_ok_iff {o : Options} {c : SanitizeOptions}
    (hc : o.sanitize = some c) (ho : o.UsesBuiltins) {events : List Event}
    (h : ProperlyNested events) :
    ∃ plain, (o.unsanitized.pipeline.renderEvents events).1 = .ok plain ∧
      plain.title = (o.pipeline.parseEvents events).2.env.title ∧
      ∀ page, (o.pipeline.renderEvents events).1 = .ok page ↔
        ∃ html, o.cleaner c.policy plain.html = .ok html ∧ page = { plain with html } := by
  obtain ⟨hpage, -, hdeferred⟩ := pipeline_parseEvents_spec ho h
  obtain ⟨hplain, hclean⟩ := Options.renderEvents_eq_pageOf ho hpage hdeferred
  refine ⟨_, hplain, rfl, fun page => ?_⟩
  rw [hclean]
  exact Options.sanitized_eq_ok_iff hc _ page

section Sanitized

variable {o : Options} {c : SanitizeOptions} (hc : o.sanitize = some c)
  (hextract : o.extractTitle = true) (hneed : o.needTitle = false) (ho : o.UsesBuiltins)
  {events : List Event} (h : ProperlyNested events)

include hc hextract hneed ho h

/-- A title with markup is what its tokens are rendered to. -/
theorem Options.title_renderEvents (hmarkup : 1 < (o.titleTokens events).length) {page : Rendered}
    (hresult : (o.pipeline.renderEvents events).1 = .ok page) :
    ∃ env, page.title = o.engine.renderInline (o.titleTokens events) env := by
  obtain ⟨plain, -, htitle, hok⟩ := Options.renderEvents_eq_ok_iff hc ho h
  obtain ⟨html, -, rfl⟩ := (hok page).mp hresult
  obtain ⟨env, hrendered⟩ := Options.title_parseEvents hextract hneed ho hmarkup
  exact ⟨env, htitle.trans hrendered⟩

/-- The elements of a title with markup are those of its tokens. -/
theorem Options.hasElement_title_iff (hmarkup : 1 < (o.titleTokens events).length)
    (hraw : o.engine.renderer.EndsRawTags (o.titleTokens events)) {page : Rendered}
    (hresult : (o.pipeline.renderEvents events).1 = .ok page) (name : String) :
    HasElement name page.title ↔ o.engine.renderer.ShowsElement (o.titleTokens events) name := by
  obtain ⟨env, hrendered⟩ :=
    Options.title_renderEvents hc hextract hneed ho h hmarkup hresult
  have hcontent := inlineContent_titleTokens (engine_parseEvents_spec ho h).1
  rw [hrendered]
  -- What the run has found out is no matter of elements.
  exact Renderer.hasElement_renderInline_iff (r := o.engine.rendererIn env)
    (Options.hasBuiltinRules ho) hcontent hraw

end Sanitized

namespace Pipeline

/-- **A sanitized document has a clean page, and the title that it has without a policy.**  The raw
HTML of a text ends its tags, so the elements of a title with markup are those of its tokens. -/
theorem sanitizesPage_renderEvents (o : Options) (c : SanitizeOptions) (hc : o.sanitize = some c)
    (hextract : o.extractTitle = true) (hneed : o.needTitle = false) (ho : o.UsesBuiltins) :
    (∀ events, ProperlyNested events → o.SanitizesPage c events) ∧
    ∀ input, o.SanitizesPage c (Engine.readEvents input) ∧
      o.engine.renderer.EndsRawTags (o.titleTokens (Engine.readEvents input)) := by
  have hevents : ∀ events, ProperlyNested events → o.SanitizesPage c events := by
    intro events h
    obtain ⟨plain, hplain, -, hok⟩ := Options.renderEvents_eq_ok_iff hc ho h
    have hnames := Options.hasElement_title_iff hc hextract hneed ho h
    constructor
    case page => exact ⟨plain, hplain, hok⟩
    case succeeds =>
      intro hcleaner
      rw [← exists_treeCleaner_eq_ok_iff c plain.html, ← hcleaner]
      constructor
      · rintro ⟨page, hresult⟩
        obtain ⟨html, hclean, -⟩ := (hok page).mp hresult
        exact ⟨html, hclean⟩
      · rintro ⟨html, hclean⟩
        exact ⟨_, (hok _).mpr ⟨html, hclean, rfl⟩⟩
    case html =>
      rintro hcleaner page hresult name ⟨tag, htag, rfl⟩
      obtain ⟨html, hclean, rfl⟩ := (hok page).mp hresult
      exact hcleaner plain.html html hclean tag htag
    case title =>
      exact fun hmarkup _ => Options.title_renderEvents hc hextract hneed ho h hmarkup
    case names => exact fun hmarkup hraw _ => hnames hmarkup hraw
    case kept =>
      intro hmarkup hhtml hkept page hresult name hname
      have hescaped : o.engine.renderer.allowHtml = false := by
        rw [Options.renderer_engine]
        exact hhtml
      have hshows := (hnames hmarkup (Renderer.endsRawTags_of_escaped hescaped _) hresult
        name).mp hname
      exact hkept name (hshows.mem_inlineElementNames hescaped)
  exact ⟨hevents, fun input => ⟨hevents _ (Markdown.shaped_blockEvents _).properlyNested,
    Options.endsRawTags_titleTokens ho (Markdown.endsTags_readDocument _)⟩⟩

/-- The options by default, with raw HTML. -/
def rawHtmlSanitized : Options :=
  { allowHtml := true, extractTitle := true, sanitize := some {} }

/-- A title with raw HTML that the default policy keeps, and with emphasis. -/
theorem sanitizesPage_render_strong :
    rawHtmlSanitized.SanitizesPage {} (Engine.readEvents "# a **b** <u>c</u>") ∧
    rawHtmlSanitized.cleaner.KeepsTagsOf ({} : SanitizeOptions).policy ∧
    1 < (rawHtmlSanitized.titleTokens (Engine.readEvents "# a **b** <u>c</u>")).length ∧
    rawHtmlSanitized.engine.renderer.EndsRawTags
      (rawHtmlSanitized.titleTokens (Engine.readEvents "# a **b** <u>c</u>")) := by
  obtain ⟨hpage, hraw⟩ := (sanitizesPage_renderEvents rawHtmlSanitized {} rfl rfl rfl
    ⟨fun _ h => h, fun _ => rfl⟩).2 "# a **b** <u>c</u>"
  exact ⟨hpage, treeCleaner_keepsTagsOf isReadable_default, by decide +kernel, hraw⟩

/-- The options remove `strong`. -/
def strongRemoved : Options :=
  { extractTitle := true, sanitize := some { removeTags := ["strong"] } }

/-- **Elements that a policy removes stand in the title**: those that raw HTML brings, and those
that inline tokens become. -/
theorem removedTag_mem_title :
    (∃ page, (rawHtmlSanitized.pipeline.render "# a <script>alert(1)</script>").1 = .ok page ∧
      1 < (rawHtmlSanitized.titleTokens
        (Engine.readEvents "# a <script>alert(1)</script>")).length ∧
      page.title = "a <script>alert(1)</script>" ∧ HasElement "script" page.title ∧
      "script" ∉ ({} : SanitizeOptions).policy.tags) ∧
    ∃ page, (strongRemoved.pipeline.render "# a **b**").1 = .ok page ∧
      1 < (strongRemoved.titleTokens (Engine.readEvents "# a **b**")).length ∧
      page.title = "a <strong>b</strong>" ∧ HasElement "strong" page.title ∧
      "strong" ∉ ({ removeTags := ["strong"] } : SanitizeOptions).policy.tags := by
  have htitle : ∀ (o : Options) (input title : String),
      (o.pipeline.render input).1.toOption.map Rendered.title = some title →
      ∃ page, (o.pipeline.render input).1 = .ok page ∧ page.title = title := by
    intro o input title h
    cases hrender : (o.pipeline.render input).1 with
    | error e =>
      rw [hrender] at h
      cases h
    | ok page =>
      rw [hrender] at h
      exact ⟨page, rfl, Option.some.inj h⟩
  constructor
  · obtain ⟨page, hpage, htitle⟩ := htitle rawHtmlSanitized "# a <script>alert(1)</script>"
      "a <script>alert(1)</script>" (by decide +kernel)
    refine ⟨page, hpage, by decide +kernel, htitle, ?_, by decide⟩
    rw [htitle]
    exact ⟨⟨"script", []⟩, by decide +kernel, rfl⟩
  · obtain ⟨page, hpage, htitle⟩ := htitle strongRemoved "# a **b**" "a <strong>b</strong>"
      (by decide +kernel)
    refine ⟨page, hpage, by decide +kernel, htitle, ?_, by decide⟩
    rw [htitle]
    exact ⟨⟨"strong", []⟩, by decide +kernel, rfl⟩

end Pipeline

end Folio
