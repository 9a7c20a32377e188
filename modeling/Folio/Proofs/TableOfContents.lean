import Folio.Proofs.AttributeNames
import Folio.Proofs.TitleRemoval

/-!
# The table of contents

The headings of a document are listed before it is processed, and their tags are written when it
is compiled.  In between the definitions of terms go to the end of the page, but no heading moves;
and a heading that has an id is listed under it.  So what the outline lists are the heading tags of
the page, in order.

## Main definitions

* `Token.headingEntry?` — the level and the id of a heading.
* `WritesNoHeadings` — what a highlighter writes begins no heading.
* `Heading.IsListed` — a heading stands in an outline.
* `Rendered.ListsItsHeadings` — the outline of a page lists its heading tags.

## Main results

* `headingTags_render` — **the heading tags of a page are those of its tokens.**
* `entries_outline` — **an outline lists the levels and the ids of the tokens.**
* `Pipeline.listsItsHeadings_renderEvents` — **the table of contents agrees with the page.**
-/

namespace Folio

open Html (Markup HasNoHeadings headingTags unfinished)
open Markdown (ProperlyNested)
open Plugin.Terms (definitionKind)

/-- The level and the id of a heading, if the token begins one. -/
def Token.headingEntry? (t : Token) : Option (Nat × Option String) :=
  t.headingLevel?.map fun n => (n, t.attr? "id")

/-- The token is shown, and its attributes can be read off the page, if it begins a heading. -/
def Token.HasLegibleTag (t : Token) : Prop :=
  t.headingLevel?.isSome = true → t.hidden = false ∧ t.HasLegibleNames

theorem Headed.forall_mem {P : Token → Prop} {ts : List Token} (h : Headed P ts) :
    ∀ t ∈ ts, t.headingLevel?.isSome = true → t.hidden = false ∧ P t := by
  intro t ht hl
  obtain ⟨pre, tail, rfl⟩ := List.append_of_mem ht
  obtain ⟨hk, hn⟩ := Token.kind_isHeading_of_headingLevel? hl
  obtain ⟨run, c, rest, -, hparts, ho, -, -⟩ := h.split rfl hk hn
  exact ⟨hparts.visible, ho⟩

/-! ### The tags of the page -/

/-- Only a heading becomes a heading. -/
theorem headingNumber?_of_mem_elementNames {name : String} (h : name ∈ elementNames) :
    Html.headingNumber? name.toList = none := by
  have hnumbers :
      elementNames.all (fun name => Html.headingNumber? name.toList == none) = true := by decide
  simpa using List.all_eq_true.mp hnumbers name h

theorem holdsOfPieces_hasNoHeadings : HoldsOfPieces fun m => HasNoHeadings m.write := by
  have hraw : ∀ s : String, s.toList.all (· != '<') = true → HasNoHeadings (Markup.raw s).write :=
    fun s h => Html.hasNoHeadings_of_no_tag fun c hc => by simpa using List.all_eq_true.mp h c hc
  exact ⟨Html.hasNoHeadings_text, hraw _ rfl, hraw _ rfl,
    fun _ h => Html.hasNoHeadings_startTag (isTagName_of_mem_elementNames h)
      (headingNumber?_of_mem_elementNames h),
    fun _ h => Html.hasNoHeadings_endTag (isTagName_of_mem_elementNames h)⟩

/-- No heading begins in what the highlighter writes. -/
def WritesNoHeadings (highlighter : Option Highlighter) : Prop :=
  ∀ h ∈ highlighter, ∀ code lang html, h code lang = some html → HasNoHeadings html

/-- The highlighter that writes the same for all code. -/
def constantHighlighter (html : String) : Highlighter := fun _ _ => some html

theorem writesNoHeadings_constant {html : String} (h : HasNoHeadings html) :
    WritesNoHeadings (some (constantHighlighter html)) := by
  rintro _ ⟨⟩ code lang _ ⟨⟩
  exact h

/-- The beginning of a heading becomes its tag, and its end becomes the end of a tag. -/
theorem headingTags_blockPiece_heading (r : Renderer) {t : Token} {n : Nat}
    (hn : t.kind = .heading n) (ht : t.HasLegibleTag) :
    (∀ m ∈ r.blockPiece t, unfinished none m.write.toList = none) ∧
      (r.blockPiece t).flatMap (fun m => headingTags m.write) = t.headingEntry?.toList := by
  rw [Renderer.blockPiece_heading r hn]
  by_cases ho : t.nesting = .opening
  · have hlevel : t.headingLevel? = some n := by rw [Token.headingLevel?, hn, ho]
    obtain ⟨hvisible, hnames⟩ := ht (by rw [hlevel]; rfl)
    have hopening : t.isOpening = true := by rw [Token.isOpening, ho]; rfl
    have htag : headingTags (Markup.startTag ("h" ++ toString n) (Html.attributes t.attrs)).write
        = [(n, t.attr? "id")] := Html.headingTags_heading n (List.forall_mem_map.mp hnames)
    have hclosed := (Html.tagTexts_startTag (Html.isTagName_heading n)
      (Html.attributes t.attrs)).2
    rw [hvisible, hopening, Token.headingEntry?, hlevel]
    exact ⟨List.forall_mem_singleton.mpr hclosed, by simpa using htag⟩
  · have hopening : t.isOpening = false := by simpa [Token.isOpening] using ho
    have hend := Html.hasNoHeadings_endTag (Html.isTagName_heading n)
    rw [hopening, Token.headingEntry?, Token.headingLevel?_of_not_opening ho]
    cases t.hidden with
    | true => exact ⟨List.forall_mem_nil _, rfl⟩
    | false => exact ⟨List.forall_mem_singleton.mpr hend.closed, by simpa using hend.headings⟩

section Tags

variable {r : Renderer} (hhtml : r.allowHtml = false) (hr : r.HasBuiltinRules)
  (hhighlighter : WritesNoHeadings r.highlighter)

include hhtml hr hhighlighter

/-- A token begins a heading in the page if it is the beginning of one. -/
theorem headingTags_blockPiece {t : Token} (ht : t.HasLegibleTag) :
    (∀ m ∈ r.blockPiece t, unfinished none m.write.toList = none) ∧
      (r.blockPiece t).flatMap (fun m => headingTags m.write) = t.headingEntry?.toList := by
  cases hk : t.kind.isHeading with
  | false =>
    have hnone := Renderer.forall_blockPiece holdsOfPieces_hasNoHeadings hhtml hr hhighlighter hk
    rw [Token.headingEntry?, Token.headingLevel?_of_ne hk]
    exact ⟨fun m hm => (hnone m hm).closed,
      List.flatMap_eq_nil_iff.mpr fun m hm => (hnone m hm).headings⟩
  | true =>
    obtain ⟨n, hn⟩ := Kind.exists_of_isHeading hk
    exact headingTags_blockPiece_heading r hn ht

/-- **The heading tags of a page are those of its tokens.** -/
theorem headingTags_render {ts : List Token} (hts : ∀ t ∈ ts, t.HasLegibleTag) :
    headingTags (r.render ts) = ts.filterMap Token.headingEntry? := by
  have hpieces : ∀ t ∈ ts, _ := fun t ht => headingTags_blockPiece hhtml hr hhighlighter (hts t ht)
  rw [Renderer.render, Renderer.blocks_eq_flatMap, Html.headingTags_writeAll]
  · rw [List.flatMap_assoc, List.filterMap_eq_flatMap_toList]
    exact List.flatMap_congr fun t ht => (hpieces t ht).2
  · intro m hm
    obtain ⟨t, ht, hm⟩ := List.mem_flatMap.mp hm
    exact (hpieces t ht).1 m hm

end Tags

/-! ### The entries of the outline -/

/-- **An outline lists the levels and the ids of the tokens**, if all headings have ids. -/
theorem entries_outline (flat : Bool) {ts : List Token}
    (hids : ∀ t ∈ ts, t.headingLevel?.isSome = true → (t.attr? "id").isSome = true) :
    (Heading.preorder (outline flat ts)).map (fun e => (e.1, some e.2.2))
      = ts.filterMap Token.headingEntry? := by
  rw [preorder_outline]
  induction ts with
  | nil => simp [flatOutline]
  | cons t ts ih =>
    obtain ⟨ht, hts⟩ := List.forall_mem_cons.mp hids
    cases hl : t.headingLevel? with
    | none =>
      have hentry : t.headingEntry? = none := by rw [Token.headingEntry?, hl]; rfl
      rw [flatOutline_cons_none hl, List.filterMap_cons_none hentry]
      exact ih hts
    | some level =>
      obtain ⟨id, hid⟩ := Option.isSome_iff_exists.mp (ht (by rw [hl]; rfl))
      have hentry : t.headingEntry? = some (level, some id) := by
        rw [Token.headingEntry?, hl, hid]
        rfl
      rw [flatOutline_cons_some hl, List.filterMap_cons_some hentry, Heading.preorder_cons,
        Heading.entries_mk, Heading.preorder_nil, hid, ← ih hts]
      rfl

/-- The heading stands in the outline, or below one that does. -/
inductive Heading.IsListed : List Heading → Heading → Prop
  | here {hs : List Heading} {h : Heading} (hh : h ∈ hs) : IsListed hs h
  | inside {hs : List Heading} {g h : Heading} (hg : g ∈ hs) (hh : IsListed g.items h) :
      IsListed hs h

theorem Heading.IsListed.mem_preorder {hs : List Heading} {h : Heading} (hh : IsListed hs h) :
    (h.level, h.title, h.id) ∈ preorder hs := by
  have hentries : ∀ g : Heading, g.entries = (g.level, g.title, g.id) :: preorder g.items := by
    rintro ⟨level, title, id, items⟩
    exact entries_mk level title id items
  induction hh with
  | here hh =>
    rw [preorder_eq_flatMap]
    exact List.mem_flatMap.mpr ⟨_, hh, hentries _ ▸ List.mem_cons_self⟩
  | inside hg _ ih =>
    rw [preorder_eq_flatMap]
    exact List.mem_flatMap.mpr ⟨_, hg, hentries _ ▸ List.mem_cons_of_mem _ ih⟩

/-- The outline of a page lists its heading tags, so the address of every heading in it is that of
a heading of the page. -/
structure Rendered.ListsItsHeadings (page : Rendered) : Prop where
  tags : (Heading.preorder page.headings).map (fun e => (e.1, some e.2.2)) = headingTags page.html
  resolves : ∀ h, Heading.IsListed page.headings h →
    ∃ id, h.href = "#" ++ id ∧ (h.level, some id) ∈ headingTags page.html

theorem Rendered.listsItsHeadings_of_tags {page : Rendered}
    (h : (Heading.preorder page.headings).map (fun e => (e.1, some e.2.2))
      = headingTags page.html) : page.ListsItsHeadings :=
  ⟨h, fun g hg => ⟨g.id, rfl, h ▸ List.mem_map.mpr ⟨_, hg.mem_preorder, rfl⟩⟩⟩

/-! ### The page of a document -/

section Page

variable {o : Options}

/-- Definitions of terms are no headings, so taking them out and putting them at the end moves no
heading. -/
theorem filterMap_headingEntry?_deferred (stages : List Stage) (ts : List Token) :
    (ts.filter fun t => !isDeferredBy stages t).filterMap Token.headingEntry?
        ++ (ts.filter (isDeferredBy stages)).filterMap Token.headingEntry?
      = ts.filterMap Token.headingEntry? := by
  have hnone : ∀ t, isDeferredBy stages t = true → t.headingEntry? = none := by
    intro t ht
    have hk : t.kind = definitionKind := by
      by_contra hk
      rw [isDeferredBy_of_ne hk] at ht
      cases ht
    have hlevel : t.headingLevel? = none := Token.headingLevel?_of_ne (by rw [hk]; rfl)
    rw [Token.headingEntry?, hlevel]
    rfl
  have hdeferred : (ts.filter (isDeferredBy stages)).filterMap Token.headingEntry? = [] :=
    List.filterMap_eq_nil_iff.mpr fun t ht => hnone t (List.mem_filter.mp ht).2
  rw [hdeferred, List.append_nil, List.filterMap_filter]
  refine List.filterMap_congr fun t _ => ?_
  cases hd : isDeferredBy stages t with
  | false => rfl
  | true => exact (hnone t hd).symm

theorem headingTags_pageOf (hhtml : o.allowHtml = false) (ho : o.UsesBuiltins)
    (hhighlighter : WritesNoHeadings o.highlighter) {ts : List Token}
    (hts : ∀ t ∈ ts, t.HasLegibleTag) (env : Environment) :
    headingTags (o.pageOf ts env).html = ts.filterMap Token.headingEntry? := by
  have hrenderer : o.engine.rendererIn {} = { o.engine.renderer with env := {} } := rfl
  have hpage : (o.pageOf ts env).html
      = o.engine.render ((ts.filter fun t => !isDeferredBy o.pipeline.stages t)
        ++ ts.filter (isDeferredBy o.pipeline.stages)) := (Engine.render_append _ _ _ _).symm
  have hmem : ∀ t ∈ (ts.filter fun t => !isDeferredBy o.pipeline.stages t)
      ++ ts.filter (isDeferredBy o.pipeline.stages), t.HasLegibleTag := by
    intro t ht
    rcases List.mem_append.mp ht with ht | ht <;> exact hts t (List.mem_filter.mp ht).1
  have hrules : (o.engine.rendererIn {}).HasBuiltinRules := Options.hasBuiltinRules ho
  rw [hpage, Engine.render, headingTags_render _ hrules _ hmem, List.filterMap_append,
    filterMap_headingEntry?_deferred]
  · rw [hrenderer, Options.renderer_engine]
    exact hhtml
  · rw [hrenderer, Options.renderer_engine]
    exact hhighlighter

end Page

namespace Pipeline

/-- **The table of contents agrees with the page**, if raw HTML is escaped and all headings get
ids. -/
theorem listsItsHeadings_renderEvents (o : Options) (hhtml : o.allowHtml = false)
    (hsanitize : o.sanitize = none) (ho : o.UsesBuiltins) (hanchors : Plugin.anchors ∈ o.plugins)
    (hhighlighter : WritesNoHeadings o.highlighter) :
    (∀ events, ProperlyNested events → ∃ page, (o.pipeline.renderEvents events).1 = .ok page ∧
      page.ListsItsHeadings) ∧
    ∀ input, ∃ page, (o.pipeline.render input).1 = .ok page ∧ page.ListsItsHeadings := by
  have hevents : ∀ events, ProperlyNested events →
      ∃ page, (o.pipeline.renderEvents events).1 = .ok page ∧ page.ListsItsHeadings := by
    intro events h
    have hparsed := headed_ids_engine_parseEvents ho.plugins hanchors
      (isKeptByAttributes_hasLegibleNames o.delimiters) h
    -- The headings that are left when the title has been taken out.
    have hheaded : Headed (fun t => t.HasLegibleNames ∧ (t.attr? "id").isSome = true)
        (o.pipeline.parseEvents events).1 := by
      rw [Pipeline.fst_parseEvents]
      split
      · next hextract =>
        have htitle : o.pipeline.titleStrategy = Folio.extractTitle := ho.title hextract
        rw [htitle]
        exact hparsed.tokens_extractTitle
      · exact hparsed
    obtain ⟨hpage, -, hdeferred⟩ := pipeline_parseEvents_spec ho h
    refine ⟨_, congrArg Prod.fst (Options.finish_eq_pageOf ho hsanitize hpage hdeferred),
      Rendered.listsItsHeadings_of_tags ?_⟩
    rw [headingTags_pageOf hhtml ho hhighlighter fun t ht hl =>
      (hheaded.forall_mem t ht hl).imp id And.left]
    exact entries_outline o.flatHeadings fun t ht hl => (hheaded.forall_mem t ht hl).2.2
  exact ⟨hevents, fun input => hevents _ (Markdown.shaped_blockEvents _).properlyNested⟩

/-- Two headings of one text, and code between them that is highlighted. -/
theorem listsItsHeadings_render_code :
    (∃ page, (({ highlighter := some (constantHighlighter "<b>x</b>") } : Options).pipeline.render
      "# a\n\n```b\nx\n```\n\n## a").1 = .ok page ∧ page.ListsItsHeadings) ∧
    (({ highlighter := some (constantHighlighter "<b>x</b>") } : Options).pipeline.render
      "# a\n\n```b\nx\n```\n\n## a").1.toOption.map (fun page => headingTags page.html)
        = some [(1, some "a"), (2, some "a-1")] := by
  refine ⟨?_, by decide +kernel⟩
  have hcode : HasNoHeadings "<b>x</b>" := ⟨by decide, by decide⟩
  exact (listsItsHeadings_renderEvents { highlighter := some (constantHighlighter "<b>x</b>") }
    rfl rfl ⟨fun _ h => h, fun _ => rfl⟩ (Plugin.mem_defaults.mpr (.inl rfl))
    (writesNoHeadings_constant hcode)).2 _

/-- What a highlighter writes is not escaped, so it may write a heading that no outline lists. -/
theorem not_listsItsHeadings_render_code : ∃ page,
    (({ highlighter := some (constantHighlighter "<h2 id=\"q\"></h2>") } :
      Options).pipeline.render "```a\nx\n```").1 = .ok page ∧ ¬ page.ListsItsHeadings := by
  have htags : (({ highlighter := some (constantHighlighter "<h2 id=\"q\"></h2>") } :
      Options).pipeline.render "```a\nx\n```").1.toOption.map
        (fun page => (Heading.preorder page.headings, headingTags page.html))
      = some ([], [(2, some "q")]) := by decide +kernel
  cases hrender : (({ highlighter := some (constantHighlighter "<h2 id=\"q\"></h2>") } :
      Options).pipeline.render "```a\nx\n```").1 with
  | error e =>
    rw [hrender] at htags
    cases htags
  | ok page =>
    rw [hrender] at htags
    obtain ⟨hheadings, htag⟩ := Prod.mk.inj (Option.some.inj htags)
    refine ⟨page, rfl, fun h => ?_⟩
    have hlists := h.tags
    rw [hheadings, htag] at hlists
    cases hlists

end Pipeline

end Folio
