import Folio.Proofs.DefaultPlugins
import Folio.Proofs.ElementIds
import Folio.Proofs.FreshSlugs

/-!
# The ids of headings on the page

The anchor plugin takes the ids that headings have and gives the others free slugs.  None of the
other plugins adds a heading or takes one out, so what has been generated for a heading stands on no
other heading of the page.  Ids of other elements are not asked for: an attribute block gives them
to any element, and so does a definition of a term.  A generated id is the only one of its name
exactly if no token of these sorts has it.

## Main definitions

* `Rendered.SeparatesHeadings` — ids stand on one heading of a page each, and on what else they
  stand.
* `Options.SeparatesIds` — the ids that are generated for a document do.

## Main results

* `filterMap_headingEntry?_parse` — the headings of a document are those that got their ids.
* `Pipeline.separatesIds_renderEvents` — **a generated id stands on one heading, and on another
  element exactly if an element that is no heading has it.**
* `Pipeline.sharesId_render` — a paragraph may have it.
-/

namespace Folio

open Html (headingIds ids otherIds)
open Markdown (Event ProperlyNested assemble)
open Plugin.Anchors (explicitIds)

/-! ### The headings of the tokens -/

theorem explicitIds_eq (ts : List Token) :
    explicitIds ts = (ts.filterMap Token.headingEntry?).filterMap Prod.snd := by
  rw [List.filterMap_filterMap]
  refine List.filterMap_congr fun t _ => ?_
  rw [Token.headingEntry?]
  cases t.headingLevel? <;> rfl

/-- The runs are no headings. -/
theorem filterMap_headingEntry?_mapRuns (f : List Token → List Token) (ts : List Token) :
    (mapRuns f ts).filterMap Token.headingEntry? = ts.filterMap Token.headingEntry? := by
  rw [mapRuns, List.filterMap_map]
  refine List.filterMap_congr fun t _ => ?_
  rw [Function.comp_apply]
  split
  · next hk =>
    have hk : t.kind = .inline := by simpa using hk
    have hlevel : t.headingLevel? = none := Token.headingLevel?_of_ne (by rw [hk]; rfl)
    rw [Token.headingEntry?, Token.headingEntry?, hlevel]
    have hlevel' : ({ t with children := f t.children } : Token).headingLevel? = none := hlevel
    rw [hlevel']
    rfl
  · rfl

namespace Plugin.Terms

/-- Definitions are made of no headings. -/
theorem filterMap_headingEntry?_extract {ts : List Token} (hts : ∀ t ∈ ts, t.IsPagePart) :
    (extract ts).filterMap Token.headingEntry? = ts.filterMap Token.headingEntry? := by
  induction ts using extract.induct with
  | case1 a b c rest d hd ih =>
    obtain ⟨hk, -, hc, hchildren, hdk, -, -⟩ := definition?_eq_some hd
    have hb : b.nesting ≠ .opening := by
      intro hn
      exact hchildren ((hts b (by simp)).pair (by simp [hn])).2
    have hnone : ∀ t : Token, t.kind.isHeading = false ∨ t.nesting ≠ .opening →
        t.headingEntry? = none := by
      intro t ht
      rw [Token.headingEntry?, ht.elim Token.headingLevel?_of_ne Token.headingLevel?_of_not_opening]
      rfl
    rw [extract_of_some hd,
      List.filterMap_cons_none (hnone d (.inl (by rw [hdk]; rfl))),
      List.filterMap_cons_none (hnone a (.inl (by rw [hk]; rfl))),
      List.filterMap_cons_none (hnone b (.inr hb)),
      List.filterMap_cons_none (hnone c (.inr (by simp [hc])))]
    exact ih fun t ht => hts t (by simp [ht])
  | case2 a b c rest hd ih =>
    rw [extract_of_none hd, List.filterMap_cons,
      List.filterMap_cons (l := b :: c :: rest), ih fun t ht => hts t (List.mem_cons_of_mem a ht)]
  | case3 ts hshort => rw [extract_of_short hshort]

end Plugin.Terms

section Parsing

variable {o : Options} {events : List Event}

/-- **The headings of a document are those that got their ids.** -/
theorem filterMap_headingEntry?_parse (ho : o.plugins = Plugin.defaults)
    (h : ProperlyNested events) :
    (o.engine.parseEvents events {}).1.filterMap Token.headingEntry?
      = (o.anchored events).filterMap Token.headingEntry? := by
  rw [fst_engine_parseEvents_defaults ho, filterMap_headingEntry?_mapRuns,
    Plugin.Terms.filterMap_headingEntry?_extract (pageContent_anchored o h).parts]

end Parsing

/-- The ids that the headings of a document get that have none. -/
def Options.generatedIds (o : Options) (events : List Event) : List String :=
  Plugin.Anchors.generatedIds (Plugin.Attributes.revise o.delimiters (assemble events).1)

/-- The ids of a page that are made for its headings, and those that its tokens give to other
elements. -/
structure Rendered.SeparatesHeadings (page : Rendered) (generated : List String)
    (gives : String → Prop) : Prop where
  /-- Each of the ids stands on one heading of the page at most. -/
  headings : ∀ id ∈ generated, (headingIds page.html).count id ≤ 1
  /-- The ids of other elements are those that tokens give. -/
  others : ∀ id, id ∈ otherIds page.html ↔ gives id
  /-- An id that stands on a heading stands nowhere else exactly if no token gives it to another
  element. -/
  once : ∀ id ∈ generated, id ∈ headingIds page.html →
    ((ids page.html).count id = 1 ↔ ¬gives id)

theorem Rendered.separatesHeadings_of_count {page : Rendered} {generated : List String}
    {gives : String → Prop} (h : ∀ id ∈ generated, (headingIds page.html).count id ≤ 1)
    (hothers : ∀ id, id ∈ otherIds page.html ↔ gives id) :
    page.SeparatesHeadings generated gives := by
  refine ⟨h, hothers, fun id hid hmem => ?_⟩
  have hone : (headingIds page.html).count id = 1 :=
    Nat.le_antisymm (h id hid) (List.count_pos_iff.mpr hmem)
  rw [Html.count_ids, hone, ← hothers, ← List.count_eq_zero]
  omega

/-- The page of a document separates the ids that its headings have got, and all of them stand on
it unless a title is taken out. -/
def Options.SeparatesIds (o : Options) (events : List Event)
    (result : Except RunError Rendered) : Prop :=
  ∃ page, result = .ok page ∧
    page.SeparatesHeadings (o.generatedIds events) (fun id =>
      ∃ t ∈ (o.pipeline.parseEvents events).1, (o.engine.rendererIn {}).GivesId t id) ∧
    (o.extractTitle = false → ∀ id ∈ o.generatedIds events, id ∈ headingIds page.html)

namespace Pipeline

/-- **A generated id stands on one heading of the page only**, as long as raw HTML is escaped; and
it stands on another element as well exactly if an element that is no heading has that id. -/
theorem separatesIds_renderEvents (o : Options) (ho : o.plugins = Plugin.defaults)
    (hhtml : o.allowHtml = false) (hsanitize : o.sanitize = none)
    (htitle : o.extractTitle = true → o.titleStrategy = Folio.extractTitle)
    (hhighlighter : WritesNoHeadings o.highlighter) :
    (∀ events, ProperlyNested events →
      o.SeparatesIds events (o.pipeline.renderEvents events).1) ∧
    ∀ input, o.SeparatesIds (Engine.readEvents input) (o.pipeline.render input).1 := by
  have hevents : ∀ events, ProperlyNested events →
      o.SeparatesIds events (o.pipeline.renderEvents events).1 := by
    intro events h
    have hbuiltins := Options.usesBuiltins_of_defaults ho htitle
    have hkept := Options.keepsTokens hbuiltins h
    obtain ⟨hpage, -, hdeferred⟩ := pipeline_parseEvents_spec hbuiltins h
    have hfinish := Options.finish_eq_pageOf hbuiltins hsanitize hpage hdeferred
    have hids : headingIds (o.pageOf (o.pipeline.parseEvents events).1
        (o.pipeline.parseEvents events).2.env).html
          = explicitIds (o.pipeline.parseEvents events).1 := by
      rw [Html.headingIds_eq,
        headingTags_pageOf hhtml hbuiltins hhighlighter hkept.headed.forall_mem, explicitIds_eq]
    have hanchored : explicitIds (o.engine.parseEvents events {}).1
        = explicitIds (o.anchored events) := by
      rw [explicitIds_eq, filterMap_headingEntry?_parse ho h, ← explicitIds_eq]
    -- On the tokens whose headings have got their ids, a generated id stands once.
    have hone : ∀ id ∈ o.generatedIds events, (explicitIds (o.anchored events)).count id = 1 :=
      fun id hid => Plugin.Anchors.count_explicitIds_revise hid
    have hnames : ∀ t ∈ (o.pipeline.parseEvents events).1, t.TellsAllNames := fun t ht =>
      Options.tellsAllNames_parsed hbuiltins.plugins events t (hkept.sublist.subset ht)
    refine ⟨_, congrArg Prod.fst hfinish,
      Rendered.separatesHeadings_of_count (fun id hid => ?_) (fun id => ?_),
      fun hextract id hid => ?_⟩
    · rw [hids, ← hone id hid, ← hanchored]
      exact (hkept.sublist.filterMap _).count_le id
    · rw [Options.html_pageOf, Renderer.mem_otherIds_render_iff
        ((o.allowHtml_rendererIn {}).trans hhtml) (Options.hasBuiltinRules hbuiltins)
        (Options.lookup_definition ho) ((o.highlighter_rendererIn {}).symm ▸ hhighlighter)
        (fun t ht => hpage.parts t (Options.mem_rendered.mp ht))
        (fun t ht => hnames t (Options.mem_rendered.mp ht))]
      exact exists_congr fun t => and_congr_left fun _ => Options.mem_rendered
    · rw [hids, hkept.all hextract, hanchored]
      exact List.count_pos_iff.mp (by rw [hone id hid]; exact Nat.one_pos)
  exact ⟨hevents, fun input => hevents _ (Markdown.shaped_blockEvents _).properlyNested⟩

/-- Two headings of one text, and one that has an id of its own. -/
theorem separatesIds_render_setup :
    ({} : Options).SeparatesIds (Engine.readEvents "## Setup\n\n## Setup\n\n## a \x7b#setup-1\x7d")
      (({} : Options).pipeline.render "## Setup\n\n## Setup\n\n## a \x7b#setup-1\x7d").1 ∧
    ({} : Options).generatedIds (Engine.readEvents "## Setup\n\n## Setup\n\n## a \x7b#setup-1\x7d")
      = ["setup", "setup-2"] :=
  ⟨(separatesIds_renderEvents {} rfl rfl rfl (fun _ => rfl) nofun).2 _, by decide +kernel⟩

/-- A paragraph may have an id that is generated for a heading: it is not asked for its id. -/
theorem sharesId_render : ∃ page,
    (({} : Options).pipeline.render "## Setup\n\ntext \x7b#setup\x7d").1 = .ok page ∧
    "setup" ∈ ({} : Options).generatedIds (Engine.readEvents "## Setup\n\ntext \x7b#setup\x7d") ∧
    headingIds page.html = ["setup"] ∧ otherIds page.html = ["setup"] := by
  have hgenerated : "setup"
      ∈ ({} : Options).generatedIds (Engine.readEvents "## Setup\n\ntext \x7b#setup\x7d") := by
    decide +kernel
  have hpage : (({} : Options).pipeline.render "## Setup\n\ntext \x7b#setup\x7d").1.toOption.map
      (fun page => (headingIds page.html, otherIds page.html)) = some (["setup"], ["setup"]) := by
    decide +kernel
  cases hrender : (({} : Options).pipeline.render "## Setup\n\ntext \x7b#setup\x7d").1 with
  | error e =>
    rw [hrender] at hpage
    cases hpage
  | ok page =>
    rw [hrender] at hpage
    obtain ⟨hheadings, hothers⟩ := Prod.mk.inj (Option.some.inj hpage)
    exact ⟨page, rfl, hgenerated, hheadings, hothers⟩

end Pipeline

end Folio
