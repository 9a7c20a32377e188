import Folio.Proofs.ParsedTerms
import Folio.Proofs.TermElements

/-!
# Images and the files that are recorded

The files that a document shows are collected from its runs when the definitions of terms have been
taken out of it.  Nothing that comes later brings an image, so the images of the runs are recorded
and those of definitions are not, although both stand on the page.

## Main definitions

* `Token.BeginsImage` — the token begins an image with this address.
* `DefinitionShows` — a paragraph that defines a term shows an image.
* `Rendered.RecordsImages` — the local images of a page are recorded.
* `Options.CollectsImages` — what is recorded of the images of a document.

## Main results

* `Options.image_mem_assets_iff` — **the images that are recorded are those of the runs.**
* `Pipeline.collectsImages_renderEvents` — **an image on the page is recorded, or it stands in a
  definition.**
* `Pipeline.not_recordsImages_render` — an image in a definition is not recorded.
-/

namespace Folio

open Html (startTags)
open Markdown (Event ProperlyNested assemble)
open Plugin.Terms (IsDefinition extract markAt markAt_cases markReferences referenceClosing
  referenceKey? referenceOpening)

/-- The token begins an image with this address. -/
structure Token.BeginsImage (t : Token) (src : String) : Prop where
  kind : t.kind = .image
  opening : t.nesting = .opening
  source : t.attr? "src" = some src

/-- A paragraph that defines a term shows an image. -/
def DefinitionShows (ts : List Token) (src : String) : Prop :=
  ∃ o run c term, [o, run, c] <:+: ts ∧ IsDefinition o run c term ∧
    ∃ child ∈ run.children, child.BeginsImage src

/-! ### Collecting -/

namespace Plugin.Assets

/-- Files are recorded once, and none is forgotten. -/
theorem mem_foldl_addAsset (found : List Asset) (asset : Asset) : ∀ env : Environment,
    asset ∈ (found.foldl Environment.addAsset env).assets ↔ asset ∈ env.assets ∨ asset ∈ found := by
  induction found with
  | nil => simp
  | cons a found ih =>
    intro env
    have hadd : asset ∈ (env.addAsset a).assets ↔ asset ∈ env.assets ∨ asset = a := by
      unfold Environment.addAsset
      split
      · next h => exact (or_iff_left_of_imp fun heq => by simpa [heq] using h).symm
      · rw [List.mem_append, List.mem_singleton]
    rw [List.foldl_cons, ih, hadd, List.mem_cons, or_assoc]

theorem asset?_eq_some_image_iff {t : Token} {src : String} :
    asset? t = some ⟨.image, src⟩ ↔ t.BeginsImage src ∧ isLocal src.toList = true := by
  unfold asset?
  constructor
  · intro h
    split at h
    · cases h
    next hn =>
    split at h
    · next hk =>
      obtain ⟨src', hsource, h⟩ := Option.bind_eq_some_iff.mp h
      split at h
      · next hlocal =>
        obtain rfl : src' = src := (Asset.mk.inj (Option.some.inj h)).2
        exact ⟨⟨hk, by simpa [Token.isOpening] using hn, hsource⟩, hlocal⟩
      · cases h
    · obtain ⟨href, -, h⟩ := Option.bind_eq_some_iff.mp h
      split at h
      · exact absurd (Asset.mk.inj (Option.some.inj h)).1 (by decide)
      · cases h
    · cases h
  · rintro ⟨⟨hk, hn, hsource⟩, hlocal⟩
    simp [Token.isOpening, hk, hn, hsource, hlocal]

/-- What is recorded of a list is what its runs refer to. -/
theorem mem_collect_iff {ts : List Token} {env : Environment} (henv : env.assets = [])
    {asset : Asset} : asset ∈ (collect ts env).assets ↔
      ∃ t ∈ ts, t.kind = .inline ∧ ∃ c ∈ t.children, asset? c = some asset := by
  rw [collect, mem_foldl_addAsset, henv, or_iff_right List.not_mem_nil, found, List.mem_flatMap]
  refine exists_congr fun t => and_congr_right fun _ => ?_
  by_cases hk : t.kind = .inline <;> simp [hk]

/-- The local images of a list are those of its runs. -/
theorem image_mem_collect_iff {ts : List Token} {env : Environment} (henv : env.assets = [])
    {src : String} : ⟨.image, src⟩ ∈ (collect ts env).assets ↔ isLocal src.toList = true ∧
      ∃ t ∈ ts, t.kind = .inline ∧ ∃ c ∈ t.children, c.BeginsImage src := by
  rw [mem_collect_iff henv]
  constructor
  · rintro ⟨t, ht, hk, c, hc, hasset⟩
    obtain ⟨himage, hlocal⟩ := asset?_eq_some_image_iff.mp hasset
    exact ⟨hlocal, t, ht, hk, c, hc, himage⟩
  · rintro ⟨hlocal, t, ht, hk, c, hc, himage⟩
    exact ⟨t, ht, hk, c, hc, asset?_eq_some_image_iff.mpr ⟨himage, hlocal⟩⟩

end Plugin.Assets

/-! ### Images in runs -/

/-- **What every replacement of a link to a term keeps, marking the references of a run keeps.** -/
theorem markReferences_induction {P : List Token → Prop} {children : List Token}
    (h : InlineContent children) (hP : P children)
    (hreplace : ∀ pre o body c rest key, referenceKey? o = some key → c.nesting = .closing →
      c.kind = .link → P (pre ++ o :: (body ++ c :: rest)) →
      P (pre ++ referenceOpening key :: (body ++ referenceClosing :: rest))) :
    P (markReferences children).1 := by
  refine (List.foldlRecOn (List.range children.length) markAt
    (motive := fun state => InlineContent state.1 ∧ P state.1) ⟨h, hP⟩
    (fun (marked, keys) ⟨hcontent, hmarked⟩ index _ => ?_)).2
  refine ⟨(Plugin.Terms.markAt_spec hcontent keys index).1, ?_⟩
  rcases markAt_cases hcontent keys index with
    ⟨-, heq⟩ | ⟨pre, o, body, c, rest, key, rfl, -, href, hclosing, hlink, -, heq⟩
  · rwa [heq]
  · rw [heq]
    exact hreplace pre o body c rest key href hclosing hlink hmarked

/-- Marking the references of a run replaces nothing but links to terms and what closes them. -/
theorem mem_markReferences_of_opening {children : List Token} (h : InlineContent children)
    {t : Token} (ht : t ∈ children) (hn : t.nesting = .opening) (hkey : referenceKey? t = none) :
    t ∈ (markReferences children).1 := by
  refine markReferences_induction (P := fun ts => t ∈ ts) h ht ?_
  intro pre o body c rest key href hclosing _ hmem
  have ho : t ≠ o := by
    rintro rfl
    rw [href] at hkey
    cases hkey
  have hc : t ≠ c := by
    rintro rfl
    rw [hn] at hclosing
    cases hclosing
  simp only [List.mem_append, List.mem_cons, ho, hc, false_or] at hmem ⊢
  tauto

/-- What comes after the definitions brings no images to a run, and takes none away. -/
theorem exists_beginsImage_markReferences {children : List Token} (h : InlineContent children)
    (src : String) : (∃ c ∈ (markReferences children).1, c.BeginsImage src) ↔
      ∃ c ∈ children, c.BeginsImage src := by
  constructor
  · rintro ⟨c, hc, himage⟩
    rcases mem_markReferences hc with hc | ⟨key, rfl⟩ | rfl
    · exact ⟨c, hc, himage⟩
    · exact absurd himage.kind Kind.noConfusion
    · exact absurd himage.kind Kind.noConfusion
  · rintro ⟨c, hc, himage⟩
    have hkey : referenceKey? c = none :=
      referenceKey?_of_ne (by rw [himage.kind]; exact Kind.noConfusion)
    exact ⟨c, mem_markReferences_of_opening h hc himage.opening hkey, himage⟩

theorem kind_ne_image_of_mem_segmentTokens {segment : Linkify.Segment} {t : Token}
    (ht : t ∈ segment.tokens) : t.kind ≠ .image := by
  rcases Linkify.mem_segmentTokens ht with ⟨s, rfl⟩ | ⟨s, rfl⟩ | rfl <;> exact Kind.noConfusion

/-- Links in the text are no images. -/
theorem Engine.exists_beginsImage_of_linkedRun {e : Engine} {ts : List Token} {src : String}
    (h : ∃ c ∈ e.linkedRun ts, c.BeginsImage src) : ∃ c ∈ ts, c.BeginsImage src := by
  obtain ⟨c, hc, himage⟩ := h
  rcases Engine.mem_linkedRun hc with hc | ⟨segment, hc⟩
  · exact ⟨c, hc, himage⟩
  · exact absurd himage.kind (kind_ne_image_of_mem_segmentTokens hc)

/-! ### The document -/

section Parsed

variable {o : Options} {events : List Event} (ho : o.plugins = Plugin.defaults)
  (h : ProperlyNested events)

include ho

/-- The files are collected when the references have been marked. -/
theorem Options.env_parseEvents_defaults : (o.engine.parseEvents events {}).2.env
    = Plugin.Assets.collect (mapRuns (fun children => (markReferences children).1)
        (extract (o.anchored events))) (storedSession events).env := by
  rw [← Plugin.Terms.revise_fst _ (storedSession events),
    ← Plugin.Terms.env_revise (o.anchored events) (storedSession events)]
  unfold Engine.parseEvents
  rw [Options.coreRules_defaults ho]
  rfl

omit ho in
theorem Pipeline.assets_parseEvents (p : Pipeline) (events : List Event) :
    (p.parseEvents events).2.env.assets = (p.engine.parseEvents events {}).2.env.assets := by
  unfold Pipeline.parseEvents
  dsimp only
  split <;> split <;> rfl

omit ho in
/-- Nothing is recorded before the rules have their turn. -/
theorem assets_storedSession (events : List Event) : (storedSession events).env.assets = [] := by
  obtain ⟨members, hstored⟩ := exists_foldl_storeFrontMatter (assemble events).2 {}
  rw [storedSession, hstored]

include h

/-- **The images that are recorded are those of the runs** that are left when the definitions have
been taken out. -/
theorem Options.image_mem_assets_iff (src : String) :
    ⟨.image, src⟩ ∈ (o.pipeline.parseEvents events).2.env.assets ↔
      Plugin.Assets.isLocal src.toList = true ∧ ∃ run ∈ extract (o.anchored events),
        run.kind = .inline ∧ ∃ c ∈ run.children, c.BeginsImage src := by
  have hengine : o.pipeline.engine = o.engine := rfl
  have hpage := Plugin.Terms.pageContent_extract (pageContent_anchored o h)
  rw [Pipeline.assets_parseEvents, hengine, Options.env_parseEvents_defaults ho,
    Plugin.Assets.image_mem_collect_iff (assets_storedSession events),
    exists_run_mapRuns_iff (P := fun children => ∃ c ∈ children, c.BeginsImage src)]
  refine and_congr_right fun _ => exists_congr fun run => and_congr_right fun hrun => ?_
  rw [exists_beginsImage_markReferences (hpage.parts run hrun).children]

end Parsed

/-! ### The page -/

/-- What an image says is read off the page. -/
theorem attr?_image {t : Token} (h : t.HasLegibleNames) (alt : String) :
    (Html.written "img" (Html.attributes (imageAttributes t alt))).attr? "src"
      = some ((t.attr? "src").getD "") := by
  have hlegible : ∀ p ∈ imageAttributes t alt, Html.IsAttributeName p.1 := by
    simp only [imageAttributes, List.forall_mem_cons]
    exact ⟨by decide, by decide, fun p hp =>
      List.forall_mem_map.mp h p (List.mem_filter.mp hp).1⟩
  rw [Html.attr?_written "img" hlegible (by decide)]
  rfl

/-- The local images of a page are recorded. -/
def Rendered.RecordsImages (page : Rendered) : Prop :=
  ∀ tag ∈ startTags page.html, tag.name = "img" → ∀ src, tag.attr? "src" = some src →
    Plugin.Assets.isLocal src.toList = true → ⟨.image, src⟩ ∈ page.assets

/-- The local images of the runs of a document are recorded, and no others, and all other local
images on its page stand in definitions. -/
structure Options.CollectsImages (o : Options) (events : List Event) : Prop where
  /-- The images that are recorded are those of the paragraphs that define nothing, and of all
  other blocks. -/
  recorded : ∀ src, ⟨.image, src⟩ ∈ (o.pipeline.parseEvents events).2.env.assets ↔
    Plugin.Assets.isLocal src.toList = true ∧ ∃ run ∈ extract (o.anchored events),
      run.kind = .inline ∧ ∃ c ∈ run.children, c.BeginsImage src
  /-- A local image on the page, as it is before it is cleaned, is recorded, or it stands in a
  definition. -/
  shown : o.allowHtml = false → WritesNo "img" o.highlighter → ∃ page,
    (o.unsanitized.pipeline.renderEvents events).1 = .ok page ∧
    (o.pipeline.renderEvents events).1 = o.sanitized page ∧
    page.assets = (o.pipeline.parseEvents events).2.env.assets ∧
    ∀ tag ∈ startTags page.html, tag.name = "img" → ∀ src, tag.attr? "src" = some src →
      Plugin.Assets.isLocal src.toList = true →
        ⟨.image, src⟩ ∈ page.assets ∨ DefinitionShows (o.anchored events) src

section Page

variable {o : Options} {events : List Event} (ho : o.plugins = Plugin.defaults)
  (htitle : o.extractTitle = true → o.titleStrategy = Folio.extractTitle)
  (h : ProperlyNested events)

include ho h

/-- The images of a parsed document stand in its runs or in its definitions. -/
theorem Options.beginsImage_parsed {t : Token} (ht : t ∈ (o.engine.parseEvents events {}).1)
    {src : String} (himage : ∃ c ∈ t.children, c.BeginsImage src) :
    (∃ run ∈ extract (o.anchored events), run.kind = .inline ∧
      ∃ c ∈ run.children, c.BeginsImage src) ∨ DefinitionShows (o.anchored events) src := by
  by_cases hk : t.kind = .inline
  · obtain ⟨run, hrun, hkind, rfl⟩ := (Options.mem_run_parsed ho hk).mp ht
    have hcontent :=
      ((Plugin.Terms.pageContent_extract (pageContent_anchored o h)).parts run hrun).children
    exact .inl ⟨run, hrun, hkind, (exists_beginsImage_markReferences hcontent src).mp
      (Engine.exists_beginsImage_of_linkedRun himage)⟩
  · -- Only a definition has children beside the runs.
    rcases Plugin.Terms.mem_extract ((Options.mem_parsed_of_ne ho hk).mp ht) with
      ht | ⟨a, run, b, hrow, hd⟩
    · obtain ⟨c, hc, -⟩ := himage
      rw [(o.isBlock_anchored events t ht).bare hk] at hc
      cases hc
    · obtain ⟨term, hterm⟩ := Plugin.Terms.exists_attr?_key hd
      refine .inr ⟨a, run, b, term, hrow, Plugin.Terms.isDefinition_iff.mpr ⟨t, hd, hterm⟩, ?_⟩
      refine (Plugin.Terms.exists_mem_definition_iff hd fun c hc hbegins => ?_).mp himage
      exact absurd (hc.symm.trans hbegins.kind) (by decide)

include htitle

/-- An image on the page is one of a run or of a definition. -/
theorem Options.beginsImage_of_tag (hhtml : o.allowHtml = false)
    (hhighlighter : WritesNo "img" o.highlighter) {env : Environment} {tag : Html.StartTag}
    (htag : tag ∈ startTags (o.pageOf (o.pipeline.parseEvents events).1 env).html)
    (hname : tag.name = "img") {src : String} (hsrc : tag.attr? "src" = some src)
    (hlocal : Plugin.Assets.isLocal src.toList = true) :
    ∃ t ∈ (o.engine.parseEvents events {}).1, ∃ c ∈ t.children, c.BeginsImage src := by
  have hbuiltins := Options.usesBuiltins_of_defaults ho htitle
  obtain ⟨hpage, -, -⟩ := pipeline_parseEvents_spec hbuiltins h
  have hkept := Options.keepsTokens hbuiltins h
  have hmem : tag.name ∈ tracedElements := by rw [hname]; decide
  rcases Options.element_of_mem_startTags hhtml hbuiltins hpage htag hmem
    (hname.symm ▸ hhighlighter) with ⟨t, ht, c, hc, pairs, hbecomes, htag⟩ | ⟨t, -, -, rfl⟩
  · rw [hname] at hbecomes htag
    obtain ⟨hk, hn, alt, rfl⟩ := Token.becomes_img_iff.mp hbecomes
    have hlegible := Options.legible_parsed ho (hkept.sublist.subset ht) c hc
    rw [htag, attr?_image hlegible, Option.some.injEq] at hsrc
    refine ⟨t, hkept.sublist.subset ht, c, hc, hk, hn, ?_⟩
    cases hattr : c.attr? "src" with
    | some src' => rw [← hsrc, hattr, Option.getD_some]
    | none =>
      -- Without an address the image has the empty one, which is not local.
      rw [hattr, Option.getD_none] at hsrc
      rw [← hsrc] at hlocal
      exact absurd hlocal (by decide)
  · rw [Html.name_written] at hname
    exact absurd hname (by decide)

end Page

namespace Pipeline

/-- **An image on the page is recorded, or it stands in a definition.** -/
theorem collectsImages_renderEvents (o : Options) (ho : o.plugins = Plugin.defaults)
    (htitle : o.extractTitle = true → o.titleStrategy = Folio.extractTitle) :
    (∀ events, ProperlyNested events → o.CollectsImages events) ∧
      ∀ input, o.CollectsImages (Engine.readEvents input) := by
  have hevents : ∀ events, ProperlyNested events → o.CollectsImages events := by
    intro events h
    have hbuiltins := Options.usesBuiltins_of_defaults ho htitle
    have hrecorded := fun src => Options.image_mem_assets_iff ho h src
    obtain ⟨hpage, -, hdeferred⟩ := pipeline_parseEvents_spec hbuiltins h
    refine ⟨hrecorded, fun hhtml hhighlighter => ?_⟩
    obtain ⟨hcompiled, hsanitized⟩ := Options.renderEvents_eq_pageOf hbuiltins hpage hdeferred
    refine ⟨_, hcompiled, hsanitized, rfl, fun tag htag hname src hsrc hlocal => ?_⟩
    obtain ⟨t, ht, himage⟩ :=
      Options.beginsImage_of_tag ho htitle h hhtml hhighlighter htag hname hsrc hlocal
    exact (Options.beginsImage_parsed ho h ht himage).imp_left fun hrun =>
      (hrecorded src).mpr ⟨hlocal, hrun⟩
  exact ⟨hevents, fun input => hevents _ (Markdown.shaped_blockEvents _).properlyNested⟩

/-- An image in a paragraph and one in a definition, with an address that is recorded. -/
theorem collectsImages_render_both :
    ({} : Options).CollectsImages (Engine.readEvents "![p](x.png)

[*a]: see ![p](x.png)") ∧
    (({} : Options).pipeline.render "![p](x.png)

[*a]: see ![p](x.png)").1.toOption.map
      Rendered.assets = some [⟨.image, "x.png"⟩] :=
  ⟨(collectsImages_renderEvents {} rfl fun _ => rfl).2 _, by decide +kernel⟩

/-- An image in a definition stands on the page and is not recorded. -/
theorem not_recordsImages_render : ∃ page,
    (({} : Options).pipeline.render "[*a]: see ![p](x.png)").1 = .ok page ∧
    page.html
      = "<dfn class=\"term-definition\" id=\"term-a\">see <img src=\"x.png\" alt=\"p\"></dfn>" ∧
    page.assets = [] ∧ ¬page.RecordsImages := by
  have hparts : (({} : Options).pipeline.render "[*a]: see ![p](x.png)").1.toOption.map
      (fun page => (page.html, page.assets)) = some
        ("<dfn class=\"term-definition\" id=\"term-a\">see <img src=\"x.png\" alt=\"p\"></dfn>",
          []) := by
    decide +kernel
  cases hrender : (({} : Options).pipeline.render "[*a]: see ![p](x.png)").1 with
  | error e =>
    rw [hrender] at hparts
    cases hparts
  | ok page =>
    rw [hrender] at hparts
    obtain ⟨hhtml, hassets⟩ := Prod.mk.inj (Option.some.inj hparts)
    refine ⟨page, rfl, hhtml, hassets, fun h => ?_⟩
    have himage := h ⟨"img", [("src", "x.png"), ("alt", "p")]⟩ (by rw [hhtml]; decide +kernel) rfl
      "x.png" rfl (by decide)
    rw [hassets] at himage
    exact absurd himage List.not_mem_nil

end Pipeline

end Folio
