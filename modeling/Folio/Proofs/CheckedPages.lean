import Folio.Plugin.Script
import Folio.Proofs.RenderRules
import Folio.Proofs.StageOrder

/-!
# Pages of checked tokens

After each processor the tokens are checked: every token that opens something is to have its
partner.  Rendering is another walk through the tokens, and it goes further than the check.  It goes
into the children of runs and of tokens of a plugin's own kind, which the check never sees, and it
has a way of its own with headings: one that neither opens nor closes becomes an end tag.

So what a pipeline has checked becomes a well nested page if the children are nested too, except
that there must be no such heading.  With one there is always an end tag too many.

## Main definitions

* `Token.IsNestedWithin` — the children of a token are nested, at every depth.
* `Token.isLoneHeading` — a heading that neither opens nor closes.
* `Renderer.IsBare`, `Options.IsBare` — nothing but the renderer itself writes tags.

## Main results

* `Renderer.hasTags_blockPiece` — a token becomes one tag or balanced tags.
* `Renderer.balanced_tags_blocks_iff` — the tags of nested tokens are balanced exactly if no heading
  is alone.
* `Options.wellNested_compile_iff` — **the page of a checked list whose children are nested is well
  nested exactly if no heading is alone.**
-/

namespace Folio

open BracketOf (IsBalanced excess)
open Html (Markup WellNested)

/-! ### Tokens with their children -/

/-- The children of the token are nested, and so are theirs. -/
inductive Token.IsNestedWithin : Token → Prop
  | intro {t : Token} (children : Nested t.children)
      (within : ∀ c ∈ t.children, c.IsNestedWithin) : t.IsNestedWithin

/-- A heading that neither opens nor closes. -/
def Token.isLoneHeading (t : Token) : Bool := t.kind.isHeading && t.nesting == .single

namespace Renderer

variable {r : Renderer} {t : Token} {ts : List Token} {name : String}

/-- Raw HTML is escaped, nothing is highlighted, and there are no rules. -/
structure IsBare (r : Renderer) : Prop where
  html : r.allowHtml = false
  highlighter : r.highlighter = none
  rules : r.rules = []

theorem IsBare.isBuiltin (hr : r.IsBare) : r.IsBuiltin :=
  ⟨hr.html, hr.highlighter, fun name => .inl (by rw [hr.rules]; rfl)⟩

/-! ### The tags of inline tokens -/

theorem hasTags_tagMarkup {name? : Kind → Option String} (hname : name? t.kind = some name)
    (hvoid : Html.voidNames.contains name = false) : t.HasTags name? (tags (tagMarkup name t)) := by
  cases hn : t.nesting with
  | opening =>
    rw [hasTags_of_some (namedBracket?_opening hn hname)]
    exact tags_tagMarkup_opening hvoid hn
  | closing =>
    rw [hasTags_of_some (namedBracket?_closing hn hname)]
    exact tags_tagMarkup_closing name hn
  | single =>
    have htags : tags (tagMarkup name t) = [.opening name, .closing name] := by
      rw [tagMarkup, hn]
      simp only [tags]
      rw [List.filterMap_cons_some (bracket?_startTag hvoid _)]
      rfl
    rw [hasTags_of_none (namedBracket?_single hn), htags]
    exact BracketOf.balanced_nil.enclose name

theorem hasTags_of_balanced {name? : Kind → Option String} {word : List (BracketOf String)}
    (hname : name? t.kind = none) (h : IsBalanced word) : t.HasTags name? word :=
  (hasTags_of_none (namedBracket?_of_none hname)).mpr h

/-- Without rules a token of a plugin's own kind stands for its children or its content. -/
theorem balanced_tags_customMarkup (hr : r.IsBare)
    (h : IsBalanced (tags (r.inlinesFrom 0 t.children))) (name : String) :
    IsBalanced (tags (r.customMarkup name t)) := by
  rw [customMarkup_eq, hr.rules, List.lookup_nil]
  dsimp only
  split
  · exact BracketOf.balanced_nil
  · exact h

/-- The tags of an inline token whose children have balanced tags. -/
theorem hasTags_inlinePiece_of_children (hr : r.IsBare)
    (h : IsBalanced (tags (r.inlinesFrom 0 t.children))) :
    t.HasTags r.inlineName? (tags (r.inlinePiece t)) := by
  have hcustom := balanced_tags_customMarkup hr h
  unfold inlinePiece inlineMarkup
  cases hk : t.kind with
  | emphasis | strong | strikethrough | superscript | subscript | link =>
    exact hasTags_tagMarkup (by rw [hk]; rfl) (by decide)
  | custom name =>
    refine hasTags_of_balanced ?_ (hcustom name)
    rw [hk, inlineName?, hr.rules]
    rfl
  | codeInline =>
    exact hasTags_of_balanced (by rw [hk]; rfl) (BracketOf.balanced_nil.enclose "code")
  | htmlInline =>
    refine hasTags_of_balanced (by rw [hk]; rfl) ?_
    rw [rawMarkup, hr.html]
    exact BracketOf.balanced_nil
  | softBreak =>
    refine hasTags_of_balanced (by rw [hk]; rfl) ?_
    cases r.breaks <;> exact BracketOf.balanced_nil
  | image =>
    refine hasTags_of_balanced (by rw [hk]; rfl) ?_
    cases t.isClosing <;> exact BracketOf.balanced_nil
  | _ => exact hasTags_of_balanced (by rw [hk]; rfl) BracketOf.balanced_nil

theorem balanced_tags_inlinesFrom (hr : r.IsBare) (h : t.IsNestedWithin) :
    IsBalanced (tags (r.inlinesFrom 0 t.children)) := by
  induction h with
  | intro children _ ih =>
    exact balanced_tags_of_hasTags children fun c hc _ =>
      hasTags_inlinePiece_of_children hr (ih c hc)

/-! ### The tags of blocks -/

/-- The name of the element that a pair of tokens of a kind becomes among blocks. -/
def elementName? (r : Renderer) (k : Kind) : Option String :=
  if k.isBlockPair then some (blockName k) else r.inlineName? k

theorem blockPiece_of_isBlockPair (hk : t.kind.isBlockPair = true) (hshown : t.hidden = false)
    (hlone : t.isLoneHeading = false) : r.blockPiece t = tagMarkup (blockName t.kind) t := by
  have hpiece : r.blockPiece t = r.blockMarkup t := by
    unfold blockPiece
    cases hkind : t.kind <;> simp [hkind, Kind.isBlockPair] at hk ⊢
  rw [hpiece]
  by_cases hn : t.nesting = .single
  · -- All blocks but headings have their two tags at once.
    unfold blockMarkup
    rw [hshown]
    cases hkind : t.kind with
    | heading n => simp [Token.isLoneHeading, hkind, hn, Kind.isHeading] at hlone
    | _ => first | rfl | simp [hkind, Kind.isBlockPair] at hk
  · rw [blockMarkup_pair r hk hn, hshown]
    rfl

theorem balanced_tags_codeMarkup (hr : r.IsBare) (t : Token) :
    IsBalanced (tags (r.codeMarkup t)) := by
  unfold codeMarkup
  rw [hr.highlighter]
  cases (firstWord? t.info).map (resolveLang r.langs) <;>
    exact (BracketOf.balanced_nil.enclose "code").enclose "pre"

/-- **A token becomes one tag or balanced tags**, unless it is a heading that is alone. -/
theorem hasTags_blockPiece (hr : r.IsBare) (h : t.IsNestedWithin) (hshown : t.hidden = false)
    (hlone : t.isLoneHeading = false) : t.HasTags r.elementName? (tags (r.blockPiece t)) := by
  have hchildren := balanced_tags_inlinesFrom hr h
  cases hk : t.kind.isBlockPair with
  | true =>
    rw [blockPiece_of_isBlockPair hk hshown hlone]
    exact hasTags_tagMarkup (by rw [elementName?, if_pos hk]) (blockName_not_void t.kind)
  | false =>
    have hname : r.elementName? t.kind = r.inlineName? t.kind := by
      rw [elementName?, hk]
      rfl
    have hcustom := balanced_tags_customMarkup hr hchildren
    have hinline := (hasTags_congr hname).mpr (hasTags_inlinePiece_of_children hr hchildren)
    unfold inlinePiece at hinline
    unfold blockPiece blockMarkup
    rw [hshown]
    cases hkind : t.kind with
    | fence => exact hasTags_of_balanced (by rw [hname, hkind]; rfl) (balanced_tags_codeMarkup hr t)
    | htmlBlock =>
      refine hasTags_of_balanced (by rw [hname, hkind]; rfl) ?_
      simp only [Bool.false_eq_true, if_false, rawMarkup, hr.html]
      exact BracketOf.balanced_nil
    | rule => exact hasTags_of_balanced (by rw [hname, hkind]; rfl) BracketOf.balanced_nil
    | inline => exact hasTags_of_balanced (by rw [hname, hkind]; rfl) hchildren
    | custom name =>
      rw [hkind] at hinline
      exact hinline
    | _ =>
      first
      | (rw [hkind] at hinline; exact hinline)
      | simp [hkind, Kind.isBlockPair] at hk

/-- A heading that is alone becomes an end tag. -/
theorem tags_blockPiece_of_isLoneHeading (hshown : t.hidden = false)
    (hlone : t.isLoneHeading = true) : ∃ name, tags (r.blockPiece t) = [.closing name] := by
  obtain ⟨hheading, hn⟩ := Bool.and_eq_true_iff.mp hlone
  obtain ⟨n, hk⟩ := Kind.exists_of_isHeading hheading
  have hn : t.nesting = .single := by simpa using hn
  refine ⟨"h" ++ toString n, ?_⟩
  rw [blockPiece_heading r hk, hshown]
  simp [Token.isOpening, hn, tags, Markup.bracket?]

/-! ### The tags of a list of blocks -/

/-- The pairs of a list, by the names of the elements that they become. -/
def namedBrackets (r : Renderer) (ts : List Token) : List (BracketOf String) :=
  ts.filterMap (Token.namedBracket? r.elementName?)

theorem namedBrackets_cons (r : Renderer) (t : Token) (ts : List Token) :
    r.namedBrackets (t :: ts)
      = (t.namedBracket? r.elementName?).toList ++ r.namedBrackets ts := by
  cases hb : t.namedBracket? r.elementName? with
  | none =>
    rw [namedBrackets, List.filterMap_cons_none hb]
    rfl
  | some b =>
    rw [namedBrackets, List.filterMap_cons_some hb]
    rfl

theorem balanced_namedBrackets (r : Renderer) (h : Nested ts) :
    IsBalanced (r.namedBrackets ts) := by
  have hmap := h.balanced.filterMap_map? r.elementName?
  rwa [brackets, bracketsBy, List.filterMap_filterMap] at hmap

theorem tags_blocks (r : Renderer) (ts : List Token) :
    tags (r.blocks ts) = ts.flatMap fun t => tags (r.blockPiece t) := by
  rw [blocks_eq_flatMap]
  exact List.filterMap_flatMap

theorem excess_eq_of_hasTags {name? : Kind → Option String} {word : List (BracketOf String)}
    (h : t.HasTags name? word) : excess word = excess (t.namedBracket? name?).toList := by
  cases hb : t.namedBracket? name? with
  | none =>
    rw [hasTags_of_none hb] at h
    exact h.excess_eq
  | some b =>
    rw [hasTags_of_some hb] at h
    rw [h]
    rfl

/-- Each heading that is alone closes an element that nothing has opened. -/
theorem excess_tags_blocks (hr : r.IsBare) (hshown : ∀ t ∈ ts, t.hidden = false)
    (hwithin : ∀ t ∈ ts, t.IsNestedWithin) :
    excess (tags (r.blocks ts)) + ts.countP Token.isLoneHeading = excess (r.namedBrackets ts) := by
  rw [tags_blocks]
  induction ts with
  | nil => rfl
  | cons t ts ih =>
    have ih := ih (fun u hu => hshown u (List.mem_cons_of_mem t hu))
      fun u hu => hwithin u (List.mem_cons_of_mem t hu)
    have hshown := hshown t List.mem_cons_self
    rw [List.flatMap_cons, BracketOf.excess_append, namedBrackets_cons, BracketOf.excess_append]
    cases hlone : t.isLoneHeading with
    | true =>
      obtain ⟨name, htags⟩ := tags_blockPiece_of_isLoneHeading (r := r) hshown hlone
      have hn : t.nesting = .single := by simpa using (Bool.and_eq_true_iff.mp hlone).2
      rw [List.countP_cons_of_pos hlone, htags, namedBracket?_single hn]
      simp only [excess, Option.toList_none]
      omega
    | false =>
      have htags := hasTags_blockPiece hr (hwithin t List.mem_cons_self) hshown hlone
      rw [List.countP_cons_of_neg (by simp [hlone]), excess_eq_of_hasTags htags]
      omega

/-- **The tags of nested tokens are balanced exactly if no heading is alone.** -/
theorem balanced_tags_blocks_iff (hr : r.IsBare) (hts : Nested ts)
    (hshown : ∀ t ∈ ts, t.hidden = false) (hwithin : ∀ t ∈ ts, t.IsNestedWithin) :
    IsBalanced (tags (r.blocks ts)) ↔ ∀ t ∈ ts, t.isLoneHeading = false := by
  have hnamed := r.balanced_namedBrackets hts
  constructor
  · intro h
    have hcount := excess_tags_blocks hr hshown hwithin
    rw [h.excess_eq, hnamed.excess_eq] at hcount
    have hzero : ts.countP Token.isLoneHeading = 0 := by omega
    simpa using List.countP_eq_zero.mp hzero
  · intro hlone
    have htags : ∀ t ∈ ts, t.HasTags r.elementName? (tags (r.blockPiece t)) :=
      fun t ht => hasTags_blockPiece hr (hwithin t ht) (hshown t ht) (hlone t ht)
    rw [tags_blocks]
    refine BracketOf.balanced_flatMap some _ _ (fun t ht b hb => ?_) (fun t ht hb => ?_) hnamed
    · rw [(hasTags_of_some hb).mp (htags t ht)]
      cases b <;> rfl
    · exact (hasTags_of_none hb).mp (htags t ht)

/-- **The page of nested tokens is well nested exactly if no heading is alone.** -/
theorem wellNested_render_iff (hr : r.IsBare) (hts : Nested ts)
    (hshown : ∀ t ∈ ts, t.hidden = false) (hwithin : ∀ t ∈ ts, t.IsNestedWithin) :
    WellNested (r.render ts) ↔ ∀ t ∈ ts, t.isLoneHeading = false := by
  rw [render, Html.wellNested_writeAll_iff (allPlain_blocks hr.isBuiltin ts)]
  exact balanced_tags_blocks_iff hr hts hshown hwithin

end Renderer

/-! ### What a pipeline has checked -/

section Checked

variable {options : PluginOptions} {e : Engine} {plugins : List Plugin} {ts ts' : List Token}
  {s s' : Session}

/-- Nested tokens stay nested, since all that a processor returns is checked. -/
theorem PassAll.nested (h : PassAll options e plugins ts s ts' s') (hts : Nested ts) :
    Nested ts' := by
  induction h with
  | nil => exact hts
  | skip _ _ ih => exact ih hts
  | pass hpass _ ih =>
    obtain ⟨-, -, -, hmid⟩ := hpass
    exact ih hmid

/-- One processor is enough for the tokens to be checked. -/
theorem PassAll.nested_of_processor (h : PassAll options e plugins ts s ts' s')
    (hprocessor : ∃ plugin ∈ plugins, plugin.processor ≠ none) : Nested ts' := by
  induction h with
  | nil =>
    obtain ⟨plugin, hmem, -⟩ := hprocessor
    cases hmem
  | skip hnone _ ih =>
    obtain ⟨plugin, hmem, hsome⟩ := hprocessor
    rcases List.mem_cons.mp hmem with rfl | hmem
    · exact absurd hnone hsome
    · exact ih ⟨plugin, hmem, hsome⟩
  | pass hpass hrest _ =>
    obtain ⟨-, -, -, hmid⟩ := hpass
    exact hrest.nested hmid

end Checked

namespace Options

/-- Raw HTML is escaped, nothing is highlighted, no plugin renders anything, and the page is not
cleaned. -/
structure IsBare (o : Options) : Prop where
  html : o.allowHtml = false
  highlighter : o.highlighter = none
  rules : ∀ plugin ∈ o.plugins, plugin.renderRules = []
  sanitize : o.sanitize = none

variable {o : Options}

theorem IsBare.rendererIn (ho : o.IsBare) (env : Environment) :
    (o.engine.rendererIn env).IsBare := by
  refine ⟨(o.allowHtml_rendererIn env).trans ho.html,
    (o.highlighter_rendererIn env).trans ho.highlighter, ?_⟩
  rw [Engine.rendererIn, renderer_engine]
  simpa using ho.rules

/-- **The page of a checked list whose children are nested is well nested exactly if no heading is
alone.**  The plugins may be any that leave rendering alone, and one of them has a processor, so
that the tokens are checked. -/
theorem wellNested_compile_iff (ho : o.IsBare)
    (hprocessor : ∃ plugin ∈ o.plugins, plugin.processor ≠ none) {ts ts' : List Token}
    {s s' : Session} (hrun : o.pipeline.process ts s = (.ok ts', s'))
    (hdeferred : s'.env.deferred = []) (hshown : ∀ t ∈ ts', t.hidden = false)
    (hwithin : ∀ t ∈ ts', t.IsNestedWithin) :
    ∃ html, (o.pipeline.compile ts' s').1 = .ok html ∧
      (WellNested html ↔ ∀ t ∈ ts', t.isLoneHeading = false) := by
  have hnested := ((o.runsInOrder ts s).succeeds ts' s').mp hrun |>.nested_of_processor hprocessor
  have hpage := Renderer.wellNested_render_iff (ho.rendererIn s'.env.takeDeferred.2) hnested hshown
    hwithin
  refine ⟨o.engine.render ts' s'.env.takeDeferred.2, ?_, hpage⟩
  simp [Pipeline.compile, Environment.takeDeferred, hdeferred, pipeline, ho.sanitize]

/-- A pipeline whose one plugin puts a token at the beginning. -/
def inserting (t : Token) : Options where
  plugins := [Script.plugin { name := "insert", process := some [.insert 0 t] }]

theorem isBare_inserting (t : Token) : (inserting t).IsBare :=
  ⟨rfl, rfl, by simp [inserting, Script.plugin], rfl⟩

theorem processor_inserting (t : Token) :
    ∃ plugin ∈ (inserting t).plugins, plugin.processor ≠ none :=
  ⟨_, List.mem_singleton.mpr rfl, by simp [Script.plugin]⟩

/-- A run of strong text. -/
def strongRun : Token :=
  .inlineRun [.mark .strong .opening, .text "a", .mark .strong .closing] 0

theorem wellNested_compile_strongRun :
    ∃ html, ((inserting strongRun).pipeline.compile [strongRun] {}).1 = .ok html ∧
      (WellNested html ↔ ∀ t ∈ [strongRun], t.isLoneHeading = false) := by
  have hchildren : Nested strongRun.children :=
    nested_of_balanced (by decide)
  have hwithin : strongRun.IsNestedWithin := by
    refine .intro hchildren fun c hc => .intro ?_ fun d hd => ?_ <;>
      simp only [strongRun, Token.inlineRun, List.mem_cons, List.not_mem_nil, or_false] at hc <;>
      rcases hc with rfl | rfl | rfl
    · exact .nil
    · exact .nil
    · exact .nil
    · cases hd
    · cases hd
    · cases hd
  have hrun : (inserting strongRun).pipeline.process [] {} = (.ok [strongRun], {}) := rfl
  exact wellNested_compile_iff (isBare_inserting strongRun) (processor_inserting strongRun) hrun rfl
    (by decide) (by simpa using hwithin)

/-- A run with strong text that does not end. -/
def openRun : Token := .inlineRun [.mark .strong .opening] 0

/-- **What has been checked may still become a page that is not well nested**: the check does not
see the children of a run. -/
theorem not_wellNested_compile : ¬ ∀ (o : Options) (ts ts' : List Token) (s s' : Session),
    o.IsBare → (∃ plugin ∈ o.plugins, plugin.processor ≠ none) →
    o.pipeline.process ts s = (.ok ts', s') → s'.env.deferred = [] →
    (∀ t ∈ ts', t.hidden = false) →
    ∃ html, (o.pipeline.compile ts' s').1 = .ok html ∧ WellNested html := by
  intro h
  obtain ⟨html, hhtml, hnested⟩ := h (inserting openRun) [] [openRun] {} {}
    (isBare_inserting openRun) (processor_inserting openRun) rfl rfl (by decide)
  have hpage : ((inserting openRun).pipeline.compile [openRun] {}).1 = .ok "<strong>" := rfl
  rw [hpage] at hhtml
  injection hhtml with hhtml
  subst hhtml
  exact absurd hnested (by unfold WellNested; decide)

end Options

end Folio
