import Folio.Proofs.HtmlInTexts
import Folio.Proofs.ParsedTerms
import Folio.Proofs.TagTexts

/-!
# Raw HTML in the runs of a document

The HTML that stands in the texts of a document goes into its runs piece by piece, and the lines of
an HTML block never do.  No rule brings raw HTML into a run, and none changes what is there: blocks
of attributes are cut off texts only, and so are the marks of definitions.  So every piece in a run
ends with its bracket, as it did in the source, and whoever reads the piece when it has been passed
through is left in no tag.

## Main definitions

* `Token.EndsTag` — the token is no raw HTML, or ends with its bracket.
* `Assembly.EndsTags` — so do all inline tokens that have been put together.

## Main results

* `Token.EndsTag.closed` — such a token leaves no tag unfinished.
* `Markdown.endsTag_assemble` — all raw HTML in the runs of a document ends with its bracket.
* `Options.endsTag_parsed` — **the rules leave it so.**
-/

namespace Folio

open Html (unfinished unfinished_append)
open Markdown (EndsTags Event assemble)
open Plugin.Terms (extract forall_children_definition markReferences mem_extract)

/-- The token is no raw HTML, or a piece that ends with its bracket. -/
def Token.EndsTag (t : Token) : Prop :=
  t.kind = .htmlInline → t.content.toList.getLast? = some '>'

namespace Token

theorem endsTag_of_ne {t : Token} (h : t.kind ≠ .htmlInline) : t.EndsTag := fun hk => absurd hk h

/-- Behind its bracket a piece of HTML is in no tag. -/
theorem EndsTag.closed {t : Token} (h : t.EndsTag) (hk : t.kind = .htmlInline) :
    unfinished none t.content.toList = none := by
  obtain ⟨front, hfront⟩ := List.getLast?_eq_some_iff.mp (h hk)
  rw [hfront, unfinished_append]
  cases unfinished none front with
  | none => rfl
  | some tag => rfl

theorem BroughtBy.endsTag {t : Token} {e : Event} (h : t.BroughtBy e) (he : e.EndsTag) :
    t.EndsTag := by
  intro hk
  rcases h.raw hk with rfl | rfl
  · exact he.elim
  · exact he

end Token

/-! ### The source -/

namespace Markdown.Assembly

/-- All raw HTML in the runs so far ends with its bracket. -/
structure EndsTags (a : Assembly) : Prop where
  tokens : ∀ t ∈ a.tokens, ∀ c ∈ t.children, c.EndsTag
  run : ∀ run ∈ a.run, ∀ c ∈ run.children, c.EndsTag
  capture : Capture.Sound a.capture

namespace EndsTags

variable {a : Assembly}

/-- A token without children adds nothing to the runs. -/
theorem push (h : a.EndsTags) {t : Token} (hc : t.children = []) : (a.push t).EndsTags := by
  refine ⟨List.forall_mem_cons.mpr ⟨?_, h.tokens⟩, h.run, h.capture⟩
  rw [hc]
  exact List.forall_mem_nil _

theorem withStack (h : a.EndsTags) (stack : List Kind) : EndsTags { a with stack } :=
  ⟨h.tokens, h.run, h.capture⟩

theorem flush (h : a.EndsTags) : a.flush.EndsTags := by
  cases hr : a.run with
  | none => rwa [flush_of_none hr]
  | some run =>
    obtain ⟨children, implicit⟩ := run
    have hrun : ∀ c ∈ (Token.inlineRun children.reverse a.level).children, c.EndsTag :=
      fun c hc => h.run _ hr c (List.mem_reverse.mp hc)
    have hpushed : EndsTags ({ a with run := none }.push
        (.inlineRun children.reverse a.level)) :=
      ⟨List.forall_mem_cons.mpr ⟨hrun, h.tokens⟩, nofun, h.capture⟩
    cases implicit with
    | false =>
      rw [flush_of_explicit hr]
      exact hpushed
    | true =>
      rw [flush_of_implicit hr]
      exact (hpushed.withStack a.stack.tail).push rfl

theorem closeBlock (h : a.EndsTags) : a.closeBlock.EndsTags := by
  cases hs : a.flush.stack with
  | nil =>
    rw [closeBlock_of_nil hs]
    exact h.flush
  | cons kind outer =>
    rw [closeBlock_of_cons hs]
    exact (h.flush.withStack outer).push rfl

theorem endCapture (h : a.EndsTags) : a.endCapture.EndsTags := by
  have hnone : EndsTags { a with capture := none } := ⟨h.tokens, h.run, Capture.sound_none⟩
  unfold Assembly.endCapture
  split
  · next fence hfence =>
    obtain ⟨-, -, hbare⟩ := h.capture fence hfence
    exact hnone.push hbare
  · exact hnone.push rfl
  · exact ⟨h.tokens, h.run, Capture.sound_none⟩
  · exact h

theorem blockStep {b : Assembly} (hstep : BlockStep a b) (h : a.EndsTags) : b.EndsTags := by
  cases hstep with
  | flush => exact h.flush
  | openBlock hn hk hc hh => exact (h.flush.withStack _).push hc
  | closeBlock => exact h.closeBlock
  | startRun =>
    refine ⟨h.tokens, fun run hrun => ?_, h.capture⟩
    obtain rfl := Option.some.inj hrun
    exact List.forall_mem_nil _
  | rule level => exact h.push rfl
  | capture hc => exact ⟨h.tokens, h.run, hc h.capture⟩
  | endCapture => exact h.endCapture
  | note ht hs hr hc => exact ⟨ht ▸ h.tokens, hr ▸ h.run, hc ▸ h.capture⟩

theorem pushInline (h : a.EndsTags) {t : Token} (ht : t.EndsTag) : (a.pushInline t).EndsTags := by
  cases hr : a.run with
  | none =>
    -- Outside of all runs a token opens a hidden paragraph of its own.
    rw [pushInline_of_none hr]
    have hopened : EndsTags { a with run := some ⟨[t], true⟩ } := by
      refine ⟨h.tokens, fun run hrun => ?_, h.capture⟩
      obtain rfl := Option.some.inj hrun
      exact List.forall_mem_singleton.mpr ht
    exact (hopened.withStack (.paragraph :: a.stack)).push rfl
  | some run =>
    rw [pushInline_of_some hr]
    refine ⟨h.tokens, fun run' hrun' => ?_, h.capture⟩
    obtain rfl := Option.some.inj hrun'
    have hchildren := h.run run hr
    unfold addInline
    dsimp only
    split
    · next last before hlast =>
      rw [hlast] at hchildren
      split
      · next htexts =>
        -- What is joined is text.
        have hkind : last.kind = .text := beq_iff_eq.mp (Bool.and_eq_true_iff.mp htexts).2
        exact List.forall_mem_cons.mpr ⟨Token.endsTag_of_ne (by simp [hkind]),
          (List.forall_mem_cons.mp hchildren).2⟩
      · exact List.forall_mem_cons.mpr ⟨ht, hlast ▸ hchildren⟩
    · exact List.forall_mem_singleton.mpr ht

theorem event (h : a.EndsTags) {e : Event} (he : e.EndsTag) : (a.event e).EndsTags :=
  event_preserves blockStep (fun ht hb => hb.pushInline (ht.endsTag he)) h

/-- **The HTML of a block goes into its token**, and that of the texts into the runs. -/
theorem foldl {events : List Event} (hevents : Markdown.EndsTags events) :
    ∀ {a : Assembly}, a.EndsTags → (events.foldl Assembly.event a).EndsTags := by
  induction hevents with
  | nil => exact fun h => h
  | cons he _ ih => exact fun h => ih (h.event he)
  | block source _ ih =>
    intro a h
    rw [List.foldl_append]
    -- Between the two ends of the block its lines are captured, so they meet no run.
    have hcaptured : EndsTags { a.flush with capture := some (.html ("" ++ source)) } :=
      ⟨h.flush.tokens, h.flush.run, nofun⟩
    exact ih hcaptured.endCapture

end EndsTags

end Markdown.Assembly

/-- **All raw HTML in the runs of a document ends with its bracket.** -/
theorem Markdown.endsTag_assemble {events : List Event} (h : EndsTags events) :
    ∀ t ∈ (assemble events).1, ∀ c ∈ t.children, c.EndsTag := by
  have hempty : Assembly.EndsTags {} := ⟨List.forall_mem_nil _, nofun, Assembly.Capture.sound_none⟩
  have hfinished := Assembly.finish_preserves Assembly.EndsTags.blockStep
    (Assembly.EndsTags.foldl h hempty)
  exact fun t ht => hfinished.tokens t (List.mem_reverse.mp ht)

/-! ### The rules -/

theorem isKeptInRuns_endsTag (d : Delimiters) : IsKeptInRuns d Token.EndsTag where
  withContent htext _ content hhtml := by
    change _ = Kind.htmlInline at hhtml
    rw [Token.withContent, htext] at hhtml
    cases hhtml
  apply {_ _ block} _ t h := by
    obtain ⟨attrs, info, heq⟩ := block.sameButAttrs_apply t
    rw [heq]
    exact h

section Rules

variable {ts : List Token}

theorem SameButAttrs.children {t u : Token} (h : SameButAttrs t u) : u.children = t.children := by
  obtain ⟨attrs, info, rfl⟩ := h
  rfl

theorem Plugin.Attributes.endsTag_revise (d : Delimiters)
    (h : ∀ t ∈ ts, ∀ c ∈ t.children, c.EndsTag) :
    ∀ t ∈ revise d ts, ∀ c ∈ t.children, c.EndsTag := by
  have hstripped := forall₂_stripped d
    (R := fun t u => (∀ c ∈ t.children, c.EndsTag) → ∀ c ∈ u.children, c.EndsTag)
    (fun _ => id) ts (fun _ _ _ _ => forall_children_strippedRun (isKeptInRuns_endsTag d)) []
  exact forall_mem_of_forall₂ (forall₂_revise d ts) (fun htu ht => htu.children ▸ ht)
    (forall_mem_of_forall₂ hstripped (fun htu => htu) h)

theorem Plugin.Anchors.endsTag_revise (h : ∀ t ∈ ts, ∀ c ∈ t.children, c.EndsTag) :
    ∀ t ∈ revise ts, ∀ c ∈ t.children, c.EndsTag :=
  forall_mem_of_forall₂ (forall₂_assign ts _) (fun htu ht => htu.children ▸ ht) h

/-- A definition has the raw HTML of its paragraph. -/
theorem Plugin.Terms.endsTag_extract (h : ∀ t ∈ ts, ∀ c ∈ t.children, c.EndsTag) :
    ∀ t ∈ extract ts, ∀ c ∈ t.children, c.EndsTag := by
  intro t ht
  rcases mem_extract ht with ht | ⟨o, run, c, hrow, hd⟩
  · exact h t ht
  · exact forall_children_definition (isKeptInRuns_endsTag ⟨"", ""⟩).withContent hd
      (h run (hrow.subset (by simp)))

theorem endsTag_mapRuns {f : List Token → List Token}
    (hf : ∀ {children}, (∀ c ∈ children, c.EndsTag) → ∀ c ∈ f children, c.EndsTag)
    (h : ∀ t ∈ ts, ∀ c ∈ t.children, c.EndsTag) :
    ∀ t ∈ mapRuns f ts, ∀ c ∈ t.children, c.EndsTag := by
  refine List.forall_mem_map.mpr fun t ht => ?_
  split
  · exact hf (h t ht)
  · exact h t ht

theorem endsTag_markReferences {children : List Token} (h : ∀ c ∈ children, c.EndsTag) :
    ∀ c ∈ (markReferences children).1, c.EndsTag := by
  intro c hc
  rcases mem_markReferences hc with hc | ⟨key, rfl⟩ | rfl
  · exact h c hc
  · exact Token.endsTag_of_ne Kind.noConfusion
  · exact Token.endsTag_of_ne Kind.noConfusion

theorem endsTag_linkChildren {l : Linkify} {children : List Token}
    (h : ∀ c ∈ children, c.EndsTag) : ∀ c ∈ l.linkChildren 0 children, c.EndsTag := by
  intro c hc
  rcases Linkify.mem_linkChildren hc with hc | ⟨segment, hc⟩
  · exact h c hc
  rcases Linkify.mem_segmentTokens hc with ⟨s, rfl⟩ | ⟨s, rfl⟩ | rfl <;>
    exact Token.endsTag_of_ne Kind.noConfusion

end Rules

/-- **All raw HTML in the runs of a parsed document ends with its bracket.** -/
theorem Options.endsTag_parsed {o : Options} (ho : ∀ p ∈ o.plugins, p ∈ Plugin.defaults)
    {events : List Event} (h : EndsTags events) :
    ∀ t ∈ (o.engine.parseEvents events {}).1, ∀ c ∈ t.children, c.EndsTag :=
  Options.engine_parseEvents_preserves ho
    (I := fun ts => ∀ t ∈ ts, ∀ c ∈ t.children, c.EndsTag)
    (Plugin.Attributes.endsTag_revise o.delimiters) Plugin.Anchors.endsTag_revise
    (fun hts => endsTag_mapRuns endsTag_markReferences (Plugin.Terms.endsTag_extract hts))
    (endsTag_mapRuns endsTag_linkChildren) (Markdown.endsTag_assemble h)

end Folio
