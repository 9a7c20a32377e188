import Folio.Proofs.AssemblyBalance

/-!
# The shape of headings

In the tokens of a well-formed document a heading is three tokens: one that opens it, its run, and
one that closes it.  A heading holds inline events only, so while it is open nothing but its run is
put together, and nothing else ever opens a heading.

## Main definitions

* `HeadingParts` — three tokens are a heading.
* `Headed` — all tokens of headings stand in such threes.
* `Assembly.HeadedSoFar` — the same for the tokens that have been put together.

## Main results

* `Headed.split` — what stands around a token that opens a heading.
* `headed_assemble` — **the headings of a properly nested sequence are three tokens each.**
-/

namespace Folio

/-- Three tokens are a heading. -/
structure HeadingParts (o run c : Token) : Prop where
  kind : o.kind.isHeading = true
  opening : o.nesting = .opening
  visible : o.hidden = false
  inline : run.kind = .inline
  single : run.nesting = .single
  closing : c.nesting = .closing
  closed : c.kind = o.kind
  closed_visible : c.hidden = false

/-- All tokens of headings stand in threes, and `P` holds of those that open a heading. -/
inductive Headed (P : Token → Prop) : List Token → Prop
  | nil : Headed P []
  | other {t : Token} {ts : List Token} (ht : t.kind.isHeading = false) (hts : Headed P ts) :
      Headed P (t :: ts)
  | heading {o run c : Token} {ts : List Token} (h : HeadingParts o run c) (ho : P o)
      (hts : Headed P ts) : Headed P (o :: run :: c :: ts)

theorem Token.kind_isHeading_of_headingLevel? {t : Token} (h : t.headingLevel?.isSome = true) :
    t.kind.isHeading = true ∧ t.nesting = .opening := by
  unfold Token.headingLevel? at h
  split at h
  · next n hk hn => exact ⟨by rw [hk]; rfl, hn⟩
  · simp at h

namespace HeadingParts

variable {o run c : Token}

theorem run_isHeading (h : HeadingParts o run c) : run.kind.isHeading = false := by
  rw [h.inline]
  rfl

theorem exists_kind (h : HeadingParts o run c) : ∃ n, o.kind = .heading n :=
  Kind.exists_of_isHeading h.kind

theorem isSome_headingLevel? (h : HeadingParts o run c) : o.headingLevel?.isSome = true := by
  obtain ⟨n, hn⟩ := h.exists_kind
  rw [Token.headingLevel?, hn, h.opening]
  rfl

end HeadingParts

namespace Headed

variable {P Q : Token → Prop} {ts us : List Token}

theorem append (hts : Headed P ts) (hus : Headed P us) : Headed P (ts ++ us) := by
  induction hts with
  | nil => exact hus
  | other ht _ ih => exact .other ht ih
  | heading h ho _ ih => exact .heading h ho ih

theorem imp (hPQ : ∀ t, P t → Q t) (h : Headed P ts) : Headed Q ts := by
  induction h with
  | nil => exact .nil
  | other ht _ ih => exact .other ht ih
  | heading h ho _ ih => exact .heading h (hPQ _ ho) ih

/-- **What stands around a token that opens a heading**: its run and its end behind it, and whole
headings before and behind those. -/
theorem split (h : Headed P ts) : ∀ {pre tail : List Token} {o : Token}, ts = pre ++ o :: tail →
    o.kind.isHeading = true → o.nesting = .opening →
      ∃ run c rest, tail = run :: c :: rest ∧ HeadingParts o run c ∧ P o ∧
        Headed P pre ∧ Headed P rest := by
  induction h with
  | nil => intro pre tail o heq; simp at heq
  | @other t ts ht _ ih =>
    intro pre tail o heq hk hn
    cases pre with
    | nil =>
      obtain ⟨rfl, -⟩ := List.cons.inj heq
      rw [ht] at hk
      exact absurd hk Bool.false_ne_true
    | cons u pre =>
      rw [List.cons_append, List.cons.injEq] at heq
      obtain ⟨rfl, heq⟩ := heq
      obtain ⟨run, c, rest, htail, hparts, ho, hpre, hrest⟩ := ih heq hk hn
      exact ⟨run, c, rest, htail, hparts, ho, .other ht hpre, hrest⟩
  | @heading o' run' c' ts h ho' hts ih =>
    intro pre tail o heq hk hn
    -- The token is the first of the three, or it stands behind all of them.
    rcases pre with _ | ⟨u, _ | ⟨v, _ | ⟨w, pre⟩⟩⟩ <;>
      simp only [List.nil_append, List.cons_append, List.cons.injEq] at heq
    · obtain ⟨rfl, rfl⟩ := heq
      exact ⟨run', c', ts, rfl, h, ho', .nil, hts⟩
    · obtain ⟨-, rfl, -⟩ := heq
      rw [h.run_isHeading] at hk
      exact absurd hk Bool.false_ne_true
    · obtain ⟨-, -, rfl, -⟩ := heq
      rw [h.closing] at hn
      cases hn
    · obtain ⟨rfl, rfl, rfl, heq⟩ := heq
      obtain ⟨run, c, rest, htail, hparts, ho, hpre, hrest⟩ := ih heq hk hn
      exact ⟨run, c, rest, htail, hparts, ho, .heading h ho' hpre, hrest⟩

end Headed

namespace Markdown

namespace Assembly

variable {a : Assembly}

/-- The headings so far are complete, and none is open.  Nothing has been attached to them yet. -/
structure HeadedSoFar (a : Assembly) : Prop where
  tokens : Headed (fun o => o.attrs = []) a.tokens.reverse
  stack : ∀ k ∈ a.stack, k.isHeading = false
  capture : Capture.Sound a.capture

namespace HeadedSoFar

theorem note {b : Assembly} (h : a.HeadedSoFar) (ht : b.tokens = a.tokens)
    (hs : b.stack = a.stack) (hc : b.capture = a.capture) : b.HeadedSoFar :=
  ⟨ht ▸ h.tokens, hs ▸ h.stack, hc ▸ h.capture⟩

theorem push (h : a.HeadedSoFar) {t : Token} (ht : t.kind.isHeading = false) :
    (a.push t).HeadedSoFar := by
  refine ⟨?_, h.stack, h.capture⟩
  simp only [Assembly.push, List.reverse_cons]
  exact h.tokens.append (.other ht .nil)

theorem withStack (h : a.HeadedSoFar) {stack : List Kind} (hs : ∀ k ∈ stack, k.isHeading = false) :
    HeadedSoFar { a with stack } :=
  ⟨h.tokens, hs, h.capture⟩

theorem captures (h : a.HeadedSoFar) {c : Option Capture} (hc : Capture.Sound c) :
    HeadedSoFar { a with capture := c } :=
  ⟨h.tokens, h.stack, hc⟩

theorem flush (h : a.HeadedSoFar) : a.flush.HeadedSoFar := by
  cases hr : a.run with
  | none => rwa [flush_of_none hr]
  | some run =>
    obtain ⟨children, implicit⟩ := run
    have hnone : HeadedSoFar { a with run := none } := h.note rfl rfl rfl
    cases implicit with
    | false =>
      rw [flush_of_explicit hr]
      exact hnone.push rfl
    | true =>
      rw [flush_of_implicit hr]
      have htail := hnone.withStack fun k hk => h.stack k (List.mem_of_mem_tail hk)
      exact (htail.push rfl).push rfl

/-- A block that is no heading begins. -/
theorem openBlock (h : a.HeadedSoFar) {t : Token} (ht : t.kind.isHeading = false) :
    (a.openBlock t).HeadedSoFar :=
  (h.flush.withStack (List.forall_mem_cons.mpr ⟨ht, h.flush.stack⟩)).push ht

theorem closeBlock (h : a.HeadedSoFar) : a.closeBlock.HeadedSoFar := by
  cases hs : a.flush.stack with
  | nil =>
    rw [closeBlock_of_nil hs]
    exact h.flush
  | cons kind outer =>
    rw [closeBlock_of_cons hs]
    have hstack : ∀ k ∈ kind :: outer, k.isHeading = false := hs ▸ h.flush.stack
    refine HeadedSoFar.push (h.flush.withStack fun k hk => ?_) (hstack kind List.mem_cons_self)
    exact hstack k (List.mem_cons_of_mem kind hk)

theorem endCapture (h : a.HeadedSoFar) : a.endCapture.HeadedSoFar := by
  have hnone := h.captures Capture.sound_none
  unfold Assembly.endCapture
  split
  · next fence hf =>
    obtain ⟨-, hk, -⟩ := h.capture fence hf
    exact hnone.push (by rw [hk]; rfl)
  · exact hnone.push rfl
  · exact hnone.note rfl rfl rfl
  · exact h

theorem pushInline (h : a.HeadedSoFar) (t : Token) : (a.pushInline t).HeadedSoFar := by
  cases hr : a.run with
  | some run =>
    rw [pushInline_of_some hr]
    exact h.note rfl rfl rfl
  | none =>
    rw [pushInline_of_none hr]
    have hopen : HeadedSoFar { a with stack := .paragraph :: a.stack, run := some ⟨[t], true⟩ } :=
      ⟨h.tokens, List.forall_mem_cons.mpr ⟨rfl, h.stack⟩, h.capture⟩
    exact hopen.push rfl

/-- What an event does that adds an inline token or captures it. -/
theorem inlineLeaf (h : a.HeadedSoFar) {e : Event} (he : e.isInlineLeaf = true) :
    (a.event e).HeadedSoFar := by
  rcases a.event_inlineLeaf he with ⟨c, hc, heq⟩ | ⟨t, -, -, heq⟩ <;> rw [heq]
  · exact h.captures (hc.sound h.capture)
  · exact h.pushInline t

theorem inlineOnly {es : List Event} (hes : InlineOnly es) : ∀ {a : Assembly}, a.HeadedSoFar →
    (es.foldl event a).HeadedSoFar := by
  induction hes with
  | nil => exact fun h => h
  | leaf he _ ih => exact fun h => ih (h.inlineLeaf he)
  | @span tag body es htag _ _ ihbody ih =>
    intro a h
    obtain ⟨t, -, -, hstart, hfinish⟩ := exists_mark_of_isInline htag
    rw [foldl_within, hstart, hfinish]
    exact ih ((ihbody (h.pushInline t)).pushInline _)

theorem listToken_kind (start : Option Nat) (level : Nat) :
    (listToken start level).kind.isHeading = false := by
  unfold listToken
  split <;> rfl

/-- The start of a tag that is neither a heading nor an inline container opens no heading. -/
theorem start (h : a.HeadedSoFar) {tag : Tag} (hi : tag.isInline = false)
    (ht : ∀ n, tag ≠ .heading n) : (a.start tag).HeadedSoFar := by
  cases tag with
  | heading n => exact absurd rfl (ht n)
  | paragraph => exact (h.openBlock rfl).note rfl rfl rfl
  | blockquote | item | definitionList | definitionTerm | definitionDetails =>
    exact h.openBlock rfl
  | list start => exact h.openBlock (listToken_kind start _)
  | codeBlock info =>
    refine h.flush.captures fun fence hf => ?_
    simp only [Option.some.injEq, Capture.code.injEq] at hf
    subst hf
    exact ⟨rfl, rfl, rfl⟩
  | htmlBlock => exact h.flush.captures fun fence hf => by simp at hf
  | metadataBlock => exact h.captures fun fence hf => by simp at hf
  | footnoteDefinition label => exact h
  | table alignments =>
    have hnote : HeadedSoFar { a with alignments, inBody := false } := h.note rfl rfl rfl
    exact hnote.openBlock rfl
  | tableHead =>
    have hnote : HeadedSoFar { a with inHead := true, column := 0 } := h.note rfl rfl rfl
    exact (hnote.openBlock rfl).openBlock rfl
  | tableRow =>
    have hrow : ∀ b : Assembly, b.HeadedSoFar →
        ({ b with column := 0 }.openBlock (.opening .tableRow b.level)).HeadedSoFar := by
      intro b hb
      have hnote : HeadedSoFar { b with column := 0 } := hb.note rfl rfl rfl
      exact hnote.openBlock rfl
    have hbody : HeadedSoFar { a with inBody := true } := h.note rfl rfl rfl
    simp only [Assembly.start]
    split
    · exact hrow a h
    · exact hrow _ (hbody.openBlock rfl)
  | tableCell =>
    simp only [Assembly.start]
    refine HeadedSoFar.note (h.openBlock ?_) rfl rfl rfl
    have hcell : (if a.inHead then Kind.tableHeaderCell else .tableDataCell).isHeading = false := by
      split <;> rfl
    split <;> exact hcell
  | emphasis | strong | strikethrough | superscript | subscript | link _ | image _ =>
    simp [Tag.isInline] at hi

/-- The end of a tag that is no inline container closes no heading if none is open. -/
theorem finishTag (h : a.HeadedSoFar) {tag : Tag} (hi : tag.isInline = false) :
    (a.finishTag tag.toEnd).HeadedSoFar := by
  cases tag with
  | codeBlock _ | htmlBlock | metadataBlock => exact h.endCapture
  | footnoteDefinition label => exact h
  | tableHead => exact h.closeBlock.closeBlock.note rfl rfl rfl
  | tableCell => exact h.closeBlock.note rfl rfl rfl
  | table _ =>
    have hbody : HeadedSoFar { a.closeBlock with inBody := false } := h.closeBlock.note rfl rfl rfl
    simp only [Tag.toEnd, Assembly.finishTag]
    split
    · exact hbody.closeBlock
    · exact h.closeBlock
  | paragraph | heading _ | blockquote | list _ | item | definitionList | definitionTerm
  | definitionDetails | tableRow => exact h.closeBlock
  | emphasis | strong | strikethrough | superscript | subscript | link _ | image _ =>
    simp [Tag.isInline] at hi

end HeadedSoFar

/-- A heading adds its three tokens. -/
theorem HeadedSoFar.heading (h : a.HeadedSoFar) (n : Nat) {body : List Event}
    (hbody : InlineOnly body) :
    ((body.foldl event (a.start (.heading n))).finishTag (.heading n)).HeadedSoFar := by
  obtain ⟨children, c, hc, hfold⟩ :=
    foldl_inlineOnly hbody (show (a.start (.heading n)).run = some ⟨[], false⟩ from rfl)
  have hrun : (body.foldl event (a.start (.heading n))).run = some ⟨children, false⟩ := by
    rw [hfold]
  have hflush := flush_of_explicit hrun
  have hstack : (body.foldl event (a.start (.heading n))).flush.stack
      = .heading n :: a.flush.stack := by
    rw [hflush, hfold]
    rfl
  have hparts : HeadingParts (.opening (.heading n) a.level)
      (.inlineRun children.reverse (a.flush.level + 1)) (.closing (.heading n) a.flush.level) :=
    ⟨rfl, rfl, rfl, rfl, rfl, rfl, rfl, rfl⟩
  have htokens := h.flush.tokens.append (.heading hparts rfl .nil)
  unfold Assembly.finishTag
  dsimp only
  rw [closeBlock_of_cons hstack, hflush, hfold]
  refine ⟨?_, h.flush.stack, hc.sound h.flush.capture⟩
  simpa [Assembly.push, Assembly.start, Assembly.openBlock, startRun, Assembly.level] using htokens

theorem HeadedSoFar.properlyNested {es : List Event} (hes : ProperlyNested es) :
    ∀ {a : Assembly}, a.HeadedSoFar → (es.foldl event a).HeadedSoFar := by
  induction hes with
  | nil => exact fun h => h
  | @leaf e es he _ ih =>
    intro a h
    refine ih ?_
    by_cases hi : e.isInlineLeaf = true
    · exact h.inlineLeaf hi
    · have hrule : e = .rule := by cases e <;> simp_all [Event.isLeaf, Event.isInlineLeaf]
      rw [hrule]
      exact h.flush.push rfl
  | @inlines tag body es htag hbody _ ih =>
    intro a h
    by_cases hi : tag.isInline = true
    · rw [List.foldl_append]
      exact ih (inlineOnly (.within hi hbody) h)
    have hi : tag.isInline = false := by simpa using hi
    rw [foldl_within]
    by_cases hheading : ∃ n, tag = .heading n
    · obtain ⟨n, rfl⟩ := hheading
      exact ih (h.heading n hbody)
    · have hstart := h.start hi fun n hn => hheading ⟨n, hn⟩
      exact ih ((inlineOnly hbody hstart).finishTag hi)
  | @block tag body es htag _ _ ihbody ih =>
    intro a h
    obtain ⟨hi, htext⟩ := Bool.or_eq_false_iff.mp htag
    have hheading : ∀ n, tag ≠ .heading n := by
      rintro n rfl
      simp [Tag.isTextBlock] at htext
    rw [foldl_within]
    exact ih ((ihbody (h.start hi hheading)).finishTag hi)

theorem HeadedSoFar.closeAll (fuel : Nat) : ∀ {a : Assembly}, a.HeadedSoFar →
    (closeAll fuel a).HeadedSoFar := by
  induction fuel with
  | zero => exact fun h => h
  | succ fuel ih =>
    intro a h
    rw [Assembly.closeAll]
    split
    · exact h
    · exact ih h.closeBlock

end Assembly

/-- **The headings of a properly nested sequence are three tokens each**, and have no attributes
yet. -/
theorem headed_assemble {events : List Event} (h : ProperlyNested events) :
    Headed (fun o => o.attrs = []) (assemble events).1 := by
  have hstart : Assembly.HeadedSoFar {} :=
    ⟨.nil, List.forall_mem_nil _, Assembly.Capture.sound_none⟩
  have hend := Assembly.HeadedSoFar.properlyNested h hstart
  exact (hend.flush.closeAll _).tokens

end Markdown

end Folio
