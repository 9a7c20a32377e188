import Folio.Proofs.Assembling

/-!
# The balance of what is assembled

Blocks are closed by taking them off a stack, without a look at the tag that ends.  The tokens are
balanced all the same, whatever the events are, because the stack and the brackets of the tokens
agree at every moment.

## Main definitions

* `Assembly.Over` — the brackets put together since some moment, and the stack since then.
* `Assembly.Gathered` — the children of the runs are balanced so far.

## Main results

* `balanced_assemble` — **the tokens of every sequence of events are balanced**, and a hidden
  token is closed by a hidden one.
* `balanced_children_of_properlyNested` — the children of every run are balanced if the events
  are properly nested.
-/

namespace Folio

open BracketOf (IsBalanced scan)

namespace Markdown

namespace Assembly

variable {below : List Token} {outer inner : List Kind} {a : Assembly}

theorem foldl_within (tag : Tag) (body es : List Event) (a : Assembly) :
    (within tag body ++ es).foldl event a
      = es.foldl event ((body.foldl event (a.start tag)).finishTag tag.toEnd) := by
  simp [within, event]

/-- While a block with inline content is open, inline events change its run only, and what is
captured. -/
theorem foldl_inlineOnly {es : List Event} (hes : InlineOnly es) : ∀ {a : Assembly}
    {children : List Token} {implicit : Bool}, a.run = some ⟨children, implicit⟩ →
      ∃ children' c, Capture.Continues a.capture c ∧
        es.foldl event a = { a with run := some ⟨children', implicit⟩, capture := c } := by
  induction hes with
  | nil => exact fun {a children _} h => ⟨children, a.capture, .refl _, by rw [← h]; rfl⟩
  | @leaf e es he _ ih =>
    intro a children implicit h
    rw [List.foldl_cons]
    rcases a.event_inlineLeaf he with ⟨c, hc, heq⟩ | ⟨t, -, -, heq⟩ <;> rw [heq]
    · obtain ⟨children', c', hc', hes⟩ := ih (a := { a with capture := c }) h
      exact ⟨children', c', ⟨fun h => hc'.none (hc.none h), fun h => hc'.sound (hc.sound h)⟩, hes⟩
    · rw [pushInline_of_some h]
      exact ih (a := { a with run := some ⟨addInline children t, implicit⟩ }) rfl
  | @span tag body es htag _ _ ihbody ih =>
    intro a children implicit h
    obtain ⟨t, -, -, hstart, hfinish⟩ := exists_mark_of_isInline htag
    rw [foldl_within, hstart, hfinish, pushInline_of_some h]
    obtain ⟨inside, c, hc, hbody⟩ :=
      ihbody (a := { a with run := some ⟨addInline children t, implicit⟩ }) rfl
    rw [hbody, @pushInline_of_some _ ⟨inside, implicit⟩ rfl]
    obtain ⟨children', c', hc', hes⟩ := ih (a := { a with
      run := some ⟨addInline inside (.mark t.kind .closing), implicit⟩, capture := c }) rfl
    exact ⟨children', c', ⟨fun h => hc'.none (hc.none h), fun h => hc'.sound (hc.sound h)⟩, hes⟩

/-! ### The stack and the brackets -/

/-- The tokens put together since `below`, both last first, leave `stack` open. -/
def LeavesOpen (below tokens : List Token) (stack : List (Kind × Bool)) : Prop :=
  ∃ above, tokens = above ++ below ∧ scan [] (shownBrackets above.reverse) = some stack

section LeavesOpen

variable {tokens : List Token} {stack : List (Kind × Bool)} {t : Token}

theorem shownBrackets_reverse_cons (t : Token) (above : List Token) :
    shownBrackets (t :: above).reverse
      = shownBrackets above.reverse ++ (t.bracketBy? Token.shown).toList := by
  rw [List.reverse_cons, shownBrackets, bracketsBy_append, bracketsBy_cons, bracketsBy_nil,
    List.append_nil, shownBrackets]

theorem LeavesOpen.single (h : LeavesOpen below tokens stack) (ht : t.nesting = .single) :
    LeavesOpen below (t :: tokens) stack := by
  obtain ⟨above, rfl, hscan⟩ := h
  refine ⟨t :: above, rfl, ?_⟩
  rw [shownBrackets_reverse_cons, bracketBy?_single _ ht]
  simpa using hscan

theorem LeavesOpen.opening (h : LeavesOpen below tokens stack) (ht : t.nesting = .opening) :
    LeavesOpen below (t :: tokens) (t.shown :: stack) := by
  obtain ⟨above, rfl, hscan⟩ := h
  refine ⟨t :: above, rfl, ?_⟩
  rw [shownBrackets_reverse_cons, bracketBy?_opening _ ht, BracketOf.scan_append_of_eq hscan]
  simp

theorem LeavesOpen.closing (h : LeavesOpen below tokens (t.shown :: stack))
    (ht : t.nesting = .closing) : LeavesOpen below (t :: tokens) stack := by
  obtain ⟨above, rfl, hscan⟩ := h
  refine ⟨t :: above, rfl, ?_⟩
  rw [shownBrackets_reverse_cons, bracketBy?_closing _ ht, BracketOf.scan_append_of_eq hscan]
  simp

end LeavesOpen

/-- The hidden paragraph that a run has opened. -/
def hiddenKeys : Option InlineRun → List (Kind × Bool)
  | some ⟨_, true⟩ => [(.paragraph, true)]
  | _ => []

/-- Above the tokens of some moment stand brackets that leave `inner` open, and the stack has
`inner` above the stack of that moment.  The hidden paragraph of the run comes on top. -/
structure Over (below : List Token) (outer inner : List Kind) (a : Assembly) : Prop where
  stack : a.stack = (hiddenKeys a.run).map Prod.fst ++ inner ++ outer
  tokens : LeavesOpen below a.tokens (hiddenKeys a.run ++ inner.map (·, false))

theorem Over.self (h : hiddenKeys a.run = []) : Over a.tokens a.stack [] a :=
  ⟨by simp [h], [], rfl, by simp [h, shownBrackets]⟩

/-- The stack, the tokens and the run are all that counts. -/
theorem Over.note {b : Assembly} (h : Over below outer inner a) (ht : b.tokens = a.tokens)
    (hs : b.stack = a.stack) (hr : b.run = a.run) : Over below outer inner b :=
  ⟨by rw [hs, hr, h.stack], by rw [ht, hr]; exact h.tokens⟩

theorem Over.push_single (h : Over below outer inner a) {t : Token} (ht : t.nesting = .single) :
    Over below outer inner (a.push t) :=
  ⟨h.stack, h.tokens.single ht⟩

theorem Over.flush (h : Over below outer inner a) : Over below outer inner a.flush := by
  have htokens := h.tokens
  have hstack := h.stack
  cases hr : a.run with
  | none => rwa [flush_of_none hr]
  | some run =>
    obtain ⟨children, implicit⟩ := run
    rw [hr] at htokens hstack
    cases implicit with
    | false =>
      rw [flush_of_explicit hr]
      exact ⟨hstack, htokens.single rfl⟩
    | true =>
      rw [flush_of_implicit hr]
      -- Behind the run stands the end of its hidden paragraph, which takes the key off.
      refine ⟨?_, (htokens.single rfl).closing rfl⟩
      simp only [push, hstack]
      rfl

theorem Over.stack_flush (h : Over below outer inner a) : a.flush.stack = inner ++ outer := by
  have hs := h.flush.stack
  rwa [run_flush] at hs

theorem Over.tokens_flush (h : Over below outer inner a) :
    LeavesOpen below a.flush.tokens (inner.map (·, false)) := by
  have ht := h.flush.tokens
  rwa [run_flush] at ht

theorem Over.openBlock (h : Over below outer inner a) {t : Token} (hn : t.nesting = .opening)
    (hh : t.hidden = false) : Over below outer (t.kind :: inner) (a.openBlock t) := by
  have hrun := a.run_openBlock t
  have htokens := h.tokens_flush.opening hn
  rw [Token.shown, hh] at htokens
  refine ⟨?_, ?_⟩ <;> rw [hrun]
  · simp only [Assembly.openBlock, push, h.stack_flush]
    rfl
  · exact htokens

theorem Over.startRun (h : Over below outer inner a) (hr : a.run = none) :
    Over below outer inner a.startRun := by
  have hstack := h.stack
  have htokens := h.tokens
  rw [hr] at hstack htokens
  exact ⟨hstack, htokens⟩

theorem Over.closeBlock {kind : Kind} (h : Over below outer (kind :: inner) a) :
    Over below outer inner a.closeBlock := by
  rw [closeBlock_of_cons h.stack_flush]
  refine ⟨?_, ?_⟩ <;> simp only [push, run_flush]
  · rfl
  · exact h.tokens_flush.closing rfl

theorem Over.pushInline (h : Over below outer inner a) (t : Token) :
    Over below outer inner (a.pushInline t) := by
  have htokens := h.tokens
  have hstack := h.stack
  cases hr : a.run with
  | some run =>
    obtain ⟨children, implicit⟩ := run
    rw [hr] at htokens hstack
    rw [pushInline_of_some hr]
    -- The children change, but not whether the run has a paragraph of its own.
    cases implicit <;> exact ⟨hstack, htokens⟩
  | none =>
    rw [hr] at htokens hstack
    rw [pushInline_of_none hr]
    refine ⟨?_, htokens.opening rfl⟩
    simp only [push, hstack]
    rfl

theorem Over.endCapture (h : Over below outer inner a) (hc : Capture.Sound a.capture) :
    Over below outer inner a.endCapture := by
  have hnone : Over below outer inner { a with capture := none } := h.note rfl rfl rfl
  unfold Assembly.endCapture
  split
  · next fence hf => exact hnone.push_single (hc fence hf).1
  · exact hnone.push_single rfl
  · exact h.note rfl rfl rfl
  · exact h

/-! ### Every sequence of events -/

/-- What is open at the start of a document explains all that is open. -/
structure Consistent (a : Assembly) : Prop where
  stacked : ∃ inner, Over [] [] inner a
  capture : Capture.Sound a.capture

theorem capture_flush (a : Assembly) : a.flush.capture = a.capture := by
  unfold flush
  split
  · rfl
  · dsimp only
    split <;> rfl

theorem capture_closeBlock (a : Assembly) : a.closeBlock.capture = a.capture := by
  unfold closeBlock
  dsimp only
  split <;> exact a.capture_flush

theorem Consistent.blockStep {a b : Assembly} (hstep : BlockStep a b) (h : a.Consistent) :
    b.Consistent := by
  obtain ⟨⟨inner, h⟩, hc⟩ := h
  cases hstep with
  | flush => exact ⟨⟨inner, h.flush⟩, by rwa [capture_flush]⟩
  | @openBlock t hn hk hbare hh =>
    exact ⟨⟨t.kind :: inner, h.openBlock hn hh⟩, a.capture_flush ▸ hc⟩
  | closeBlock =>
    refine ⟨?_, by rwa [capture_closeBlock]⟩
    cases inner with
    | nil =>
      -- No block is left to close: an end too many completes the run and no more.
      rw [closeBlock_of_nil h.stack_flush]
      exact ⟨[], h.flush⟩
    | cons kind inner => exact ⟨inner, h.closeBlock⟩
  | startRun hr => exact ⟨⟨inner, h.startRun hr⟩, hc⟩
  | rule level => exact ⟨⟨inner, h.push_single rfl⟩, hc⟩
  | capture hc' => exact ⟨⟨inner, h.note rfl rfl rfl⟩, hc' hc⟩
  | endCapture =>
    refine ⟨⟨inner, h.endCapture hc⟩, ?_⟩
    unfold Assembly.endCapture
    split
    · exact Capture.sound_none
    · exact Capture.sound_none
    · exact Capture.sound_none
    · exact hc
  | note ht hs hr hc' => exact ⟨⟨inner, h.note ht hs hr⟩, hc' ▸ hc⟩

theorem Consistent.pushInline {a : Assembly} {t : Token} (_ : t.IsInline) (h : a.Consistent) :
    (a.pushInline t).Consistent := by
  obtain ⟨⟨inner, h⟩, hc⟩ := h
  refine ⟨⟨inner, h.pushInline t⟩, ?_⟩
  cases hr : a.run with
  | some run => rwa [pushInline_of_some hr]
  | none => rwa [pushInline_of_none hr]

theorem consistent_foldl (events : List Event) : (events.foldl event {}).Consistent :=
  foldl_preserves Consistent.blockStep (fun ht => Consistent.pushInline ht.toIsInline) events
    ⟨⟨[], Over.self (a := {}) rfl⟩, Capture.sound_none⟩

/-- A run that opened a hidden paragraph has that paragraph on the stack, so the level below it
exists. -/
theorem pos_level_of_implicit (events : List Event) {run : InlineRun}
    (hr : (events.foldl event {}).run = some run) (hi : run.implicit = true) :
    0 < (events.foldl event {}).level := by
  obtain ⟨inner, h⟩ := (consistent_foldl events).stacked
  have hstack := h.stack
  obtain ⟨children, implicit⟩ := run
  dsimp only at hi
  subst hi
  rw [hr] at hstack
  rw [level, hstack]
  simp [hiddenKeys]

/-- Closing as many blocks as there are leaves none open. -/
theorem stack_closeAll : ∀ (fuel : Nat) {a : Assembly}, a.run = none → a.stack.length ≤ fuel →
    (closeAll fuel a).stack = [] ∧ (closeAll fuel a).run = none := by
  intro fuel
  induction fuel with
  | zero =>
    intro a hr hf
    exact ⟨List.eq_nil_of_length_eq_zero (Nat.le_zero.mp hf), hr⟩
  | succ fuel ih =>
    intro a hr hf
    rw [closeAll]
    split
    · next h => exact ⟨List.isEmpty_iff.mp h, hr⟩
    · next h =>
      obtain ⟨kind, outer, hs⟩ : ∃ kind outer, a.stack = kind :: outer := by
        cases hs : a.stack with
        | nil => simp [hs] at h
        | cons kind outer => exact ⟨kind, outer, rfl⟩
      have hclose := closeBlock_of_cons (a := a) (by rw [flush_of_none hr, hs])
      rw [flush_of_none hr] at hclose
      rw [hs, List.length_cons] at hf
      refine ih ?_ ?_
      · rw [hclose]
        exact hr
      · rw [hclose]
        exact Nat.le_of_succ_le_succ hf

/-! ### The children of runs -/

/-- The tokens of the run that is being gathered, in order. -/
def runChildren (a : Assembly) : List Token :=
  match a.run with
  | some run => run.children.reverse
  | none => []

/-- The children of all runs so far are balanced, and those of the run that is being gathered
leave `stack` open. -/
structure Gathered (stack : List Kind) (a : Assembly) : Prop where
  tokens : ∀ t ∈ a.tokens, t.kind = .inline → IsBalanced (brackets t.children)
  run : scan [] (brackets a.runChildren) = some stack
  capture : Capture.Sound a.capture

/-- Joining texts does not change the brackets. -/
theorem brackets_addInline {t : Token} (ht : t.kind = .text → t.nesting = .single)
    (children : List Token) : brackets (addInline children t).reverse
      = brackets children.reverse ++ (t.bracketBy? Token.kind).toList := by
  have hsnoc : ∀ (u : Token) (us : List Token), brackets (u :: us).reverse
      = brackets us.reverse ++ (u.bracketBy? Token.kind).toList := fun u us => by
    rw [List.reverse_cons, brackets, bracketsBy_append, bracketsBy_cons, bracketsBy_nil,
      List.append_nil, brackets]
  cases children with
  | nil => exact hsnoc t []
  | cons last before =>
    rw [addInline]
    split
    · next h =>
      rw [Bool.and_eq_true, beq_iff_eq] at h
      rw [bracketBy?_single _ (ht h.1), hsnoc, hsnoc, Option.toList_none, List.append_nil]
      rfl
    · exact hsnoc t (last :: before)

theorem runChildren_pushInline (a : Assembly) (t : Token) :
    (a.pushInline t).runChildren = (addInline a.runChildren.reverse t).reverse := by
  cases h : a.run with
  | some run => simp [pushInline_of_some h, runChildren, h]
  | none => simp [pushInline_of_none h, push, runChildren, h, addInline]

theorem tokens_pushInline (a : Assembly) (t : Token) :
    ∀ u ∈ (a.pushInline t).tokens, u ∈ a.tokens ∨ u.kind = .paragraph := by
  intro u hu
  cases h : a.run with
  | some run =>
    rw [pushInline_of_some h] at hu
    exact .inl hu
  | none =>
    rw [pushInline_of_none h] at hu
    rcases List.mem_cons.mp hu with rfl | hu
    · exact .inr rfl
    · exact .inl hu

theorem capture_pushInline (a : Assembly) (t : Token) : (a.pushInline t).capture = a.capture := by
  cases h : a.run with
  | some run => rw [pushInline_of_some h]
  | none =>
    rw [pushInline_of_none h]
    rfl

section Gathered

variable {stack : List Kind} {t : Token}

/-- An inline token is one more bracket, or none. -/
theorem Gathered.pushInline {stack' : List Kind} (h : Gathered stack a)
    (ht : t.kind = .text → t.nesting = .single)
    (hs : scan stack (t.bracketBy? Token.kind).toList = some stack') :
    Gathered stack' (a.pushInline t) := by
  refine ⟨fun u hu hk => ?_, ?_, a.capture_pushInline t ▸ h.capture⟩
  · rcases a.tokens_pushInline t u hu with hu | hu
    · exact h.tokens u hu hk
    · simp [hu] at hk
  · rw [runChildren_pushInline, brackets_addInline ht, List.reverse_reverse,
      BracketOf.scan_append_of_eq h.run, hs]

theorem Gathered.pushInline_single (h : Gathered stack a) (ht : t.nesting = .single) :
    Gathered stack (a.pushInline t) :=
  h.pushInline (fun _ => ht) (by rw [bracketBy?_single _ ht]; simp)

theorem Gathered.push (h : Gathered stack a)
    (ht : t.kind = .inline → IsBalanced (brackets t.children)) : Gathered stack (a.push t) := by
  refine ⟨fun u hu => ?_, h.run, h.capture⟩
  rcases List.mem_cons.mp hu with rfl | hu
  · exact ht
  · exact h.tokens u hu

theorem Gathered.capture_some (h : Gathered stack a) {c : Option Capture}
    (hc : Capture.Continues a.capture c) : Gathered stack { a with capture := c } :=
  ⟨h.tokens, h.run, hc.sound h.capture⟩

theorem Gathered.flush (h : Gathered [] a) : Gathered [] a.flush := by
  cases hr : a.run with
  | none => rwa [flush_of_none hr]
  | some run =>
    obtain ⟨children, implicit⟩ := run
    have hrun := h.run
    simp only [runChildren, hr] at hrun
    have hnone : ∀ stack, Gathered [] { a with run := none, stack } :=
      fun stack => ⟨h.tokens, rfl, h.capture⟩
    cases implicit with
    | false =>
      rw [flush_of_explicit hr]
      exact (hnone a.stack).push fun _ => hrun
    | true =>
      rw [flush_of_implicit hr]
      exact Gathered.push ((hnone a.stack.tail).push fun _ => hrun) fun hk => by cases hk

theorem Gathered.blockStep {a b : Assembly} (hstep : BlockStep a b) (h : Gathered [] a) :
    Gathered [] b := by
  have hstack : ∀ stack, Gathered [] { a.flush with stack } :=
    fun _ => ⟨h.flush.tokens, h.flush.run, h.flush.capture⟩
  have hcapture : Gathered [] { a with capture := none } := ⟨h.tokens, h.run, Capture.sound_none⟩
  cases hstep with
  | flush => exact h.flush
  | openBlock hn hk hbare hh =>
    refine (hstack _).push fun ht => ?_
    simp [ht, Kind.isBlockPair] at hk
  | closeBlock =>
    cases hs : a.flush.stack with
    | nil =>
      rw [closeBlock_of_nil hs]
      exact h.flush
    | cons kind outer =>
      rw [closeBlock_of_cons hs]
      exact (hstack outer).push fun _ => rfl
  | startRun hr => exact ⟨h.tokens, rfl, h.capture⟩
  | rule level => exact h.push fun hk => by cases hk
  | capture hc => exact ⟨h.tokens, h.run, hc h.capture⟩
  | endCapture =>
    unfold endCapture
    split
    · next fence hf => exact hcapture.push fun hk => by simp [(h.capture fence hf).2] at hk
    · exact hcapture.push fun hk => by cases hk
    · exact ⟨h.tokens, h.run, Capture.sound_none⟩
    · exact h
  | note ht hs hr hc =>
    refine ⟨ht ▸ h.tokens, ?_, hc ▸ h.capture⟩
    rw [runChildren, hr]
    exact h.run

/-- Inline events leave their brackets as they found them. -/
theorem Gathered.inlineOnly {es : List Event} (hes : InlineOnly es) : ∀ {a : Assembly}
    {stack : List Kind}, Gathered stack a → Gathered stack (es.foldl event a) := by
  induction hes with
  | nil => exact fun h => h
  | @leaf e es he _ ih =>
    intro a stack h
    rw [List.foldl_cons]
    rcases a.event_inlineLeaf he with ⟨c, hc, heq⟩ | ⟨t, hn, -, heq⟩ <;> rw [heq]
    · exact ih (h.capture_some hc)
    · exact ih (h.pushInline_single hn)
  | @span tag body es htag _ _ ihbody ih =>
    intro a stack h
    obtain ⟨t, hn, ht, hstart, hfinish⟩ := exists_mark_of_isInline htag
    have hk := ht.pair (by simp [hn])
    -- A container is no text, so it is never joined to what stands before it.
    have htext : t.kind ≠ .text := by intro h; simp [h, Kind.isInlinePair] at hk
    rw [foldl_within, hstart, hfinish]
    have hopen : Gathered (t.kind :: stack) (a.pushInline t) := by
      refine h.pushInline (fun h => absurd h htext) ?_
      rw [bracketBy?_opening _ hn]
      simp
    -- The body leaves the key of the container on the stack, and the end of the container takes
    -- it off.
    refine ih ((ihbody hopen).pushInline (fun h => absurd h htext) ?_)
    rw [bracketBy?_closing _ rfl]
    simp [Token.mark]

theorem Gathered.properlyNested {es : List Event} (hes : ProperlyNested es) : ∀ {a : Assembly},
    Gathered [] a → Gathered [] (es.foldl event a) := by
  induction hes with
  | nil => exact fun h => h
  | @leaf e es he _ ih =>
    intro a h
    rw [List.foldl_cons]
    refine ih ?_
    by_cases hi : e.isInlineLeaf = true
    · exact Gathered.inlineOnly (.singleton hi) h
    · have hrule : e = .rule := by cases e <;> simp_all [Event.isLeaf, Event.isInlineLeaf]
      rw [hrule]
      exact h.flush.push fun hk => by cases hk
  | @inlines tag body es htag hbody _ ih =>
    intro a h
    by_cases hi : tag.isInline = true
    · rw [List.foldl_append]
      exact ih (Gathered.inlineOnly (.within hi hbody) h)
    · rw [foldl_within]
      have hstart := (a.blockSteps_start (by simpa using hi)).preserves Gathered.blockStep h
      exact ih ((blockSteps_finishTag _ (by simpa using hi)).preserves Gathered.blockStep
        (Gathered.inlineOnly hbody hstart))
  | @block tag body es htag _ _ ihbody ih =>
    intro a h
    have hi : tag.isInline = false := (Bool.or_eq_false_iff.mp htag).1
    rw [foldl_within]
    exact ih ((blockSteps_finishTag _ hi).preserves Gathered.blockStep
      (ihbody ((a.blockSteps_start hi).preserves Gathered.blockStep h)))

end Gathered

end Assembly

/-- **The tokens of every sequence of events are balanced**, and a hidden token is closed by a
hidden one. -/
theorem balanced_assemble (events : List Event) :
    IsBalanced (shownBrackets (assemble events).1) := by
  have h := Assembly.finish_preserves Assembly.Consistent.blockStep
    (Assembly.consistent_foldl events)
  obtain ⟨⟨inner, hover⟩, -⟩ := h
  -- All blocks have been closed, so nothing is left of the keys that the brackets leave open.
  obtain ⟨hstack, hrun⟩ := Assembly.stack_closeAll _
    (Assembly.run_flush (events.foldl Assembly.event {})) (Nat.le_refl _)
  have hinner := hover.stack
  obtain ⟨above, htokens, hscan⟩ := hover.tokens
  simp only [Assembly.finish] at htokens hscan hinner
  rw [hrun] at hscan hinner
  rw [hstack] at hinner
  simp only [Assembly.hiddenKeys, List.map_nil, List.nil_append, List.append_nil] at hinner
  rw [← hinner] at hscan
  simp only [assemble, Assembly.finish]
  rw [htokens, List.append_nil]
  exact hscan

/-- The children of every run are balanced if the events are properly nested. -/
theorem balanced_children_of_properlyNested {events : List Event} (h : ProperlyNested events) :
    ∀ t ∈ (assemble events).1, t.kind = .inline → IsBalanced (brackets t.children) := by
  have hstart : Assembly.Gathered [] {} :=
    ⟨List.forall_mem_nil _, rfl, Assembly.Capture.sound_none⟩
  have hend := Assembly.finish_preserves Assembly.Gathered.blockStep
    (Assembly.Gathered.properlyNested h hstart)
  exact fun t ht => hend.tokens t (List.mem_reverse.mp ht)

end Markdown

end Folio
