import Folio.Proofs.ShapedAssembly

/-!
# The levels of tokens

The level of a token is the number of blocks around it, with one exception: a block that begins
right behind a hidden paragraph still counts that paragraph, because its level is read before the
run that it completes.  Its end has the right level.

## Main definitions

* `unclosed` — the number of blocks that are open behind a list of tokens.
* `HasLevelAfter`, `Leveled` — the levels of the tokens of a list.
* `Assembly.Settled` — what holds between two blocks of a shaped sequence.

## Main results

* `leveled_assemble` — **the level of every token of a shaped sequence.**
* `assemble_correct` — **what is assembled from any sequence of events, and what from a shaped
  one.**
-/

namespace Folio

open BracketOf (IsBalanced)

/-- The number of blocks that are open behind a list of tokens. -/
def unclosed (ts : List Token) : Nat := ts.countP Token.isOpening - ts.countP Token.isClosing

/-- The last token closes a hidden block. -/
def endsHidden (ts : List Token) : Bool := ts.getLast?.any fun t => t.isClosing && t.hidden

/-- The level of a token behind others: the number of blocks around it.  A block that begins right
behind a hidden one counts that one as well. -/
def HasLevelAfter (before : List Token) (t : Token) : Prop :=
  t.level + (if t.isClosing then 1 else 0)
    = unclosed before + (if t.isOpening && endsHidden before then 1 else 0)

/-- All tokens have their levels. -/
def Leveled (ts : List Token) : Prop :=
  ∀ before t after, ts = before ++ t :: after → HasLevelAfter before t

theorem leveled_nil : Leveled [] := fun before _ _ h => by simp at h

theorem Leveled.concat {ts : List Token} {t : Token} (h : Leveled ts) (ht : HasLevelAfter ts t) :
    Leveled (ts ++ [t]) := by
  intro before u after heq
  -- The token is the last one or one of those before.
  rcases List.append_eq_append_iff.mp heq with ⟨mid, rfl, hmid⟩ | ⟨mid, rfl, hmid⟩
  · cases mid with
    | nil =>
      simp only [List.nil_append, List.cons.injEq] at hmid
      rw [List.append_nil, ← hmid.1]
      exact ht
    | cons v mid => simp at hmid
  · cases mid with
    | nil =>
      simp only [List.nil_append, List.cons.injEq] at hmid
      rw [hmid.1, ← List.append_nil before]
      exact ht
    | cons v mid =>
      rw [List.cons_append, List.cons.injEq] at hmid
      obtain ⟨rfl, -⟩ := hmid
      exact h before u mid rfl

theorem endsHidden_reverse_cons (t : Token) (ts : List Token) :
    endsHidden (t :: ts).reverse = (t.isClosing && t.hidden) := by
  simp [endsHidden]

namespace Token

variable {t : Token}

theorem isOpening_of_nesting (h : t.nesting = .opening) : t.isOpening = true := by
  simp [isOpening, h]

theorem isClosing_of_nesting (h : t.nesting = .closing) : t.isClosing = true := by
  simp [isClosing, h]

theorem isOpening_eq_false (h : t.nesting ≠ .opening) : t.isOpening = false := by
  simp [isOpening, h]

theorem isClosing_eq_false (h : t.nesting ≠ .closing) : t.isClosing = false := by
  simp [isClosing, h]

end Token

namespace Markdown

namespace Assembly

variable {a : Assembly} {t : Token}

theorem endsHidden_push (a : Assembly) (t : Token) :
    endsHidden (a.push t).tokens.reverse = (t.isClosing && t.hidden) :=
  endsHidden_reverse_cons t a.tokens

/-- The tokens have their levels, and the stack counts the blocks that are open. -/
structure Counted (a : Assembly) : Prop where
  leveled : Leveled a.tokens.reverse
  count : a.tokens.countP Token.isOpening = a.tokens.countP Token.isClosing + a.level

theorem Counted.unclosed (h : a.Counted) : unclosed a.tokens.reverse = a.level := by
  rw [Folio.unclosed, List.countP_reverse, List.countP_reverse, h.count]
  omega

theorem Counted.push_single (h : a.Counted) (hn : t.nesting = .single) (hl : t.level = a.level) :
    (a.push t).Counted := by
  have ho := Token.isOpening_eq_false (t := t) (by simp [hn])
  have hc := Token.isClosing_eq_false (t := t) (by simp [hn])
  refine ⟨?_, ?_⟩
  · simp only [push, List.reverse_cons]
    refine h.leveled.concat ?_
    simp only [HasLevelAfter, ho, hc, h.unclosed, hl, Bool.false_and]
  · simp only [push, List.countP_cons, ho, hc]
    exact h.count

theorem Counted.push_opening (h : a.Counted) (hn : t.nesting = .opening)
    (hl : t.level = a.level + if endsHidden a.tokens.reverse then 1 else 0) (kind : Kind) :
    ({ a with stack := kind :: a.stack }.push t).Counted := by
  have ho := Token.isOpening_of_nesting hn
  have hc := Token.isClosing_eq_false (t := t) (by simp [hn])
  refine ⟨?_, ?_⟩
  · simp only [push, List.reverse_cons]
    refine h.leveled.concat ?_
    simp [HasLevelAfter, ho, hc, h.unclosed, hl]
  · have hcount := h.count
    simp only [level] at hcount
    simp only [push, List.countP_cons, ho, hc, level, List.length_cons]
    simp only [if_true, Bool.false_eq_true, if_false]
    omega

theorem Counted.push_closing (h : a.Counted) (hn : t.nesting = .closing) {kind : Kind}
    {outer : List Kind} (hs : a.stack = kind :: outer) (hl : t.level = outer.length) :
    ({ a with stack := outer }.push t).Counted := by
  have ho := Token.isOpening_eq_false (t := t) (by simp [hn])
  have hc := Token.isClosing_of_nesting hn
  have hlevel : a.level = outer.length + 1 := by simp [level, hs]
  refine ⟨?_, ?_⟩
  · simp only [push, List.reverse_cons]
    refine h.leveled.concat ?_
    simp [HasLevelAfter, ho, hc, h.unclosed, hl, hlevel]
  · have hcount := h.count
    rw [hlevel] at hcount
    simp only [push, List.countP_cons, ho, hc, level]
    simp only [if_true, Bool.false_eq_true, if_false]
    omega

/-- What holds between two blocks of a shaped sequence: nothing is captured, no hidden block has
just been closed, and a hidden paragraph that is open is on the stack. -/
structure Settled (a : Assembly) : Prop extends a.Counted where
  capture : a.capture = none
  last : endsHidden a.tokens.reverse = false
  implicit : ∀ children, a.run = some ⟨children, true⟩ → a.stack ≠ []

/-- Completing the run closes a hidden paragraph or nothing. -/
theorem Settled.flush (h : a.Settled) : a.flush.Counted ∧
    a.level = a.flush.level + if endsHidden a.flush.tokens.reverse then 1 else 0 := by
  cases hr : a.run with
  | none =>
    rw [flush_of_none hr, h.last]
    exact ⟨h.toCounted, rfl⟩
  | some run =>
    obtain ⟨children, implicit⟩ := run
    have hnone : Counted { a with run := none } := ⟨h.leveled, h.count⟩
    have hrun : ({ a with run := none }.push (.inlineRun children.reverse a.level)).Counted :=
      hnone.push_single rfl rfl
    cases implicit with
    | false =>
      rw [flush_of_explicit hr]
      refine ⟨hrun, ?_⟩
      rw [endsHidden_push]
      rfl
    | true =>
      -- The hidden paragraph is on the stack, so its level is that of a block that is open.
      obtain ⟨kind, outer, hs⟩ := List.exists_cons_of_ne_nil (h.implicit children hr)
      have hlevel : a.level = outer.length + 1 := by simp [level, hs]
      rw [flush_of_implicit hr]
      refine ⟨?_, ?_⟩
      · have hclose := hrun.push_closing
          (t := { Token.closing .paragraph (a.level - 1) with hidden := true }) rfl hs
          (by simp [Token.closing, hlevel])
        rw [hs]
        exact hclose
      · rw [endsHidden_push, hlevel, hs]
        rfl

theorem Settled.openBlock (h : a.Settled) (hn : t.nesting = .opening) (hl : t.level = a.level) :
    (a.openBlock t).Settled := by
  obtain ⟨hcounted, hlevel⟩ := h.flush
  -- The token has the level from before its run is completed: this is where a block that begins
  -- right behind a hidden paragraph counts that paragraph.
  refine ⟨hcounted.push_opening hn (by rw [hl, hlevel]) t.kind, ?_, ?_, fun _ _ => nofun⟩
  · exact a.capture_flush.trans h.capture
  · rw [Assembly.openBlock, endsHidden_push, Token.isClosing_eq_false (by simp [hn])]
    rfl

theorem Settled.startRun (h : a.Settled) : a.startRun.Settled :=
  ⟨⟨h.leveled, h.count⟩, h.capture, h.last, fun _ => nofun⟩

theorem Settled.closeBlock (h : a.Settled) {kind : Kind} {outer : List Kind}
    (hs : a.flush.stack = kind :: outer) : a.closeBlock.Settled := by
  obtain ⟨hcounted, -⟩ := h.flush
  rw [closeBlock_of_cons hs]
  refine ⟨hcounted.push_closing rfl hs rfl, a.capture_flush.trans h.capture, ?_, fun _ hr => ?_⟩
  · rw [endsHidden_push]
    rfl
  · simp [push, run_flush] at hr

theorem Settled.pushInline (h : a.Settled) (t : Token) : (a.pushInline t).Settled := by
  cases hr : a.run with
  | some run =>
    rw [pushInline_of_some hr]
    refine ⟨⟨h.leveled, h.count⟩, h.capture, h.last, fun children hc => ?_⟩
    obtain ⟨before, implicit⟩ := run
    simp only [Option.some.injEq, InlineRun.mk.injEq] at hc
    obtain ⟨-, rfl⟩ := hc
    exact h.implicit before hr
  | none =>
    rw [pushInline_of_none hr]
    have hopen := h.toCounted.push_opening
      (t := { Token.opening .paragraph a.level with hidden := true }) rfl
      (by rw [h.last]; rfl) .paragraph
    refine ⟨⟨hopen.leveled, hopen.count⟩, h.capture, ?_, fun _ _ => nofun⟩
    rw [endsHidden_push]
    rfl

theorem Settled.leaf (h : a.Settled) (hn : t.nesting = .single) (hl : t.level = a.flush.level) :
    ({ a.flush with capture := none }.push t).Settled := by
  have hcounted := h.flush.1.push_single hn hl
  refine ⟨⟨hcounted.leveled, hcounted.count⟩, rfl, ?_, fun _ hr => ?_⟩
  · rw [endsHidden_push, Token.isClosing_eq_false (by simp [hn])]
    rfl
  · simp [push, run_flush] at hr

/-- The blocks that are open, and the levels so far. -/
structure AtBlock (inner : List Kind) (a : Assembly) : Prop where
  stacked : Over [] [] inner a
  settled : a.Settled

theorem isBlockInvariant_atBlock : IsBlockInvariant AtBlock where
  note h ht hs hr hc := by
    refine ⟨h.stacked.note ht hs hr, ⟨⟨ht ▸ h.settled.leveled, ?_⟩, hc.trans h.settled.capture,
      ht ▸ h.settled.last, hr ▸ hs ▸ h.settled.implicit⟩⟩
    rw [ht, level, hs]
    exact h.settled.count
  capture h hc := ⟨h.stacked.note rfl rfl rfl,
    ⟨⟨h.settled.leveled, h.settled.count⟩, hc.none h.settled.capture, h.settled.last,
      h.settled.implicit⟩⟩
  openBlock h hn hh hl := ⟨h.stacked.openBlock hn hh, h.settled.openBlock hn hl⟩
  startRun h hr := ⟨h.stacked.startRun hr, h.settled.startRun⟩
  closeBlock h := ⟨h.stacked.closeBlock, h.settled.closeBlock h.stacked.stack_flush⟩
  pushInline t h := ⟨h.stacked.pushInline t, h.settled.pushInline t⟩
  leaf h hn hl hc := by
    rw [hc.none h.settled.capture]
    exact ⟨(h.stacked.flush.push_single hn).note rfl rfl rfl, h.settled.leaf hn hl⟩

end Assembly

/-- **The level of every token of a shaped sequence** is the number of blocks around it; a block
that begins right behind a hidden paragraph counts that paragraph as well. -/
theorem leveled_assemble {events : List Event} (h : Shaped events) :
    Leveled (assemble events).1 := by
  have hstart : Assembly.AtBlock [] {} :=
    ⟨Assembly.Over.self (a := {}) rfl, ⟨⟨leveled_nil, rfl⟩, rfl, rfl, fun _ => nofun⟩⟩
  have hend := Assembly.isBlockInvariant_atBlock.shaped h hstart
  have hstack := hend.stacked.stack_flush
  simp only [assemble, Assembly.finish]
  rw [hstack]
  exact hend.settled.flush.1.leveled

/-- A token has the number of blocks around it for its level unless it is a block that begins
right behind a hidden one. -/
theorem level_eq_unclosed_iff {before : List Token} {t : Token} (h : HasLevelAfter before t) :
    t.level + (if t.isClosing then 1 else 0) = unclosed before ↔
      ¬(t.isOpening = true ∧ endsHidden before = true) := by
  unfold HasLevelAfter at h
  by_cases hb : t.isOpening = true ∧ endsHidden before = true
  · simp only [hb.1, hb.2, Bool.and_self, if_true] at h
    simp only [hb.1, hb.2, and_self, not_true_eq_false, iff_false]
    omega
  · have hfalse : (t.isOpening && endsHidden before) = false := by
      rwa [← Bool.not_eq_true, Bool.and_eq_true]
    rw [hfalse] at h
    exact ⟨fun _ => hb, fun _ => h⟩

/-! ### What is assembled -/

/-- The tokens that are complete once some events have been taken in. -/
def assembledSoFar (events : List Event) : List Token :=
  (events.foldl Assembly.event {}).tokens.reverse

/-- What has been put together stays at the beginning. -/
theorem assembledSoFar_prefix (read rest : List Event) :
    assembledSoFar read <+: (assemble (read ++ rest)).1 := by
  refine List.reverse_prefix.mpr ?_
  rw [List.foldl_append]
  exact (Assembly.suffix_foldl rest _).trans (Assembly.suffix_finish _)

/-- Every start of a shaped sequence has its end, where the blocks that it has opened are
closed. -/
theorem exists_encloses_of_shaped {events before after : List Event} {tag : Tag}
    (hshaped : Shaped events) (h : events = before ++ Event.start tag :: after)
    (htag : tag.opensBlock = true) :
    ∃ body rest ready opened inside closed more,
      after = body ++ Event.finish tag.toEnd :: rest ∧ Content tag body ∧
      Encloses tag ready opened inside closed ∧
      assembledSoFar (before ++ [Event.start tag]) = assembledSoFar before ++ ready ++ opened ∧
      assembledSoFar (before ++ Event.start tag :: body)
        <+: assembledSoFar before ++ ready ++ opened ++ inside ∧
      assembledSoFar (before ++ within tag body)
        = assembledSoFar before ++ ready ++ opened ++ inside ++ closed ∧
      (assemble events).1 = assembledSoFar (before ++ within tag body) ++ more := by
  obtain ⟨body, rest, rfl, hbody⟩ := hshaped.matched before tag after h
  obtain ⟨ready, opened, inside, closed, hencloses, hstart, hinside, hend⟩ :=
    Assembly.exists_encloses htag hbody (before.foldl Assembly.event {})
  obtain ⟨more, hmore⟩ := assembledSoFar_prefix (before ++ within tag body) rest
  refine ⟨body, rest, ready, opened, inside, closed, more, rfl, hbody, hencloses, ?_, ?_, ?_, ?_⟩
  · rw [assembledSoFar, List.foldl_append]
    exact hstart
  · rw [assembledSoFar, List.foldl_append]
    exact hinside
  · rw [assembledSoFar, List.foldl_append]
    exact hend
  · rw [hmore, h]
    simp [within]

/-- **What is assembled from any events, and what from shaped ones.**  The tokens of any sequence
of events are balanced, every run separates its texts and caches the text of its children, and a
hidden paragraph is never closed at level zero.  If the sequence is shaped, every token has the
number of blocks around it for its level, unless it is a block that begins right behind a hidden
paragraph, which counts that paragraph as well; hidden blocks are closed by hidden ends; the
children of every run are balanced; and the blocks that a start opens are closed at its end. -/
theorem assemble_correct (events : List Event) :
    (checkBalance (assemble events).1 = .ok () ∧
      (∀ t ∈ (assemble events).1, t.kind = .inline →
        Separated t.children ∧ t.content = plainText t.children) ∧
      (∀ read run, read <+: events → (read.foldl Assembly.event {}).run = some run →
        run.implicit = true → 0 < (read.foldl Assembly.event {}).level)) ∧
    (Shaped events →
      (∀ before t after, (assemble events).1 = before ++ t :: after →
        HasLevelAfter before t ∧
        (t.level + (if t.isClosing then 1 else 0) = unclosed before ↔
          ¬(t.isOpening = true ∧ endsHidden before = true))) ∧
      IsBalanced (shownBrackets (assemble events).1) ∧
      (∀ t ∈ (assemble events).1, t.kind = .inline → IsBalanced (brackets t.children)) ∧
      (∀ before tag after, events = before ++ Event.start tag :: after → tag.opensBlock = true →
        ∃ body rest ready opened inside closed more,
          after = body ++ Event.finish tag.toEnd :: rest ∧ Content tag body ∧
          Encloses tag ready opened inside closed ∧
          assembledSoFar (before ++ [Event.start tag])
            = assembledSoFar before ++ ready ++ opened ∧
          assembledSoFar (before ++ Event.start tag :: body)
            <+: assembledSoFar before ++ ready ++ opened ++ inside ∧
          assembledSoFar (before ++ within tag body)
            = assembledSoFar before ++ ready ++ opened ++ inside ++ closed ∧
          (assemble events).1 = assembledSoFar (before ++ within tag body) ++ more)) := by
  refine ⟨⟨?_, fun t ht hk => ?_, fun read run _ hr hi => ?_⟩, fun hshaped => ⟨?_, ?_, ?_, ?_⟩⟩
  · exact checkBalance_eq_ok_iff.mpr (balanced_of_shown (balanced_assemble events))
  · have h := isAssembled_of_mem_assemble events t ht
    exact ⟨h.separated hk, h.content hk⟩
  · exact Assembly.pos_level_of_implicit read hr hi
  · intro before t after heq
    have h := leveled_assemble hshaped before t after heq
    exact ⟨h, level_eq_unclosed_iff h⟩
  · exact balanced_assemble events
  · exact balanced_children_of_properlyNested hshaped.properlyNested
  · exact fun before tag after heq htag => exists_encloses_of_shaped hshaped heq htag

/-- A list in an item, behind the text of that item. -/
def nestedList : List Event :=
  within (.list none) (within .item (.text "a" :: within (.list none) (within .item [.text "b"])))

theorem shaped_nestedList : Shaped nestedList := by
  have hitem : Shaped (within .item [.text "b"]) :=
    .of_append_nil (.container rfl (.leaf rfl .nil) .nil)
  have hlist : Shaped (within (.list none) (within .item [.text "b"])) :=
    .of_append_nil (.container rfl hitem .nil)
  have houter : Shaped (within .item
      (.text "a" :: within (.list none) (within .item [.text "b"]))) :=
    .of_append_nil (.container rfl (.leaf rfl hlist) .nil)
  exact .of_append_nil (.container rfl houter .nil)

theorem assemble_correct_nestedList :
    checkBalance (assemble nestedList).1 = .ok () ∧
      IsBalanced (shownBrackets (assemble nestedList).1) :=
  ⟨(assemble_correct nestedList).1.1, ((assemble_correct nestedList).2 shaped_nestedList).2.1⟩

/-- The inner list begins behind the hidden paragraph of the outer item and counts it. -/
theorem level_nestedList : ¬∀ (before : List Token) (t : Token) (after : List Token),
    (assemble nestedList).1 = before ++ t :: after →
      t.level + (if t.isClosing then 1 else 0) = unclosed before := by
  intro h
  -- Five tokens stand before the inner list: it is at level 3, with two blocks around it.
  have hlist := h ((assemble nestedList).1.take 5) (.opening .bulletList 3)
    ((assemble nestedList).1.drop 6) rfl
  revert hlist
  decide

end Markdown

end Folio
