import Folio.Proofs.AttachedBlocks
import Folio.Proofs.DefaultPlugins
import Folio.Proofs.LosslessAssembly
import Folio.Proofs.Mailboxes

/-!
# Addresses that link to themselves

Wherever an address links to itself, it becomes three tokens of a run, and these stay together.  The
token that opens the link says the address and nothing else.  Later only a block directly behind the
link is attached to that token, so its address is the one of the source unless such a block sets
another one.

## Main definitions

* `selfLinkTokens` — the tokens of an address that links to itself.
* `blockBehind?` — the block that stands directly behind an element.

## Main results

* `Markdown.exists_selfLink_assemble` — a run has the tokens.
* `exists_selfLink_anchored` — **so it has when the headings have their ids, with the block behind
  the link attached.**
-/

namespace Folio

open BracketOf (IsBalanced)
open Plugin.Attributes (sameShape_strippedRun strippedRun)

/-- The tokens of an address that links to itself, with a block attached to the link, if it is
handed one. -/
def selfLinkTokens (handed : Option AttributeBlock) (address : String) : List Token :=
  [attach handed (Markdown.Assembly.targetToken .link "href" ⟨address, ""⟩), .text address,
    .mark .link .closing]

theorem append_selfLinkTokens (handed : Option AttributeBlock) (address : String)
    (front behind : List Token) : front ++ selfLinkTokens handed address ++ behind
      = front ++ attach handed (Markdown.Assembly.targetToken .link "href" ⟨address, ""⟩) ::
        .text address :: .mark .link .closing :: behind := by
  simp [selfLinkTokens]

/-- The address of a link to itself: the one of the source, unless the block that is attached to the
link sets another one. -/
def selfLinkTarget (handed : Option AttributeBlock) (address : String) : String :=
  (handed.bind fun block => block.pairs.reverse.lookup "href").getD address

section Attributes

variable {name : String}

theorem Attributes.get?_set_of_ne {other : String} (h : name ≠ other) (attrs : Attributes)
    (value : String) : (attrs.set other value).get? name = attrs.get? name := by
  have hfalse : (name == other) = false := beq_false_of_ne h
  induction attrs with
  | nil => simp [Attributes.set, Attributes.get?, hfalse]
  | cons pair attrs ih =>
    obtain ⟨n, v⟩ := pair
    unfold Attributes.get? at ih ⊢
    rw [Attributes.set]
    split
    · next hn =>
      obtain rfl := beq_iff_eq.mp hn
      simp [List.lookup_cons, hfalse]
    · rw [List.lookup_cons, List.lookup_cons, ih]

theorem Attributes.get?_join_of_ne {other : String} (h : name ≠ other) (attrs : Attributes)
    (value : String) : (attrs.join other value).get? name = attrs.get? name := by
  have hfalse : (name == other) = false := beq_false_of_ne h
  induction attrs with
  | nil => simp [Attributes.join, Attributes.get?, hfalse]
  | cons pair attrs ih =>
    obtain ⟨n, v⟩ := pair
    unfold Attributes.get? at ih ⊢
    rw [Attributes.join]
    split
    · next hn =>
      obtain rfl := beq_iff_eq.mp hn
      simp [List.lookup_cons, hfalse]
    · rw [List.lookup_cons, List.lookup_cons, ih]

/-- Of the values of a block under one name the last one counts. -/
theorem AttributeBlock.attr?_foldl_applyPair (hname : name ≠ "class")
    (pairs : List (String × String)) : ∀ t : Token, (pairs.foldl applyPair t).attr? name
      = (pairs.reverse.lookup name).or (t.attr? name) := by
  induction pairs with
  | nil => exact fun _ => rfl
  | cons pair pairs ih =>
    intro t
    obtain ⟨n, v⟩ := pair
    have hpair : (applyPair t (n, v)).attr? name
        = if name = n then some v else t.attr? name := by
      unfold applyPair
      split
      · next hclass =>
        have hn : n = "class" := beq_iff_eq.mp hclass
        have hne : name ≠ n := hn ▸ hname
        rw [if_neg hne]
        exact Attributes.get?_join_of_ne hname t.attrs v
      · split
        · next hn =>
          subst hn
          exact Token.attr?_setAttr t name v
        · next hn => exact Attributes.get?_set_of_ne hn t.attrs v
    rw [List.foldl_cons, ih, hpair, List.reverse_cons, List.lookup_append, Option.or_assoc]
    by_cases hn : name = n
    · simp [hn]
    · simp [List.lookup_cons, hn, beq_false_of_ne hn]

/-- **What a block that is attached says of a name**: its last value, and what was there before if
it has none. -/
theorem AttributeBlock.attr?_apply (hid : name ≠ "id") (hclass : name ≠ "class")
    (block : AttributeBlock) (t : Token) : (block.apply t).attr? name
      = (block.pairs.reverse.lookup name).or (t.attr? name) := by
  have hclasses : ∀ (classes : List String) (t : Token),
      (classes.foldl (fun t name => t.joinAttr "class" name) t).attr? name = t.attr? name := by
    intro classes
    induction classes with
    | nil => exact fun _ => rfl
    | cons c classes ih =>
      intro t
      rw [List.foldl_cons, ih]
      exact Attributes.get?_join_of_ne hclass t.attrs c
  unfold apply
  dsimp only
  rw [attr?_foldl_applyPair hclass, hclasses]
  split
  · exact congrArg _ (Attributes.get?_set_of_ne hid t.attrs _)
  · rfl

theorem attr?_href_attach (handed : Option AttributeBlock) (address : String) :
    (attach handed (Markdown.Assembly.targetToken .link "href" ⟨address, ""⟩)).attr? "href"
      = some (selfLinkTarget handed address) := by
  have hattr : (Markdown.Assembly.targetToken .link "href" ⟨address, ""⟩).attr? "href"
      = some address := rfl
  cases handed with
  | none => exact hattr
  | some block =>
    rw [attach_some, block.attr?_apply (by decide) (by decide), hattr, selfLinkTarget,
      Option.bind_some]
    cases block.pairs.reverse.lookup "href" <;> rfl

end Attributes

/-- A text at the end stands behind tokens of which the last is no text. -/
theorem exists_eq_append_of_concat {part : List Token} (hlast : ∃ u ∈ part.getLast?, u.kind ≠ .text)
    {front behind before : List Token} {t : Token} (hk : t.kind = .text)
    (h : front ++ part ++ behind = before ++ [t]) :
    ∃ behind', before = front ++ part ++ behind' := by
  rcases List.eq_nil_or_concat' behind with rfl | ⟨behind', v, rfl⟩
  · obtain ⟨u, hu, hne⟩ := hlast
    rw [List.append_nil] at h
    have hlast : u ∈ (before ++ [t]).getLast? := by
      rw [← h]
      exact List.mem_getLast?_append_of_mem_getLast? hu
    rw [List.getLast?_concat, Option.mem_some_iff] at hlast
    exact absurd (hlast ▸ hk) hne
  · rw [← List.append_assoc] at h
    exact ⟨behind', (List.append_inj' h rfl).1.symm⟩

namespace Markdown

/-! ### Source and inline content -/

/-- The tag is a block of source. -/
def Tag.isSource : Tag → Bool
  | .codeBlock _ | .htmlBlock | .metadataBlock => true
  | _ => false

namespace Assembly

variable {a : Assembly} {address : String}

theorem capture_endCapture (a : Assembly) : a.endCapture.capture = none := by
  unfold endCapture
  split
  · rfl
  · rfl
  · rfl
  · assumption

/-- Source is captured from the start of its block to the end. -/
theorem capture_event {e : Event} (h : (a.event e).capture ≠ none) :
    (∃ tag : Tag, e = .start tag ∧ tag.isSource = true) ∨
      (a.capture ≠ none ∧ ∀ tag : Tag, tag.isSource = true → e ≠ .finish tag.toEnd) := by
  have hopen : ∀ (b : Assembly) (t : Token), (b.openBlock t).capture = b.capture := fun b _ =>
    b.capture_flush
  cases e with
  | start tag =>
    cases tag with
    | codeBlock _ | htmlBlock | metadataBlock => exact .inl ⟨_, rfl, rfl⟩
    | tableRow =>
      refine .inr ⟨?_, fun _ _ => Event.noConfusion⟩
      rw [event, start_tableRow, hopen] at h
      unfold rowBase at h
      dsimp only at h
      split at h
      · exact h
      · rwa [hopen] at h
    | tableCell =>
      refine .inr ⟨?_, fun _ _ => Event.noConfusion⟩
      simp only [event, start, startRun] at h
      rwa [hopen] at h
    | _ =>
      refine .inr ⟨?_, fun _ _ => Event.noConfusion⟩
      simpa [event, start, startRun, hopen, capture_pushInline] using h
  | finish tag =>
    have hsource : ∀ tag' : Tag, tag'.isSource = true →
        tag'.toEnd ∈ [TagEnd.codeBlock, .htmlBlock, .metadataBlock] := by
      intro tag' htag'
      cases tag' <;> simp_all [Tag.isSource, Tag.toEnd]
    have hother : tag ∉ [TagEnd.codeBlock, .htmlBlock, .metadataBlock] →
        ∀ tag' : Tag, tag'.isSource = true → Event.finish tag ≠ .finish tag'.toEnd := by
      intro hnot tag' htag' heq
      exact hnot (Event.finish.inj heq ▸ hsource tag' htag')
    cases tag with
    | codeBlock | htmlBlock | metadataBlock => exact absurd a.capture_endCapture h
    | table =>
      refine .inr ⟨?_, hother (by simp)⟩
      simp only [event, finishTag] at h
      rw [capture_closeBlock] at h
      split at h
      · rwa [capture_closeBlock] at h
      · exact h
    | _ =>
      refine .inr ⟨?_, hother (by simp)⟩
      simpa [event, finishTag, capture_closeBlock, capture_pushInline] using h
  | _ =>
    refine .inr ⟨fun hnone => h ?_, fun _ _ => Event.noConfusion⟩
    simp [event, text, hnone, capture_pushInline, capture_flush, push]

/-- What is captured has begun before and has not ended. -/
theorem exists_start_of_capture {events : List Event} (ha : a.capture = none)
    (h : (events.foldl event a).capture ≠ none) : ∃ before inside, ∃ tag : Tag,
      events = before ++ Event.start tag :: inside ∧ tag.isSource = true ∧
        ∀ tag' : Tag, tag'.isSource = true → Event.finish tag'.toEnd ∉ inside := by
  induction events using List.reverseRecOn with
  | nil => exact absurd ha h
  | append_singleton events e ih =>
    rw [List.foldl_append, List.foldl_cons, List.foldl_nil] at h
    rcases capture_event h with ⟨tag, rfl, htag⟩ | ⟨hopen, hend⟩
    · exact ⟨events, [], tag, rfl, htag, fun _ _ => List.not_mem_nil⟩
    · obtain ⟨before, inside, tag, rfl, htag, hinside⟩ := ih hopen
      refine ⟨before, inside ++ [e], tag, by simp, htag, fun tag' htag' => ?_⟩
      rw [List.mem_append, List.mem_singleton, not_or]
      exact ⟨hinside tag' htag', (hend tag' htag').symm⟩

/-- **Nothing is captured where a tag starts**: source has no tags in it. -/
theorem capture_eq_none_of_start {before after : List Event} {tag : Tag}
    (h : Matched (before ++ .start tag :: after)) (ha : a.capture = none) :
    (before.foldl event a).capture = none := by
  by_contra hcapture
  obtain ⟨front, inside, source, rfl, hsource, hinside⟩ := exists_start_of_capture ha hcapture
  obtain ⟨body, rest, hbody, hcontent⟩ :=
    h front source (inside ++ .start tag :: after) (by simp)
  -- The block of source has not ended, so the start stands in it.
  have hstart : .start tag ∈ body := by
    rcases List.append_eq_append_iff.mp hbody with ⟨mid, rfl, hmid⟩ | ⟨mid, rfl, hmid⟩
    · cases mid with
      | nil => simp at hmid
      | cons e mid =>
        obtain ⟨rfl, -⟩ := List.cons.inj hmid
        simp
    · cases mid with
      | nil => simp at hmid
      | cons e mid =>
        obtain ⟨rfl, -⟩ := List.cons.inj hmid
        exact absurd (by simp) (hinside source hsource)
  cases source with
  | codeBlock _ | metadataBlock => exact absurd (hcontent _ hstart) (by simp [Event.isText])
  | htmlBlock => exact absurd (hcontent _ hstart) (by simp [Event.isSource])
  | _ => simp [Tag.isSource] at hsource

/-! ### Tokens that stay together -/

/-- Some run has these tokens, a complete one or the one that is being gathered. -/
def HasInRun (part : List Token) (a : Assembly) : Prop :=
  (∃ run ∈ a.tokens, run.kind = .inline ∧ part <:+: run.children) ∨ part <:+: a.runChildren

/-- Only a text behind a text is joined. -/
theorem addInline_of_ne {children : List Token} {t : Token}
    (h : ∀ last ∈ children.head?, t.kind = .text → last.kind ≠ .text) :
    addInline children t = t :: children := by
  cases children with
  | nil => rfl
  | cons last before =>
    rw [addInline, if_neg]
    rw [Bool.and_eq_true, beq_iff_eq, beq_iff_eq, not_and]
    exact h last rfl

section HasInRun

variable {part : List Token}

/-- Only the last token of a run is joined with what follows, and only if it is text. -/
theorem isInfix_addInline (hlast : ∃ t ∈ part.getLast?, t.kind ≠ .text) {children : List Token}
    (h : part <:+: children.reverse) (t : Token) : part <:+: (addInline children t).reverse := by
  have hcons : part <:+: (t :: children).reverse := by
    rw [List.reverse_cons]
    exact h.trans (List.infix_append' [] _ [t])
  cases children with
  | nil => exact hcons
  | cons last before =>
    rw [addInline]
    split
    · next hcond =>
      rw [Bool.and_eq_true, beq_iff_eq, beq_iff_eq] at hcond
      obtain ⟨front, behind, heq⟩ := h
      rw [List.reverse_cons] at heq ⊢
      obtain ⟨behind', hbefore⟩ := exists_eq_append_of_concat hlast hcond.2 heq
      refine ⟨front, behind' ++ [{ last with content := last.content ++ t.content }], ?_⟩
      rw [hbefore, List.append_assoc (front ++ part)]
    · exact hcons

variable (hlast : ∃ t ∈ part.getLast?, t.kind ≠ .text)

include hlast

/-- Completing the run leaves its tokens together. -/
theorem HasInRun.flush (h : HasInRun part a) : ∃ run ∈ a.flush.tokens, run.kind = .inline ∧
    part <:+: run.children := by
  rcases h with ⟨run, hrun, hk, hpart⟩ | h
  · exact ⟨run, a.suffix_flush.subset hrun, hk, hpart⟩
  · cases hr : a.run with
    | none =>
      rw [runChildren, hr] at h
      rw [List.infix_nil.mp h] at hlast
      obtain ⟨t, ht, -⟩ := hlast
      cases ht
    | some run =>
      obtain ⟨children, implicit⟩ := run
      rw [runChildren, hr] at h
      refine ⟨.inlineRun children.reverse a.level, ?_, rfl, h⟩
      cases implicit with
      | false =>
        rw [flush_of_explicit hr]
        exact List.mem_cons_self
      | true =>
        rw [flush_of_implicit hr]
        exact List.mem_cons_of_mem _ List.mem_cons_self

theorem HasInRun.blockStep {b : Assembly} (hstep : BlockStep a b) (h : HasInRun part a) :
    HasInRun part b := by
  have hcomplete : a.flush.tokens ⊆ b.tokens → HasInRun part b := by
    intro hsubset
    obtain ⟨run, hrun, hk, hpart⟩ := h.flush hlast
    exact .inl ⟨run, hsubset hrun, hk, hpart⟩
  have hrun : b.run = a.run → HasInRun part b := by
    intro hr
    rcases h with ⟨run, hrun, hk, hpart⟩ | h
    · exact .inl ⟨run, (suffix_blockStep hstep).subset hrun, hk, hpart⟩
    · exact .inr (by rwa [runChildren, hr])
  cases hstep with
  | flush => exact hcomplete (List.Subset.refl _)
  | openBlock => exact hcomplete (List.subset_cons_self _ _)
  | closeBlock =>
    refine hcomplete ?_
    unfold Assembly.closeBlock
    dsimp only
    split
    · exact List.Subset.refl _
    · exact List.subset_cons_self _ _
  | startRun hnone =>
    rw [flush_of_none hnone] at hcomplete
    exact hcomplete (List.Subset.refl _)
  | rule | capture => exact hrun rfl
  | note _ _ hr => exact hrun hr
  | endCapture =>
    refine hrun ?_
    unfold Assembly.endCapture
    split <;> rfl

theorem HasInRun.pushInline (h : HasInRun part a) (t : Token) : HasInRun part (a.pushInline t) := by
  rcases h with ⟨run, hrun, hk, hpart⟩ | h
  · exact .inl ⟨run, (a.suffix_pushInline t).subset hrun, hk, hpart⟩
  · refine .inr ?_
    rw [runChildren_pushInline]
    exact isInfix_addInline hlast (by rwa [List.reverse_reverse]) t

/-- **Tokens that stand together in a run stay together**, whatever comes. -/
theorem HasInRun.exists_run_finish (h : HasInRun part a) (events : List Event) :
    ∃ run ∈ (events.foldl event a).finish.tokens, run.kind = .inline ∧ part <:+: run.children := by
  have hfold : HasInRun part (events.foldl event a) :=
    foldl_preserves (HasInRun.blockStep hlast) (fun _ h => h.pushInline hlast _) events h
  obtain ⟨run, hrun, hk, hpart⟩ := hfold.flush hlast
  have hsuffix : (events.foldl event a).flush.tokens <:+ (events.foldl event a).finish.tokens :=
    closeAll_preserves (I := fun b => (events.foldl event a).flush.tokens <:+ b.tokens)
      (fun hstep h => h.trans (suffix_blockStep hstep)) _ (List.suffix_refl _)
  exact ⟨run, hsuffix.subset hrun, hk, hpart⟩

end HasInRun

/-- An address that links to itself becomes tokens of a run that stand together. -/
theorem hasInRun_selfLink (h : a.capture = none) (address : String) :
    HasInRun (selfLinkTokens none address) ((selfLink address).foldl event a) := by
  -- The text cannot be joined to the token before it, which opens the link.
  have hrun : ((selfLink address).foldl event a).runChildren
      = a.runChildren ++ selfLinkTokens none address := by
    obtain ⟨hk, -, -, -⟩ := targetToken_spec .link "href" ⟨address, ""⟩
    have hne : (targetToken .link "href" ⟨address, ""⟩).kind ≠ .text := by
      rw [hk]
      exact Kind.noConfusion
    have hopening : addInline a.runChildren.reverse (targetToken .link "href" ⟨address, ""⟩)
        = targetToken .link "href" ⟨address, ""⟩ :: a.runChildren.reverse :=
      addInline_of_ne fun _ _ htext => absurd htext hne
    have htext : addInline (targetToken .link "href" ⟨address, ""⟩ :: a.runChildren.reverse)
        (.text address) = .text address :: targetToken .link "href" ⟨address, ""⟩ ::
          a.runChildren.reverse :=
      addInline_of_ne fun last hlast _ => Option.some.inj hlast ▸ hne
    have hclosing : ∀ children, addInline children (.mark .link .closing)
        = .mark .link .closing :: children :=
      fun _ => addInline_of_ne fun _ _ => nofun
    simp only [selfLink, within, List.cons_append, List.nil_append, List.foldl_cons,
      List.foldl_nil, event, start, Tag.toEnd, finishTag, text, capture_pushInline, h,
      runChildren_pushInline, List.reverse_reverse]
    rw [hopening, htext, hclosing]
    simp [selfLinkTokens]
  refine .inr ?_
  rw [hrun]
  exact (List.suffix_append _ _).isInfix

end Assembly

/-- **Where an address links to itself, a run has its tokens.** -/
theorem exists_selfLink_assemble {before after : List Event} {address : String}
    (h : Shaped (before ++ selfLink address ++ after)) :
    ∃ run ∈ (assemble (before ++ selfLink address ++ after)).1, run.kind = .inline ∧
      selfLinkTokens none address <:+: run.children := by
  have hstart : before ++ selfLink address ++ after
      = before ++ .start (.link ⟨address, ""⟩) :: (.text address :: .finish .link :: after) := by
    simp [selfLink, within, Tag.toEnd]
  have hmatched := h.matched
  rw [hstart] at hmatched
  have hcapture := Assembly.capture_eq_none_of_start (a := {}) hmatched rfl
  have hlink := Assembly.hasInRun_selfLink hcapture address
  obtain ⟨run, hrun, hk, hpart⟩ :=
    hlink.exists_run_finish ⟨_, rfl, Kind.noConfusion⟩ after
  refine ⟨run, ?_, hk, hpart⟩
  rw [assemble, List.mem_reverse, List.foldl_append, List.foldl_append]
  exact hrun

end Markdown

/-! ### The block behind a link -/

/-- The block that stands directly behind an element. -/
def blockBehind? (d : Delimiters) (ts : List Token) : Option AttributeBlock :=
  ts.head?.bind fun t =>
    if t.kind = .text then (d.stripLeading? t.content).map Prod.fst else none

theorem blockBehind?_of_ne {t : Token} (hk : t.kind ≠ .text) (d : Delimiters) (ts : List Token) :
    blockBehind? d (t :: ts) = none := if_neg hk

/-- What ends an element has no block at its beginning. -/
theorem blockBehind?_append {t : Token} (hk : t.kind ≠ .text) (d : Delimiters)
    (ts us : List Token) : blockBehind? d (ts ++ t :: us) = blockBehind? d ts := by
  cases ts with
  | nil => exact blockBehind?_of_ne hk d us
  | cons u ts => rfl

/-- A text behind an element hands back the block with which it begins. -/
theorem blockBehind?_eq_some_iff {d : Delimiters} {t : Token} (hk : t.kind = .text)
    {ts : List Token} {block : AttributeBlock} : blockBehind? d (t :: ts) = some block ↔
      ∃ inner rest, d.BeginsWith t.content.toList inner rest block := by
  have htext : blockBehind? d (t :: ts) = (d.stripLeading? t.content).map Prod.fst := if_pos hk
  rw [htext, Option.map_eq_some_iff]
  constructor
  · rintro ⟨⟨block, rest⟩, hstrip, rfl⟩
    obtain ⟨inner, hblock⟩ := Delimiters.stripLeading?_eq_some_iff.mp hstrip
    exact ⟨inner, rest.toList, hblock⟩
  · rintro ⟨inner, rest, hblock⟩
    rw [← String.toList_ofList (l := rest)] at hblock
    exact ⟨_, Delimiters.stripLeading?_eq_some_iff.mpr ⟨inner, hblock⟩, rfl⟩

namespace HandsBack

variable {d : Delimiters} {behind : Bool} {ts us : List Token} {handed : Option AttributeBlock}

/-- The content is nested before its blocks are taken off, too. -/
theorem nested_left (h : HandsBack d behind ts us handed) : Nested ts := by
  induction h with
  | nil => exact .nil
  | shortened _ hn _ _ _ ih | dropped _ hn _ _ _ ih => exact .single hn ih
  | single hn _ _ _ ih | code hn _ _ ih => exact .single hn ih
  | pair ho hc hk _ _ _ ihbody ihrest => exact .pair ho hc hk ihbody ihrest

/-- Content behind an element hands back the block at its beginning. -/
theorem handed_eq (h : HandsBack d true ts us handed) : handed = blockBehind? d ts := by
  generalize hb : true = behind at h
  cases h with
  | nil => rfl
  | shortened hk _ hblock | dropped hk _ hblock =>
    exact ((blockBehind?_eq_some_iff hk).mpr ⟨_, _, hblock⟩).symm
  | @single _ t _ _ _ _ hnone =>
    symm
    by_cases hk : t.kind = .text
    · rw [Option.eq_none_iff_forall_ne_some]
      intro block hblock
      obtain ⟨inner, rest, hbegins⟩ := (blockBehind?_eq_some_iff hk).mp hblock
      exact hnone hb.symm hk inner rest block hbegins
    · exact blockBehind?_of_ne hk d _
  | code _ hk => exact (blockBehind?_of_ne (by rw [hk]; exact Kind.noConfusion) d _).symm
  | pair _ _ _ hpair => exact (blockBehind?_of_ne (Kind.ne_of_isInlinePair hpair).1 d _).symm

/-- A text that stands behind no element stays what it is. -/
theorem eq_of_text {t : Token} (h : HandsBack d false [t] us none) (hk : t.kind = .text) :
    us = [t] := by
  generalize hts : [t] = ts at h
  cases h with
  | nil => cases hts
  | single _ _ _ hrest =>
    obtain ⟨rfl, rfl⟩ := List.cons.inj hts
    cases hrest
    rfl
  | code _ hcode =>
    obtain ⟨rfl, -⟩ := List.cons.inj hts
    rw [hk] at hcode
    cases hcode
  | pair => simp at hts

end HandsBack

/-- A token that opens something is not the one that stands alone at the beginning. -/
theorem exists_front_of_single {t o : Token} {ts front rest : List Token} (ht : t.nesting = .single)
    (ho : o.nesting = .opening) (h : t :: ts = front ++ o :: rest) :
    ∃ front', front = t :: front' ∧ ts = front' ++ o :: rest := by
  cases front with
  | nil =>
    obtain ⟨rfl, -⟩ := List.cons.inj h
    rw [ht] at ho
    cases ho
  | cons u front =>
    obtain ⟨rfl, hts⟩ := List.cons.inj h
    exact ⟨front, rfl, hts⟩

/-- Where an element with one token in it stands beside another element: it is that element, or it
stands in it, or behind it. -/
theorem element_cases {o o' t c c' : Token} {body rest front rest' : List Token}
    (hbody : Nested body) (ho : o.nesting = .opening) (ht : t.nesting = .single)
    (hc : c.nesting = .closing) (hc' : c'.nesting = .closing)
    (h : o' :: body ++ c' :: rest' = front ++ o :: t :: c :: rest) :
    (front = [] ∧ o' = o ∧ body = [t] ∧ c' = c ∧ rest' = rest) ∨
    (∃ before behind, body = before ++ o :: t :: c :: behind ∧ rest = behind ++ c' :: rest') ∨
    ∃ before, rest' = before ++ o :: t :: c :: rest := by
  have hclash : ∀ {u v : Token} {n m : Nesting}, u.nesting = n → v.nesting = m → n ≠ m → u ≠ v := by
    rintro u v n m hu hv hne rfl
    exact hne (hu.symm.trans hv)
  have hbalanced := hbody.balanced
  cases front with
  | nil =>
    simp only [List.cons_append, List.nil_append, List.cons.injEq] at h
    obtain ⟨hopen, hbehind⟩ := h
    -- The body begins with the text, and the element ends behind it.
    cases body with
    | nil => exact absurd (List.cons.inj hbehind).1 (hclash hc' ht Nesting.noConfusion)
    | cons u body =>
      simp only [List.cons_append, List.cons.injEq] at hbehind
      obtain ⟨rfl, hbehind⟩ := hbehind
      cases body with
      | nil =>
        obtain ⟨hclose, hrest⟩ := List.cons.inj hbehind
        exact .inl ⟨rfl, hopen, rfl, hclose, hrest⟩
      | cons v body =>
        obtain rfl := (List.cons.inj hbehind).1
        rw [IsBalanced, brackets, bracketsBy_cons_single _ ht, bracketsBy_cons_closing _ hc,
          BracketOf.scan_closing_nil] at hbalanced
        cases hbalanced
  | cons u front =>
    simp only [List.cons_append, List.cons.injEq] at h
    rcases List.append_eq_append_iff.mp h.2 with ⟨mid, hfront, hrest⟩ | ⟨mid, rfl, hrest⟩
    · cases mid with
      | nil => exact absurd (List.cons.inj hrest).1 (hclash hc' ho Nesting.noConfusion)
      | cons u mid => exact .inr (.inr ⟨mid, (List.cons.inj hrest).2⟩)
    · rcases mid with _ | ⟨u, _ | ⟨v, _ | ⟨w, mid⟩⟩⟩
      · exact absurd (List.cons.inj hrest).1.symm (hclash hc' ho Nesting.noConfusion)
      · simp only [List.cons_append, List.nil_append, List.cons.injEq] at hrest
        exact absurd hrest.2.1.symm (hclash hc' ht Nesting.noConfusion)
      · -- The body would end between the ends of the element.
        simp only [List.cons_append, List.nil_append, List.cons.injEq] at hrest
        obtain ⟨rfl, rfl, -⟩ := hrest
        obtain ⟨inside, w, after, heq, hw, -⟩ := exists_partner Token.kind ho hbalanced
        have hmem : w ∈ [t] := by
          rw [heq]
          simp
        exact absurd (List.mem_singleton.mp hmem) (hclash hw ht Nesting.noConfusion)
      · simp only [List.cons_append, List.cons.injEq] at hrest
        obtain ⟨rfl, rfl, rfl, hrest⟩ := hrest
        exact .inr (.inl ⟨front, mid, rfl, hrest⟩)

namespace HandsBack

variable {d : Delimiters} {behind : Bool} {ts us : List Token} {handed : Option AttributeBlock}

/-- **An element with one text in it keeps its place**, and the block directly behind it is attached
to the token that opens it. -/
theorem exists_append_element (h : HandsBack d behind ts us handed) {o t c : Token}
    (ho : o.nesting = .opening) (ht : t.nesting = .single) (htext : t.kind = .text)
    (hc : c.nesting = .closing) : ∀ {front rest : List Token}, ts = front ++ o :: t :: c :: rest →
      ∃ front' rest', us = front' ++ attach (blockBehind? d rest) o :: t :: c :: rest' := by
  induction h with
  | nil => exact fun h => by simp at h
  | shortened _ hn _ _ _ ih | single hn _ _ _ ih | code hn _ _ ih =>
    intro front rest heq
    obtain ⟨front, -, hts⟩ := exists_front_of_single hn ho heq
    obtain ⟨front', rest', rfl⟩ := ih hts
    exact ⟨_ :: front', rest', rfl⟩
  | dropped _ hn _ _ _ ih =>
    intro front rest heq
    obtain ⟨front, -, hts⟩ := exists_front_of_single hn ho heq
    exact ih hts
  | @pair _ o' c' body body' _ rest' handed' _ hc' hk hpair hbody hrest ihbody ihrest =>
    intro front rest heq
    rcases element_cases hbody.nested_left ho ht hc hc' heq with
      ⟨-, rfl, rfl, rfl, rfl⟩ | ⟨before, behind, hin, rfl⟩ | ⟨before, hbehind⟩
    · rw [hbody.eq_of_text htext, hrest.handed_eq]
      exact ⟨[], rest', rfl⟩
    · obtain ⟨front', behind', rfl⟩ := ihbody hin
      rw [blockBehind?_append (by rw [hk]; exact (Kind.ne_of_isInlinePair hpair).1)]
      refine ⟨attach handed' o' :: front', behind' ++ c' :: rest', ?_⟩
      simp only [List.cons_append, List.append_assoc]
    · obtain ⟨front', behind', rfl⟩ := ihrest hbehind
      refine ⟨attach handed' o' :: body' ++ c' :: front', behind', ?_⟩
      simp only [List.cons_append, List.append_assoc]

end HandsBack

/-- Cutting a block off the end leaves tokens together of which the last is no text. -/
theorem CutsEnd.exists_append {d : Delimiters} {front part behind rest : List Token}
    {block : AttributeBlock} (h : CutsEnd d (front ++ part ++ behind) rest block)
    (hlast : ∃ t ∈ part.getLast?, t.kind ≠ .text) : ∃ behind', rest = front ++ part ++ behind' := by
  generalize hts : front ++ part ++ behind = ts at h
  cases h with
  | shortened hk =>
    obtain ⟨behind', rfl⟩ := exists_eq_append_of_concat hlast hk hts
    exact ⟨behind' ++ [_], List.append_assoc _ _ _⟩
  | dropped hk => exact exists_eq_append_of_concat hlast hk hts

/-! ### The document -/

/-- A run of a document has the tokens of an address that links to itself.  When the headings have
their ids, the run has them still, behind `front`, and the block behind the link is `handed` to
it. -/
inductive Options.KeepsSelfLink (o : Options) (events : List Markdown.Event) (address : String) :
    (front : List Token) → (handed : Option AttributeBlock) → Prop
  | mk {i : Nat} {run run' : Token} {front behind front' behind' : List Token}
      (assembled : (Markdown.assemble events).1[i]? = some run)
      (anchored : (o.anchored events)[i]? = some run')
      (kind : run.kind = .inline) (kind' : run'.kind = .inline)
      (tokens : run.children = front ++ selfLinkTokens none address ++ behind)
      (attached : run'.children
        = front' ++ selfLinkTokens (blockBehind? o.delimiters behind) address ++ behind') :
      KeepsSelfLink o events address front' (blockBehind? o.delimiters behind)

/-- Ids are no matter of runs. -/
theorem Plugin.Anchors.exists_getElem?_revise {ts : List Token} {i : Nat} {t : Token}
    (h : ts[i]? = some t) : ∃ u, (revise ts)[i]? = some u ∧ u.kind = t.kind ∧
      u.children = t.children := by
  have hall : List.Forall₂ (fun t u : Token => u.kind = t.kind ∧ u.children = t.children) ts
      (revise ts) :=
    forall₂_assign_of (fun _ => ⟨rfl, rfl⟩) (fun _ _ => ⟨rfl, rfl⟩) ts _
  obtain ⟨hi, rfl⟩ := List.getElem?_eq_some_iff.mp h
  have hi' : i < (revise ts).length := hall.length_eq ▸ hi
  exact ⟨_, List.getElem?_eq_getElem hi', hall.get hi hi'⟩

/-- A run without its attribute blocks keeps the tokens of an address that links to itself. -/
theorem AreNestedBlocks.exists_selfLink_strippedRun {ts : List Token} (h : AreNestedBlocks ts)
    (d : Delimiters) {i : Nat} {run : Token} (hi : ts[i]? = some run) (hk : run.kind = .inline)
    {front behind : List Token} {address : String}
    (htokens : run.children = front ++ selfLinkTokens none address ++ behind) :
    ∃ front' behind', (strippedRun d (ts.take i).reverse run).children
      = front' ++ selfLinkTokens (blockBehind? d behind) address ++ behind' := by
  have hback := h.handsBack d (List.mem_of_getElem? hi) hk
  obtain ⟨-, hopening, -, -⟩ := Markdown.Assembly.targetToken_spec .link "href" ⟨address, ""⟩
  rw [append_selfLinkTokens] at htokens
  obtain ⟨front', behind', helements⟩ := hback.exists_append_element hopening rfl rfl rfl htokens
  rw [← append_selfLinkTokens] at helements
  rcases h.strippedRun_cases d hi hk with ⟨block, j, rest, -, hcut, heq⟩ | ⟨-, heq⟩
  · rw [helements] at hcut
    obtain ⟨behind'', rfl⟩ := hcut.exists_append ⟨_, rfl, Kind.noConfusion⟩
    exact ⟨front', behind'', by rw [heq]⟩
  · exact ⟨front', behind', by rw [heq]; exact helements⟩

/-- **Where an address links to itself, a run keeps its tokens.** -/
theorem Options.keepsSelfLink (o : Options) {before after : List Markdown.Event} {address : String}
    (h : Markdown.Shaped (before ++ Markdown.selfLink address ++ after)) :
    ∃ front handed,
      o.KeepsSelfLink (before ++ Markdown.selfLink address ++ after) address front handed := by
  obtain ⟨run, hrun, hk, front, behind, htokens⟩ := Markdown.exists_selfLink_assemble h
  obtain ⟨i, hi⟩ := List.getElem?_of_mem hrun
  have hblocks := areNestedBlocks_assemble h.properlyNested
  obtain ⟨front', behind', hstripped⟩ :=
    hblocks.exists_selfLink_strippedRun o.delimiters hi hk htokens.symm
  obtain ⟨run', hanchored, hk', hchildren⟩ :=
    Plugin.Anchors.exists_getElem?_revise (hblocks.revise_run (d := o.delimiters) hi hk)
  refine ⟨front', _, .mk hi hanchored hk ?_ htokens.symm (hchildren.trans hstripped)⟩
  rw [hk', sameShape_strippedRun.1, hk]

end Folio
