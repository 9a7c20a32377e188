import Mathlib.Data.List.Forall2
import Folio.Plugin.Attributes
import Folio.Proofs.Nesting

/-!
# What the attribute plugin changes

Attributes are attached to tokens that have been passed already, so the plugin rewrites the list
behind itself.  All that it does there is to change attributes.  Beside that every run is changed
on its own: it loses the blocks that follow its elements, and the block at its end if a block
around the run takes it.

## Main definitions

* `SameShape` — the tokens have the same place in the structure.
* `ChangesAttrs` — the tokens differ in their attributes at most.
* `SameButAttrs` — the tokens differ in their attributes and in the words behind a fence at most.
* `EditsTexts` — texts are changed or left out, and attributes are changed.
* `Attributes.strippedRun` — a run without its attribute blocks.
* `Attributes.stripped` — all runs of a list without their attribute blocks.
* `Attributes.IsAttachment` — relations that attaching a block respects.

## Main results

* `Attributes.forall₂_revise` — **the plugin strips every run, and changes nothing else but
  attributes.**
-/

namespace Folio

/-- The tokens differ in their attributes at most. -/
def ChangesAttrs (t t' : Token) : Prop := ∃ attrs, t' = { t with attrs }

/-- The tokens differ in their attributes and in the words behind a fence at most. -/
def SameButAttrs (t t' : Token) : Prop := ∃ attrs info, t' = { t with attrs, info }

/-- The tokens have the same place in the structure. -/
def SameShape (t t' : Token) : Prop :=
  t'.kind = t.kind ∧ t'.nesting = t.nesting ∧ t'.hidden = t.hidden

theorem SameShape.trans {t u v : Token} (h : SameShape t u) (h' : SameShape u v) :
    SameShape t v :=
  ⟨h'.1.trans h.1, h'.2.1.trans h.2.1, h'.2.2.trans h.2.2⟩

namespace SameButAttrs

theorem refl (t : Token) : SameButAttrs t t := by
  cases t
  exact ⟨_, _, rfl⟩

theorem trans {t u v : Token} (h : SameButAttrs t u) (h' : SameButAttrs u v) :
    SameButAttrs t v := by
  obtain ⟨attrs, info, rfl⟩ := h
  obtain ⟨attrs', info', rfl⟩ := h'
  exact ⟨attrs', info', rfl⟩

theorem sameShape {t t' : Token} (h : SameButAttrs t t') : SameShape t t' := by
  obtain ⟨attrs, info, rfl⟩ := h
  exact ⟨rfl, rfl, rfl⟩

end SameButAttrs

namespace ChangesAttrs

theorem refl (t : Token) : ChangesAttrs t t := by
  cases t
  exact ⟨_, rfl⟩

theorem trans {t u v : Token} (h : ChangesAttrs t u) (h' : ChangesAttrs u v) :
    ChangesAttrs t v := by
  obtain ⟨attrs, rfl⟩ := h
  obtain ⟨attrs', rfl⟩ := h'
  exact ⟨attrs', rfl⟩

theorem sameButAttrs {t t' : Token} (h : ChangesAttrs t t') : SameButAttrs t t' := by
  obtain ⟨attrs, rfl⟩ := h
  exact ⟨attrs, t.info, rfl⟩

end ChangesAttrs

theorem forall₂_refl {R : Token → Token → Prop} (h : ∀ t, R t t) (ts : List Token) :
    List.Forall₂ R ts ts := by
  induction ts with
  | nil => exact .nil
  | cons t ts ih => exact .cons (h t) ih

theorem forall₂_trans {α β γ : Type} {R : α → β → Prop} {S : β → γ → Prop} {T : α → γ → Prop}
    (h : ∀ {x y z}, R x y → S y z → T x z) {xs : List α} {ys : List β} {zs : List γ}
    (hxy : List.Forall₂ R xs ys) (hyz : List.Forall₂ S ys zs) : List.Forall₂ T xs zs := by
  induction hxy generalizing zs with
  | nil =>
    cases hyz
    exact .nil
  | cons hr _ ih =>
    cases hyz with
    | cons hs hyz => exact .cons (h hr hs) (ih hyz)

/-! ### Editing texts -/

/-- The tokens differ in their attributes, and in their content if they are text. -/
structure Edited (t t' : Token) : Prop where
  eq : ∃ attrs content info, t' = { t with attrs, content, info }
  content : t.kind ≠ .text → t'.content = t.content

theorem SameButAttrs.edited {t t' : Token} (h : SameButAttrs t t') : Edited t t' := by
  obtain ⟨attrs, info, rfl⟩ := h
  exact ⟨⟨attrs, t.content, info, rfl⟩, fun _ => rfl⟩

theorem edited_withContent {t : Token} (hk : t.kind = .text) (s : String) :
    Edited t (t.withContent s) :=
  ⟨⟨t.attrs, s, t.info, rfl⟩, fun h => absurd hk h⟩

theorem Edited.kind {t t' : Token} (h : Edited t t') : t'.kind = t.kind := by
  obtain ⟨attrs, content, info, rfl⟩ := h.eq
  rfl

theorem Edited.trans {t u v : Token} (h : Edited t u) (h' : Edited u v) : Edited t v := by
  refine ⟨?_, fun hk => ?_⟩
  · obtain ⟨attrs, content, info, rfl⟩ := h.eq
    obtain ⟨attrs', content', info', rfl⟩ := h'.eq
    exact ⟨attrs', content', info', rfl⟩
  · rw [h'.content (h.kind ▸ hk), h.content hk]

/-- Texts are changed or left out, and attributes are changed. -/
inductive EditsTexts : List Token → List Token → Prop
  | nil : EditsTexts [] []
  | keep {t t' : Token} {ts ts' : List Token} (h : Edited t t') (hts : EditsTexts ts ts') :
      EditsTexts (t :: ts) (t' :: ts')
  | drop {t : Token} {ts ts' : List Token} (hk : t.kind = .text) (hts : EditsTexts ts ts') :
      EditsTexts (t :: ts) ts'

namespace EditsTexts

theorem of_forall₂ {xs ys : List Token} (h : List.Forall₂ SameButAttrs xs ys) :
    EditsTexts xs ys := by
  induction h with
  | nil => exact .nil
  | cons h _ ih => exact .keep h.edited ih

theorem refl (ts : List Token) : EditsTexts ts ts := of_forall₂ (forall₂_refl .refl ts)

theorem append {xs ys xs' ys' : List Token} (hx : EditsTexts xs xs') (hy : EditsTexts ys ys') :
    EditsTexts (xs ++ ys) (xs' ++ ys') := by
  induction hx with
  | nil => exact hy
  | keep h _ ih => exact .keep h ih
  | drop hk _ ih => exact .drop hk ih

theorem trans {xs ys zs : List Token} (hxy : EditsTexts xs ys) (hyz : EditsTexts ys zs) :
    EditsTexts xs zs := by
  induction hxy generalizing zs with
  | nil => exact hyz
  | drop hk _ ih => exact .drop hk (ih hyz)
  | keep h _ ih =>
    cases hyz with
    | keep h' hts => exact .keep (h.trans h') (ih hts)
    | drop hk hts => exact .drop (h.kind ▸ hk) (ih hts)

end EditsTexts

/-- Texts and attributes are no matter of balance. -/
theorem EditsTexts.brackets_eq {ts us : List Token} (h : EditsTexts ts us)
    (htexts : ∀ t ∈ ts, t.kind = .text → t.nesting = .single) : brackets us = brackets ts := by
  induction h with
  | nil => rfl
  | @keep t t' ts us hedited _ ih =>
    obtain ⟨attrs, content, info, rfl⟩ := hedited.eq
    rw [brackets, bracketsBy_cons, brackets, bracketsBy_cons]
    exact congrArg _ (ih fun u hu => htexts u (List.mem_cons_of_mem t hu))
  | @drop t ts us hk _ ih =>
    rw [ih fun u hu => htexts u (List.mem_cons_of_mem t hu), brackets, brackets,
      bracketsBy_cons_single _ (htexts t List.mem_cons_self hk)]

/-- The kinds and the nestings of the tokens that are no text. -/
def elementsOf (ts : List Token) : List (Kind × Nesting) :=
  (ts.filter fun t => t.kind != .text).map fun t => (t.kind, t.nesting)

/-- Editing texts leaves everything else in its order. -/
theorem EditsTexts.elementsOf_eq {ts us : List Token} (h : EditsTexts ts us) :
    elementsOf us = elementsOf ts := by
  induction h with
  | nil => rfl
  | @keep t t' ts us hedited _ ih =>
    obtain ⟨attrs, content, info, rfl⟩ := hedited.eq
    by_cases hk : t.kind = .text
    · simpa [elementsOf, hk] using ih
    · simpa [elementsOf, hk] using ih
  | drop hk _ ih => simpa [elementsOf, hk] using ih

namespace AttributeBlock

theorem changesAttrs_joinAttr (t : Token) (name value : String) :
    ChangesAttrs t (t.joinAttr name value) := ⟨t.attrs.join name value, rfl⟩

theorem changesAttrs_setAttr (t : Token) (name value : String) :
    ChangesAttrs t (t.setAttr name value) := ⟨t.attrs.set name value, rfl⟩

/-- A change made for each of several values. -/
theorem changesAttrs_foldl {α : Type} {f : Token → α → Token} (h : ∀ t x, ChangesAttrs t (f t x))
    (xs : List α) : ∀ t, ChangesAttrs t (xs.foldl f t) := by
  induction xs with
  | nil => exact fun t => .refl t
  | cons x xs ih => exact fun t => (h t x).trans (ih (f t x))

theorem changesAttrs_applyPair (t : Token) (pair : String × String) :
    ChangesAttrs t (applyPair t pair) := by
  unfold applyPair
  split
  · exact changesAttrs_joinAttr t _ _
  · exact changesAttrs_setAttr t _ _

/-- **Attaching a block changes attributes only.** -/
theorem changesAttrs_apply (b : AttributeBlock) (t : Token) : ChangesAttrs t (b.apply t) := by
  unfold apply
  dsimp only
  have hpairs := changesAttrs_foldl changesAttrs_applyPair b.pairs
  have hclasses := changesAttrs_foldl (fun t name => changesAttrs_joinAttr t "class" name) b.classes
  split
  · exact ((changesAttrs_setAttr t _ _).trans (hclasses _)).trans (hpairs _)
  · exact (hclasses t).trans (hpairs _)

theorem sameButAttrs_apply (b : AttributeBlock) (t : Token) : SameButAttrs t (b.apply t) :=
  (b.changesAttrs_apply t).sameButAttrs

theorem sameButAttrs_setAttr (t : Token) (name value : String) :
    SameButAttrs t (t.setAttr name value) := (changesAttrs_setAttr t name value).sameButAttrs

end AttributeBlock

namespace Plugin.Attributes

variable (d : Delimiters)

/-! ### The tokens that have been passed -/

theorem forall₂_modify {f : Token → Token} (hf : ∀ t, SameButAttrs t (f t)) :
    ∀ (ts : List Token) (i : Nat), List.Forall₂ SameButAttrs ts (ts.modify i f) := by
  intro ts
  induction ts with
  | nil => intro i; cases i <;> exact .nil
  | cons t ts ih =>
    intro i
    cases i with
    | zero => exact .cons (hf t) (forall₂_refl .refl ts)
    | succ i => exact .cons (.refl t) (ih i)

theorem forall₂_attachLast (block : AttributeBlock) (ts : List Token) :
    List.Forall₂ SameButAttrs ts (attachLast block ts) := by
  unfold attachLast
  split
  · exact forall₂_modify block.sameButAttrs_apply ts _
  · exact forall₂_refl .refl ts

theorem forall₂_modifyOwner? {R : Token → Token → Prop} (hrefl : ∀ t, R t t) {f : Token → Token}
    (hf : ∀ t, R t (f t)) {before before' : List Token}
    (h : modifyOwner? f before = some before') : List.Forall₂ R before before' := by
  unfold modifyOwner? at h
  split at h
  · simp at h
  · next owner outer =>
    split at h
    · simp at h
    split at h
    · obtain rfl := Option.some.inj h
      exact .cons (hf owner) (forall₂_refl hrefl outer)
    split at h
    · next item rest =>
      split at h
      · obtain rfl := Option.some.inj h
        exact .cons (hrefl owner) (.cons (hf item) (forall₂_refl hrefl rest))
      · simp at h
    · simp at h

/-- There is a block that a run belongs to, given the tokens before the run, last first. -/
def hasOwner : List Token → Bool
  | [] => false
  | [owner] => owner.isOpening && !owner.hidden
  | owner :: item :: _ =>
    owner.isOpening && (!owner.hidden || (item.kind == .listItem && item.isOpening))

theorem isSome_modifyOwner? (f : Token → Token) (before : List Token) :
    (modifyOwner? f before).isSome = hasOwner before := by
  cases before with
  | nil => rfl
  | cons owner before =>
    cases before with
    | nil => cases ho : owner.isOpening <;> cases hh : owner.hidden <;>
        simp [modifyOwner?, hasOwner, ho, hh]
    | cons item outer =>
      cases ho : owner.isOpening <;> cases hh : owner.hidden <;>
        simp only [modifyOwner?, hasOwner, ho, hh] <;> try rfl
      -- A hidden paragraph hands the block on to the item around it.
      cases (item.kind == Kind.listItem && item.isOpening) <;> rfl

theorem hasOwner_congr {before before' : List Token} (h : List.Forall₂ SameShape before before') :
    hasOwner before' = hasOwner before := by
  cases h with
  | nil => rfl
  | cons howner hbefore =>
    obtain ⟨-, hn, hh⟩ := howner
    cases hbefore with
    | nil => simp only [hasOwner, Token.isOpening, hn, hh]
    | cons hitem _ =>
      obtain ⟨hk, hn', -⟩ := hitem
      simp only [hasOwner, Token.isOpening, hn, hh, hk, hn']

/-! ### Runs without their blocks -/

/-- A run without its attribute blocks, given the tokens before it, last first.  The block at its
end is taken if there is a block around the run that it can be attached to. -/
def strippedRun (before : List Token) (t : Token) : Token :=
  let children := toElements d t.children
  match stripChildren? d children with
  | some (rest, _) =>
    if hasOwner before then { t with children := rest, content := plainText rest }
    else { t with children }
  | none => { t with children }

section StrippedRun

variable {d} {t : Token} {before : List Token}

theorem strippedRun_of_none (h : stripChildren? d (toElements d t.children) = none) :
    strippedRun d before t = { t with children := toElements d t.children } := by
  simp only [strippedRun, h]

theorem strippedRun_of_owner {rest : List Token} {block : AttributeBlock}
    (h : stripChildren? d (toElements d t.children) = some (rest, block))
    (ho : hasOwner before = true) :
    strippedRun d before t = { t with children := rest, content := plainText rest } := by
  simp only [strippedRun, h, ho, if_true]

theorem strippedRun_of_noOwner (ho : hasOwner before = false) :
    strippedRun d before t = { t with children := toElements d t.children } := by
  unfold strippedRun
  dsimp only
  split
  · rw [ho]
    rfl
  · rfl

theorem sameShape_strippedRun : SameShape t (strippedRun d before t) := by
  unfold strippedRun
  dsimp only
  split
  · split <;> exact ⟨rfl, rfl, rfl⟩
  · exact ⟨rfl, rfl, rfl⟩

end StrippedRun

/-- All runs of a list without their attribute blocks.  `before` holds the tokens before the list,
last first. -/
def stripped : (before : List Token) → List Token → List Token
  | _, [] => []
  | before, t :: ts =>
    (if t.kind = .inline then strippedRun d before t else t) :: stripped (t :: before) ts

/-- What holds of every run and the stripped run holds of the whole list. -/
theorem forall₂_stripped {R : Token → Token → Prop} (hrefl : ∀ t, R t t) (ts : List Token)
    (hrun : ∀ t ∈ ts, t.kind = .inline → ∀ before, R t (strippedRun d before t)) :
    ∀ before, List.Forall₂ R ts (stripped d before ts) := by
  induction ts with
  | nil => exact fun _ => .nil
  | cons t ts ih =>
    obtain ⟨ht, hts⟩ := List.forall_mem_cons.mp hrun
    intro before
    refine .cons ?_ (ih hts (t :: before))
    split
    · next hk => exact ht hk before
    · exact hrefl t

theorem toBlock?_of_none {run : Token} (h : stripChildren? d run.children = none)
    (before : List Token) : toBlock? d run before = none := by
  rw [toBlock?, h]
  rfl

theorem toBlock?_of_some {run : Token} {children : List Token} {block : AttributeBlock}
    (h : stripChildren? d run.children = some (children, block)) (before : List Token) :
    toBlock? d run before = (modifyOwner? block.apply before).map fun before =>
      ({ run with children, content := plainText children }, before) := by
  rw [toBlock?, h]
  cases hb : modifyOwner? block.apply before <;> simp [hb]

/-- The block of a run has been read at the end of a text. -/
theorem exists_stripTrailing? {children rest : List Token} {block : AttributeBlock}
    (h : stripChildren? d children = some (rest, block)) :
    ∃ text before, d.stripTrailing? text = some (before, block) := by
  obtain ⟨last, -, h⟩ := Option.bind_eq_some_iff.mp h
  obtain ⟨⟨⟩, -, h⟩ := Option.bind_eq_some_iff.mp h
  obtain ⟨⟨before, block'⟩, hstrip, h⟩ := Option.bind_eq_some_iff.mp h
  obtain ⟨-, rfl⟩ := Prod.mk.inj (Option.some.inj h)
  exact ⟨_, _, hstrip⟩

/-- What holds between a token and the same token with blocks attached to it. -/
structure IsAttachment (R : Token → Token → Prop) : Prop where
  refl : ∀ t, R t t
  trans : ∀ {t u v}, R t u → R u v → R t v
  sameShape : ∀ {t u}, R t u → SameShape t u
  apply : ∀ {text rest block}, d.stripTrailing? text = some (rest, block) →
    ∀ t, R t (block.apply t)
  withInfo : ∀ {t u} info, R t u → R t { u with info }

theorem isAttachment_sameButAttrs : IsAttachment d SameButAttrs where
  refl := .refl
  trans := .trans
  sameShape := SameButAttrs.sameShape
  apply {_ _ block} _ := block.sameButAttrs_apply
  withInfo info h := by
    obtain ⟨attrs, -, rfl⟩ := h
    exact ⟨attrs, info, rfl⟩

section Attachment

variable {d} {R : Token → Token → Prop} (hR : IsAttachment d R)

include hR

/-- What becomes of a run, and of the tokens before it. -/
theorem toBlock?_strippedRun {t : Token} {before before' : List Token}
    (h : List.Forall₂ SameShape before before') :
    match toBlock? d { t with children := toElements d t.children } before' with
    | some (run, before'') =>
      run = strippedRun d before t ∧ List.Forall₂ R before' before''
    | none => { t with children := toElements d t.children } = strippedRun d before t := by
  have howner := hasOwner_congr h
  cases hs : stripChildren? d (toElements d t.children) with
  | none =>
    rw [toBlock?_of_none d hs, strippedRun_of_none hs]
  | some found =>
    obtain ⟨children, block⟩ := found
    obtain ⟨text, before, hstrip⟩ := exists_stripTrailing? d hs
    rw [toBlock?_of_some d hs]
    have hsome := isSome_modifyOwner? block.apply before'
    cases hm : modifyOwner? block.apply before' with
    | none =>
      rw [hm, howner] at hsome
      rw [strippedRun_of_noOwner hsome.symm]
      rfl
    | some before'' =>
      rw [hm, howner] at hsome
      rw [strippedRun_of_owner hs hsome.symm]
      exact ⟨rfl, forall₂_modifyOwner? hR.refl (hR.apply hstrip) hm⟩

theorem attaches_toFence (t : Token) : R t (toFence d t) := by
  unfold toFence
  split
  · next info block h => exact hR.withInfo info (hR.apply h t)
  · exact hR.refl t

end Attachment

theorem reviseAfter_of_ne {t : Token} (hfence : t.kind ≠ .fence) (hinline : t.kind ≠ .inline)
    (done ts : List Token) : reviseAfter d done (t :: ts) = reviseAfter d (t :: done) ts := by
  rw [reviseAfter]
  split
  · exact absurd ‹_› hfence
  · exact absurd ‹_› hinline
  · rfl

theorem reviseAfter_inline {t : Token} (hk : t.kind = .inline) (done ts : List Token) :
    reviseAfter d done (t :: ts)
      = match toBlock? d { t with children := toElements d t.children } done with
        | some (run, done) => reviseAfter d (run :: done) ts
        | none => reviseAfter d ({ t with children := toElements d t.children } :: done) ts := by
  rw [reviseAfter]
  split
  · next h => simp [hk] at h
  · rfl
  · next h => exact absurd hk h

/-- The plugin strips the rest of a list, and attaches blocks to the tokens before it. -/
theorem forall₂_reviseAfter {R : Token → Token → Prop} (hR : IsAttachment d R) (ts : List Token) :
    ∀ {before passed done : List Token}, List.Forall₂ SameShape before passed →
      List.Forall₂ R passed done →
        List.Forall₂ R (passed.reverse ++ stripped d before ts) (reviseAfter d done ts) := by
  induction ts with
  | nil =>
    intro before passed done _ hdone
    rw [stripped, List.append_nil, reviseAfter]
    exact List.rel_reverse hdone
  | cons t ts ih =>
    intro before passed done hpassed hdone
    rw [stripped, List.append_cons, ← List.reverse_cons]
    by_cases hi : t.kind = .inline
    · rw [if_pos hi]
      -- The owner of a run is found by shapes, which changes of attributes keep.
      have hshape : List.Forall₂ SameShape before done :=
        forall₂_trans (fun h h' => h.trans (hR.sameShape h')) hpassed hdone
      have hrun := toBlock?_strippedRun hR (t := t) hshape
      have hpassed' : List.Forall₂ SameShape (t :: before) (strippedRun d before t :: passed) :=
        .cons sameShape_strippedRun hpassed
      rw [reviseAfter_inline d hi]
      split
      · next run done' heq =>
        rw [heq] at hrun
        obtain ⟨rfl, hdone'⟩ := hrun
        have hdone'' : List.Forall₂ R passed done' :=
          forall₂_trans (R := R) (S := R) (T := R) hR.trans hdone hdone'
        exact ih hpassed' (.cons (hR.refl _) hdone'')
      · next heq =>
        rw [heq] at hrun
        have hrun' : { t with children := toElements d t.children } = strippedRun d before t := hrun
        rw [hrun']
        exact ih hpassed' (.cons (hR.refl _) hdone)
    · rw [if_neg hi]
      have hpassed' : List.Forall₂ SameShape (t :: before) (t :: passed) :=
        .cons ⟨rfl, rfl, rfl⟩ hpassed
      rw [reviseAfter]
      split
      · exact ih hpassed' (.cons (attaches_toFence hR t) hdone)
      · next hk => exact absurd hk hi
      · exact ih hpassed' (.cons (hR.refl t) hdone)

/-- The plugin strips every run, and attaches blocks. -/
theorem forall₂_revise_of_isAttachment {R : Token → Token → Prop} (hR : IsAttachment d R)
    (ts : List Token) : List.Forall₂ R (stripped d [] ts) (revise d ts) :=
  forall₂_reviseAfter d hR ts .nil .nil

/-- **The plugin strips every run, and changes nothing else but attributes.** -/
theorem forall₂_revise (ts : List Token) :
    List.Forall₂ SameButAttrs (stripped d [] ts) (revise d ts) :=
  forall₂_revise_of_isAttachment d (isAttachment_sameButAttrs d) ts

/-! ### Inline content without its blocks -/

/-- The block at the beginning of a text that follows `last`, and the text behind it. -/
def blockAfter? (last : Option Token) (t : Token) : Option (AttributeBlock × String) :=
  match last with
  | some last => if isAttachable last && t.kind == .text then d.stripLeading? t.content else none
  | none => none

theorem toElementsAfter_nil (done : List Token) : toElementsAfter d done [] = done.reverse := by
  cases done <;> rfl

theorem toElementsAfter_cons (done : List Token) (t : Token) (ts : List Token) :
    toElementsAfter d done (t :: ts)
      = match blockAfter? d done.head? t with
        | none => toElementsAfter d (t :: done) ts
        | some (block, rest) =>
          let done := (attachLast block done.reverse).reverse
          if rest.isEmpty then toElementsAfter d done ts
          else toElementsAfter d (t.withContent rest :: done) ts := by
  cases done <;> rfl

theorem blockAfter?_eq_some_iff {last : Option Token} {t : Token} {block : AttributeBlock}
    {rest : String} : blockAfter? d last t = some (block, rest) ↔
      t.kind = .text ∧ last.any isAttachable = true ∧
        d.stripLeading? t.content = some (block, rest) := by
  cases last with
  | none => simp [blockAfter?]
  | some last =>
    by_cases hk : t.kind = .text <;> cases hlast : isAttachable last <;>
      simp [blockAfter?, hk, hlast]

/-- **Taking blocks off elements edits texts.** -/
theorem editsTexts_toElementsAfter (ts : List Token) : ∀ done,
    EditsTexts (done.reverse ++ ts) (toElementsAfter d done ts) := by
  induction ts with
  | nil =>
    intro done
    rw [toElementsAfter_nil, List.append_nil]
    exact .refl _
  | cons t ts ih =>
    intro done
    rw [toElementsAfter_cons]
    split
    · have h := ih (t :: done)
      rwa [List.reverse_cons, List.append_assoc] at h
    · next block rest hfound =>
      obtain ⟨hk, -⟩ := (blockAfter?_eq_some_iff d).mp hfound
      have hdone := EditsTexts.of_forall₂ (forall₂_attachLast block done.reverse)
      dsimp only
      split
      · -- Nothing is left of the text behind the block.
        refine (hdone.append (.drop hk (.refl ts))).trans ?_
        have h := ih (attachLast block done.reverse).reverse
        rwa [List.reverse_reverse] at h
      · refine (hdone.append (.keep (edited_withContent hk rest) (.refl ts))).trans ?_
        have h := ih (t.withContent rest :: (attachLast block done.reverse).reverse)
        rwa [List.reverse_cons, List.reverse_reverse, List.append_assoc] at h

theorem editsTexts_toElements (children : List Token) :
    EditsTexts children (toElements d children) :=
  editsTexts_toElementsAfter d children []

theorem editsTexts_stripChildren? {children rest : List Token} {block : AttributeBlock}
    (h : stripChildren? d children = some (rest, block)) : EditsTexts children rest := by
  unfold stripChildren? at h
  obtain ⟨last, hlast, h⟩ := Option.bind_eq_some_iff.mp h
  obtain ⟨⟨⟩, hguard, h⟩ := Option.bind_eq_some_iff.mp h
  obtain ⟨⟨text, block'⟩, -, h⟩ := Option.bind_eq_some_iff.mp h
  obtain ⟨rfl, -⟩ := Prod.mk.inj (Option.some.inj h)
  obtain ⟨before, rfl⟩ := List.getLast?_eq_some_iff.mp hlast
  have hk : last.kind = .text := by
    -- The guard lets only a text pass.
    by_cases hk : (last.kind == Kind.text) = true
    · simpa using hk
    · simp [guard, hk] at hguard
  rw [List.dropLast_concat]
  split
  · have h := (EditsTexts.refl before).append (.drop hk .nil)
    rwa [List.append_nil] at h
  · exact (EditsTexts.refl before).append (.keep (edited_withContent hk text) .nil)

/-- **Stripping a run edits its texts.** -/
theorem editsTexts_strippedRun (before : List Token) (t : Token) :
    EditsTexts t.children (strippedRun d before t).children := by
  unfold strippedRun
  dsimp only
  split
  · next rest block hs =>
    split
    · exact (editsTexts_toElements d t.children).trans (editsTexts_stripChildren? d hs)
    · exact editsTexts_toElements d t.children
  · exact editsTexts_toElements d t.children

end Plugin.Attributes

end Folio
