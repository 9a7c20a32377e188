import Folio.Proofs.Pages
import Folio.Proofs.StrippedBlocks

/-!
# The text that a run caches

A run caches the text of its children.  The attribute plugin takes blocks out of the children, and
it caches the text anew only if a block at the end of the run goes to a block around the run.  If
it takes a block off an inline element and nothing else, the cached text still has the block.

## Main definitions

* `Attributes.losesBlock` — a block stands right behind an inline element of the run.
* `Attributes.isStale` — the text that the run caches is not that of its children any more.
* `runsAfter` — the runs of a list, each with the tokens before it.

## Main results

* `Attributes.toElements_eq`, `Attributes.length_toElements_lt` — **taking blocks off elements
  changes the text if there is such a block, and nothing else if there is none.**
* `Attributes.content_strippedRun` — a stripped run caches its text unless it is stale.
* `Pipeline.content_parseEvents` — **the runs of a parsed document cache their texts except for
  the stale ones.**
-/

namespace Folio

open Markdown (ProperlyNested assemble)

/-! ### Blocks are not empty -/

namespace Delimiters

variable {d : Delimiters}

/-- **A text is longer than what stands behind the block at its beginning.** -/
theorem length_stripLeading?_lt {text rest : String} {block : AttributeBlock}
    (h : d.stripLeading? text = some (block, rest)) : rest.length < text.length := by
  obtain ⟨inner, hbegins⟩ := stripLeading?_eq_some_iff.mp h
  have hleft := List.length_pos_iff.mpr hbegins.accepts.left_ne_nil
  have hlength := congrArg List.length hbegins.text_eq
  simp only [List.length_append, String.length_toList] at hleft hlength
  omega

end Delimiters

/-! ### Taking blocks off elements -/

namespace Plugin.Attributes

variable (d : Delimiters)

/-- A block stands right behind an element, from a token on.  `last` is the token before it. -/
def losesBlockAfter : (last : Option Token) → List Token → Bool
  | _, [] => false
  | last, t :: ts => (blockAfter? d last t).isSome || losesBlockAfter (some t) ts

/-- A block stands right behind an inline element of a run. -/
def losesBlock (children : List Token) : Bool := losesBlockAfter d none children

/-- The text that the run caches is not that of its children any more, given the tokens before
the run, last first: a block has been taken off an element, and no block off the run. -/
def isStale (before : List Token) (t : Token) : Bool :=
  losesBlock d t.children &&
    !((stripChildren? d (toElements d t.children)).isSome && hasOwner before)

theorem toElementsAfter_eq (ts : List Token) : ∀ done : List Token,
    losesBlockAfter d done.head? ts = false → toElementsAfter d done ts = done.reverse ++ ts := by
  induction ts with
  | nil =>
    intro done _
    rw [toElementsAfter_nil, List.append_nil]
  | cons t ts ih =>
    intro done h
    rw [losesBlockAfter, Bool.or_eq_false_iff, Option.isSome_eq_false_iff,
      Option.isNone_iff_eq_none] at h
    rw [toElementsAfter_cons, h.1]
    dsimp only
    rw [ih (t :: done) h.2, List.reverse_cons, List.append_assoc]
    rfl

/-- Without a block behind an element nothing is changed. -/
theorem toElements_eq {children : List Token} (h : losesBlock d children = false) :
    toElements d children = children :=
  toElementsAfter_eq d children [] h

/-- Attributes are nothing to read. -/
theorem plainText_congr {xs ys : List Token} (h : List.Forall₂ SameButAttrs xs ys) :
    plainText ys = plainText xs := by
  induction h with
  | nil => rfl
  | @cons t t' ts ts' h _ ih =>
    obtain ⟨attrs, info, rfl⟩ := h
    rw [plainText_cons, plainText_cons, ih, Token.plainText_eq, Token.plainText_eq t]

/-- A block that is taken off an element makes the text shorter. -/
theorem exists_toElementsAfter_eq {done : List Token} {t : Token}
    (h : (blockAfter? d done.head? t).isSome = true) (ts : List Token) :
    ∃ done', toElementsAfter d done (t :: ts) = toElementsAfter d done' ts ∧
      (plainText done'.reverse).length < (plainText (t :: done).reverse).length := by
  obtain ⟨⟨block, rest⟩, hfound⟩ := Option.isSome_iff_exists.mp h
  obtain ⟨hk, -, hstrip⟩ := (blockAfter?_eq_some_iff d).mp hfound
  have hlt := Delimiters.length_stripLeading?_lt hstrip
  have hdone : plainText (attachLast block done.reverse) = plainText done.reverse :=
    plainText_congr (forall₂_attachLast block done.reverse)
  rw [toElementsAfter_cons, hfound, List.reverse_cons, plainText_append, plainText_cons,
    Token.plainText_text hk, plainText_nil]
  dsimp only
  split
  · refine ⟨_, rfl, ?_⟩
    rw [List.reverse_reverse, hdone]
    simp only [String.length_append]
    omega
  · refine ⟨_, rfl, ?_⟩
    have hrest : (t.withContent rest).plainText = rest := Token.plainText_text hk
    rw [List.reverse_cons, List.reverse_reverse, plainText_append, hdone, plainText_cons, hrest,
      plainText_nil]
    simp only [String.length_append]
    omega

theorem length_plainText_cons (done ts : List Token) (t : Token) :
    (plainText (t :: done).reverse).length + (plainText ts).length
      = (plainText done.reverse).length + (plainText (t :: ts)).length := by
  rw [List.reverse_cons, plainText_append, plainText_cons, plainText_cons, plainText_nil]
  simp only [String.length_append, String.length_empty]
  omega

theorem length_toElementsAfter_le (ts : List Token) : ∀ done : List Token,
    (plainText (toElementsAfter d done ts)).length
      ≤ (plainText done.reverse).length + (plainText ts).length := by
  induction ts with
  | nil =>
    intro done
    rw [toElementsAfter_nil]
    omega
  | cons t ts ih =>
    intro done
    rw [← length_plainText_cons]
    by_cases h : (blockAfter? d done.head? t).isSome = true
    · obtain ⟨done', heq, hlt⟩ := exists_toElementsAfter_eq d h ts
      have hle := ih done'
      rw [heq]
      omega
    · rw [toElementsAfter_cons, Option.not_isSome_iff_eq_none.mp h]
      exact ih (t :: done)

theorem length_toElementsAfter_lt (ts : List Token) : ∀ done : List Token,
    losesBlockAfter d done.head? ts = true →
      (plainText (toElementsAfter d done ts)).length
        < (plainText done.reverse).length + (plainText ts).length := by
  induction ts with
  | nil => exact fun _ h => absurd h Bool.false_ne_true
  | cons t ts ih =>
    intro done h
    rw [← length_plainText_cons]
    -- At the first block the text gets shorter, and from there on it does not get longer.
    by_cases hblock : (blockAfter? d done.head? t).isSome = true
    · obtain ⟨done', heq, hlt⟩ := exists_toElementsAfter_eq d hblock ts
      have hle := length_toElementsAfter_le d ts done'
      rw [heq]
      omega
    · rw [losesBlockAfter, Bool.or_eq_true, or_iff_right hblock] at h
      rw [toElementsAfter_cons, Option.not_isSome_iff_eq_none.mp hblock]
      exact ih (t :: done) h

/-- **A block behind an element makes the text shorter.** -/
theorem length_toElements_lt {children : List Token} (h : losesBlock d children = true) :
    (plainText (toElements d children)).length < (plainText children).length := by
  have hlt := length_toElementsAfter_lt d children [] h
  rwa [List.reverse_nil, plainText_nil, String.length_empty, Nat.zero_add] at hlt

/-- The text is kept if and only if there is no block behind an element. -/
theorem plainText_toElements_iff (children : List Token) :
    plainText children = plainText (toElements d children) ↔ losesBlock d children = false := by
  constructor
  · intro h
    by_contra hloses
    have hlt := length_toElements_lt d (Bool.not_eq_false _ ▸ hloses)
    rw [← h] at hlt
    exact Nat.lt_irrefl _ hlt
  · intro h
    rw [toElements_eq d h]

/-- **A stripped run caches its text unless it is stale.** -/
theorem content_strippedRun {t : Token} (h : t.content = plainText t.children)
    (before : List Token) :
    (strippedRun d before t).content = plainText (strippedRun d before t).children ↔
      isStale d before t = false := by
  -- Without a block that goes to a block around the run the cached text is the old one.
  have hkeep : strippedRun d before t = { t with children := toElements d t.children } →
      (isStale d before t = losesBlock d t.children) →
      ((strippedRun d before t).content = plainText (strippedRun d before t).children ↔
        isStale d before t = false) := by
    intro hrun hstale
    rw [hrun, hstale, ← plainText_toElements_iff, ← h]
  cases hs : stripChildren? d (toElements d t.children) with
  | none => exact hkeep (strippedRun_of_none hs) (by simp [isStale, hs])
  | some found =>
    obtain ⟨rest, block⟩ := found
    cases ho : hasOwner before with
    | false => exact hkeep (strippedRun_of_noOwner ho) (by simp [isStale, ho])
    | true =>
      rw [strippedRun_of_owner hs ho]
      simp [isStale, hs, ho]

end Plugin.Attributes

/-! ### The runs of a document -/

theorem sublistForall₂_trans {α β γ : Type} {R : α → β → Prop} {S : β → γ → Prop}
    {T : α → γ → Prop} (h : ∀ {x y z}, R x y → S y z → T x z) {xs : List α} {ys : List β}
    {zs : List γ} (hxy : List.SublistForall₂ R xs ys) (hyz : List.Forall₂ S ys zs) :
    List.SublistForall₂ T xs zs := by
  induction hxy generalizing zs with
  | nil => exact .nil
  | cons hr _ ih =>
    cases hyz with
    | cons hs hyz => exact .cons (h hr hs) (ih hyz)
  | cons_right _ ih =>
    cases hyz with
    | cons _ hyz => exact .cons_right (ih hyz)

/-- The runs of a list, each with the tokens before it, last first. -/
def runsAfter : (before : List Token) → List Token → List (List Token × Token)
  | _, [] => []
  | before, t :: ts =>
    if t.isRun then (before, t) :: runsAfter (t :: before) ts else runsAfter (t :: before) ts

theorem mem_runsAfter {ts : List Token} : ∀ {before : List Token} {run : List Token × Token},
    run ∈ runsAfter before ts → run.2 ∈ ts ∧ run.2.isRun = true := by
  induction ts with
  | nil => nofun
  | cons t ts ih =>
    intro before run h
    rw [runsAfter] at h
    split at h
    · next hrun =>
      rcases List.mem_cons.mp h with rfl | h
      · exact ⟨List.mem_cons_self, hrun⟩
      · exact ⟨List.mem_cons_of_mem t (ih h).1, (ih h).2⟩
    · exact ⟨List.mem_cons_of_mem t (ih h).1, (ih h).2⟩

namespace Plugin.Attributes

/-- The runs of the stripped list are the stripped runs. -/
theorem runs_stripped (d : Delimiters) (ts : List Token) : ∀ before : List Token,
    runs (stripped d before ts)
      = (runsAfter before ts).map fun run => strippedRun d run.1 run.2 := by
  induction ts with
  | nil => exact fun _ => rfl
  | cons t ts ih =>
    intro before
    rw [stripped, runsAfter]
    by_cases hk : t.kind = .inline
    · have hrun : t.isRun = true := by simpa [Token.isRun] using hk
      have hshape : SameShape t (strippedRun d before t) := sameShape_strippedRun
      have hstripped : (strippedRun d before t).isRun = true := by
        simpa [Token.isRun, hshape.1] using hk
      rw [if_pos hk, if_pos hrun, List.map_cons, ← ih]
      exact List.filter_cons_of_pos hstripped
    · have hrun : ¬t.isRun = true := by simpa [Token.isRun] using hk
      rw [if_neg hk, if_neg hrun, ← ih]
      exact List.filter_cons_of_neg hrun

/-- What becomes of a run: `t` reads like the run without its blocks, and caches its text unless
the run is stale. -/
def StemsFrom (d : Delimiters) (t : Token) (run : List Token × Token) : Prop :=
  plainText t.children = plainText (strippedRun d run.1 run.2).children ∧
    (t.content = plainText t.children ↔ isStale d run.1 run.2 = false)

theorem stemsFrom_of_sameReading {d : Delimiters} {t u : Token} {run : List Token × Token}
    (h : SameReading t u) (hu : StemsFrom d u run) : StemsFrom d t run := by
  refine ⟨h.2.trans hu.1, ?_⟩
  rw [h.1, h.2]
  exact hu.2

/-- **The runs that the plugin leaves cache their texts except for the stale ones.** -/
theorem forall₂_stemsFrom_revise (d : Delimiters) {ts : List Token}
    (h : ∀ t ∈ ts, t.IsAssembled) :
    List.Forall₂ (StemsFrom d) (runs (revise d ts)) (runsAfter [] ts) := by
  have hstripped : List.Forall₂ (StemsFrom d) (runs (stripped d [] ts)) (runsAfter [] ts) := by
    rw [runs_stripped, List.forall₂_map_left_iff, List.forall₂_same]
    intro run hrun
    obtain ⟨hmem, hk⟩ := mem_runsAfter hrun
    exact ⟨rfl, content_strippedRun d ((h _ hmem).content (by simpa [Token.isRun] using hk)) run.1⟩
  have hrevised : List.Forall₂ SameReading (runs (revise d ts)) (runs (stripped d [] ts)) :=
    (forall₂_runs ((forall₂_revise d ts).imp fun _ _ h => ⟨h.sameShape.1, h.sameReading⟩)).flip
  exact forall₂_trans (R := SameReading) (S := StemsFrom d) stemsFrom_of_sameReading hrevised
    hstripped

end Plugin.Attributes

namespace Pipeline

open Plugin.Attributes (revise isStale StemsFrom)

/-- **The runs of a parsed document cache their texts except for the stale ones**: what a run is
read to is decided by the attribute plugin, and the other plugins, the links in the text and the
title take runs out at most. -/
theorem content_parseEvents (o : Options) (ho : o.UsesBuiltins) :
    (∀ events, ProperlyNested events →
      List.Forall₂ (StemsFrom o.delimiters) (runs (revise o.delimiters (assemble events).1))
        (runsAfter [] (assemble events).1) ∧
      List.SublistForall₂ (StemsFrom o.delimiters) (runs (o.pipeline.parseEvents events).1)
        (runsAfter [] (assemble events).1)) ∧
    ∀ input, List.SublistForall₂ (StemsFrom o.delimiters) (runs (o.pipeline.parse input).1)
      (runsAfter [] (assemble (Engine.readEvents input)).1) := by
  have hevents : ∀ events, ProperlyNested events →
      List.Forall₂ (StemsFrom o.delimiters) (runs (revise o.delimiters (assemble events).1))
        (runsAfter [] (assemble events).1) ∧
      List.SublistForall₂ (StemsFrom o.delimiters) (runs (o.pipeline.parseEvents events).1)
        (runsAfter [] (assemble events).1) := by
    intro events h
    obtain ⟨-, hreading, -⟩ := pipeline_parseEvents_spec ho h
    have hrevised := Plugin.Attributes.forall₂_stemsFrom_revise o.delimiters
      (Markdown.isAssembled_of_mem_assemble events)
    have hstems := sublistForall₂_trans (R := SameReading) (S := StemsFrom o.delimiters)
      Plugin.Attributes.stemsFrom_of_sameReading hreading hrevised
    exact ⟨hrevised, hstems⟩
  exact ⟨hevents, fun input => (hevents _ (Markdown.shaped_blockEvents _).properlyNested).2⟩

/-- Two paragraphs in which a block stands right behind strong text.  At the end of the second is
one for the paragraph too, so only the first caches a text that is not its own. -/
def strongBlocks : String := "**a**\x7b.x\x7d b\n\n**c**\x7b.x\x7d d \x7b.y\x7d"

theorem content_parseEvents_strongBlocks :
    List.SublistForall₂ (StemsFrom {}) (runs (({} : Options).pipeline.parse strongBlocks).1)
      (runsAfter [] (assemble (Engine.readEvents strongBlocks)).1) ∧
    ((runsAfter [] (assemble (Engine.readEvents strongBlocks)).1).map fun run =>
      isStale {} run.1 run.2) = [true, false] ∧
    ((runs (({} : Options).pipeline.parse strongBlocks).1).map fun t =>
      (t.content, plainText t.children)) = [("a\x7b.x\x7d b", "a b"), ("c d", "c d")] := by
  refine ⟨(content_parseEvents {} ⟨fun _ h => h, fun _ => rfl⟩).2 strongBlocks, ?_, ?_⟩
  · decide +kernel
  · decide +kernel

/-- A block right behind strong text goes to the strong text, and stays in the cached text. -/
theorem content_parse_strongBlock :
    ¬∀ t ∈ (({} : Options).pipeline.parse "# **a**\x7b.x\x7d").1,
      t.kind = .inline → t.content = plainText t.children := by
  decide +kernel

end Pipeline

end Folio
