import Folio.Proofs.DefaultPlugins

/-!
# What marking makes of the links to terms

The tokens of a run are looked at one by one.  At each index a link to a term becomes a reference,
together with the token that closes it, and its key is written down.  So in the end no link to a
term is left, and the references of the run are the links that it had.

## Main definitions

* `Token.openedKey?` — the key of the reference that a token opens.
* `MarkedUpTo` — the links to terms before an index have been marked.

## Main results

* `MarkedUpTo.step` — **what one step of the marking keeps.**
* `marked_markReferences` — **all links to terms become references**, and their keys are listed.
* `Engine.exists_openedKey?_linkedRun`, `Engine.referenceKey?_linkedRun` — links in the text change
  nothing of this.
-/

namespace Folio

open Plugin.Terms (markAll markAt markReferences markAt_cases markAt_spec referenceClosing
  referenceKey? referenceKey?_eq_some referenceKind referenceOpening)

/-! ### References -/

/-- The key that the token says, if it opens a reference. -/
def Token.openedKey? (t : Token) : Option (Option String) :=
  if t.kind = referenceKind ∧ t.nesting = .opening then some (t.attr? "key") else none

theorem Token.openedKey?_eq_some {t : Token} {k : Option String} (h : t.openedKey? = some k) :
    t.kind = referenceKind ∧ t.nesting = .opening ∧ t.attr? "key" = k := by
  unfold openedKey? at h
  split at h
  · next hcond => exact ⟨hcond.1, hcond.2, Option.some.inj h⟩
  · cases h

theorem Token.openedKey?_of_ne {t : Token} (h : t.kind ≠ referenceKind) : t.openedKey? = none :=
  if_neg fun hcond => h hcond.1

theorem Token.IsInline.openedKey? {t : Token} (h : t.IsInline) : t.openedKey? = none := by
  refine Token.openedKey?_of_ne fun hk => ?_
  by_cases hn : t.nesting = .single
  · have hleaf := h.leaf hn
    rw [hk] at hleaf
    cases hleaf
  · have hpair := h.pair hn
    rw [hk] at hpair
    cases hpair

theorem openedKey?_referenceOpening (key : String) :
    (referenceOpening key).openedKey? = some (some key) := by
  rw [Token.openedKey?, if_pos ⟨rfl, rfl⟩, referenceOpening, Token.attr?_setAttr]

/-- **A link to a term is a link to its key behind a star.** -/
theorem referenceKey?_eq_some_iff {t : Token} {key : String} : referenceKey? t = some key ↔
    t.kind = .link ∧ t.nesting = .opening ∧ t.attr? "href" = some ("*" ++ key) := by
  constructor
  · intro h
    obtain ⟨hk, hn⟩ := referenceKey?_eq_some h
    unfold referenceKey? at h
    split at h
    · split at h
      · next chars hhref =>
        obtain ⟨href, hattr, hchars⟩ := Option.map_eq_some_iff.mp hhref
        obtain rfl := Option.some.inj h
        refine ⟨hk, hn, hattr.trans (congrArg some (String.toList_inj.mp ?_))⟩
        simpa using hchars
      · cases h
    · cases h
  · rintro ⟨hk, hn, hattr⟩
    simp [referenceKey?, hk, hn, hattr, Token.isOpening]

theorem referenceKey?_of_ne {t : Token} (h : t.kind ≠ .link) : referenceKey? t = none := by
  cases hkey : referenceKey? t with
  | none => rfl
  | some key => exact absurd (referenceKey?_eq_some hkey).1 h

theorem referenceKey?_of_ne_opening {t : Token} (h : t.nesting ≠ .opening) :
    referenceKey? t = none :=
  Option.eq_none_iff_forall_ne_some.mpr fun _ hkey => h (referenceKey?_eq_some hkey).2

theorem referenceKey?_of_closing {t : Token} (h : t.nesting = .closing) :
    referenceKey? t = none :=
  referenceKey?_of_ne_opening (by simp [h])

/-! ### Marking -/

theorem exists_mem_around {p : Token → Prop} {pre body rest : List Token} {o c : Token} :
    (∃ t ∈ pre ++ o :: (body ++ c :: rest), p t) ↔
      p o ∨ p c ∨ ∃ t ∈ pre ++ (body ++ rest), p t := by
  simp only [List.mem_append, List.mem_cons, or_and_right, exists_or, exists_eq_left]
  constructor
  · rintro (h | h | h | h | h) <;> simp [h]
  · rintro (h | h | h | h | h) <;> simp [h]

/-- The links to terms before an index have been marked: none of them is left, the keys that have
been written down are those of the references, and together with the links that are left they are
the keys of all links. -/
structure MarkedUpTo (children : List Token) (index : Nat) (state : List Token × List String) :
    Prop where
  content : InlineContent state.1
  length : state.1.length = children.length
  done : ∀ j < index, state.1[j]?.bind referenceKey? = none
  keys : ∀ k, (∃ t ∈ state.1, t.openedKey? = some k) ↔ ∃ key ∈ state.2, k = some key
  found : ∀ key, (∃ t ∈ children, referenceKey? t = some key) ↔
    key ∈ state.2 ∨ ∃ t ∈ state.1, referenceKey? t = some key

namespace MarkedUpTo

variable {children : List Token}

theorem start (h : InlineContent children) (hnone : ∀ t ∈ children, t.openedKey? = none) :
    MarkedUpTo children 0 (children, []) where
  content := h
  length := rfl
  done j hj := absurd hj (Nat.not_lt_zero j)
  keys k := by
    refine ⟨fun ⟨t, ht, hk⟩ => ?_, fun ⟨_, hkey, _⟩ => absurd hkey List.not_mem_nil⟩
    rw [hnone t ht] at hk
    cases hk
  found key := ⟨.inr, fun h => h.resolve_left List.not_mem_nil⟩

/-- **What one step of the marking keeps.** -/
theorem step {index : Nat} {state : List Token × List String}
    (h : MarkedUpTo children index state) :
    MarkedUpTo children (index + 1) (markAt state index) := by
  obtain ⟨marked, keys⟩ := state
  have hcontent := (markAt_spec h.content keys index).1
  rcases markAt_cases h.content keys index with
    ⟨hnone, hmark⟩ | ⟨pre, o, body, c, rest, key, rfl, rfl, href, hc, hclosed, -, hmark⟩
  · rw [hmark]
    refine ⟨h.content, h.length, fun j hj => ?_, h.keys, h.found⟩
    rcases Nat.lt_succ_iff_lt_or_eq.mp hj with hj | rfl
    · exact h.done j hj
    · exact hnone
  · have hlength := h.length
    have hkeys := h.keys
    have hfound := h.found
    have hdone := h.done
    -- Of the two tokens that are replaced one says a key as a link, and none is a reference.
    have ho : o.openedKey? = none := Token.openedKey?_of_ne (by
      rw [(referenceKey?_eq_some href).1]
      exact Kind.noConfusion)
    have hcKey : c.openedKey? = none := Token.openedKey?_of_ne (by
      rw [hclosed]
      exact Kind.noConfusion)
    have hcRef : referenceKey? c = none := referenceKey?_of_closing hc
    have hopening : referenceKey? (referenceOpening key) = none :=
      referenceKey?_of_ne Kind.noConfusion
    have hclosing : referenceKey? referenceClosing = none := referenceKey?_of_closing rfl
    have hclosingKey : referenceClosing.openedKey? = none := rfl
    rw [hmark] at hcontent ⊢
    refine ⟨hcontent, ?_, fun j hj => ?_, fun k => ?_, fun key' => ?_⟩
    · simpa using hlength
    · rcases Nat.lt_succ_iff_lt_or_eq.mp hj with hj | rfl
      · have hbefore := hdone j hj
        rw [List.getElem?_append_left hj] at hbefore ⊢
        exact hbefore
      · simpa using hopening
    · have hold := hkeys k
      rw [exists_mem_around, ho, hcKey] at hold
      rw [exists_mem_around, openedKey?_referenceOpening, hclosingKey]
      simp only [reduceCtorEq, false_or, Option.some.injEq, List.mem_append, List.mem_singleton,
        or_and_right, exists_or, exists_eq_left] at hold ⊢
      rw [← hold, or_comm, eq_comm]
    · have hold := hfound key'
      rw [exists_mem_around, href, hcRef] at hold
      rw [exists_mem_around, hopening, hclosing, hold]
      simp only [reduceCtorEq, false_or, Option.some.injEq, List.mem_append, List.mem_singleton]
      rw [or_assoc, eq_comm]

end MarkedUpTo

/-- What is left of a run when all its links to terms have been marked. -/
structure Marked (children marked : List Token) (keys : List String) : Prop where
  content : InlineContent marked
  none_left : ∀ t ∈ marked, referenceKey? t = none
  opened : ∀ k, (∃ t ∈ marked, t.openedKey? = some k) ↔ ∃ key ∈ keys, k = some key
  found : ∀ key, (∃ t ∈ children, referenceKey? t = some key) ↔ key ∈ keys

/-- **All links to terms become references**, and their keys are listed. -/
theorem marked_markReferences {children : List Token} (h : InlineContent children)
    (hnone : ∀ t ∈ children, t.openedKey? = none) :
    Marked children (markReferences children).1 (markReferences children).2 := by
  have hsteps : ∀ n, MarkedUpTo children n ((List.range n).foldl markAt (children, [])) := by
    intro n
    induction n with
    | zero => exact .start h hnone
    | succ n ih =>
      rw [List.range_succ, List.foldl_append]
      exact ih.step
  have hall : MarkedUpTo children children.length (markReferences children) := hsteps _
  have hleft : ∀ t ∈ (markReferences children).1, referenceKey? t = none := by
    intro t ht
    obtain ⟨j, hj, rfl⟩ := List.getElem_of_mem ht
    have hdone := hall.done j (hall.length ▸ hj)
    rwa [List.getElem?_eq_getElem hj, Option.bind_some] at hdone
  refine ⟨hall.content, hleft, hall.keys, fun key => (hall.found key).trans ?_⟩
  refine or_iff_left fun ⟨t, ht, hkey⟩ => ?_
  rw [hleft t ht] at hkey
  cases hkey

/-- Marking brings no tokens but the two ends of references. -/
theorem mem_markReferences {children : List Token} {t : Token}
    (h : t ∈ (markReferences children).1) :
    t ∈ children ∨ (∃ key, t = referenceOpening key) ∨ t = referenceClosing := by
  refine List.foldlRecOn (List.range children.length) markAt
    (motive := fun state => t ∈ state.1 → _) .inl (fun state ih index _ hmem => ?_) h
  unfold markAt at hmem
  dsimp only at hmem
  split at hmem
  · next key stop _ _ =>
    rcases List.mem_or_eq_of_mem_set hmem with hmem | rfl
    · rcases List.mem_or_eq_of_mem_set hmem with hmem | rfl
      · exact ih hmem
      · exact .inr (.inl ⟨key, rfl⟩)
    · exact .inr (.inr rfl)
  · exact ih hmem

/-- The keys of all runs. -/
theorem mem_markAll_keys {key : String} {ts : List Token} : key ∈ (markAll ts).2 ↔
    ∃ t ∈ ts, t.kind = .inline ∧ key ∈ (markReferences t.children).2 := by
  induction ts with
  | nil => simp [markAll]
  | cons t ts ih =>
    rw [markAll]
    dsimp only
    split
    · next hk =>
      have hk : t.kind = .inline := by simpa using hk
      rw [List.mem_append, ih]
      simp [hk]
    · next hk =>
      have hk : t.kind ≠ .inline := by simpa using hk
      rw [ih]
      simp [hk]

/-! ### Links in the text -/

/-- A link in the text has a scheme, so it begins with no other letter than that. -/
theorem linkTarget_ne_cons {c : Char} (hascii : c.toNat < 0x80) (hc : c.toLower ≠ 'h')
    (text : String) (cs : List Char) : (Linkify.linkTarget text).toList ≠ c :: cs := by
  unfold Linkify.linkTarget
  dsimp only
  split
  · next hscheme =>
    intro htext
    obtain ⟨lower, hlower⟩ : ∃ lower, Text.lowerText text.toList = c.toLower :: lower := by
      rw [htext, Text.lowerText, Text.lowerAfter, show Text.nextIsCased [] = false from rfl,
        Bool.and_false, Bool.false_and, if_neg Bool.false_ne_true, Text.lower, if_pos hascii]
      exact ⟨_, rfl⟩
    rw [hlower] at hscheme
    simp [hc.symm] at hscheme
  · rw [String.toList_append]
    intro htext
    obtain rfl : 'h' = c := (List.cons.inj htext).1
    exact hc rfl

/-- The tokens of a part of a text are no references and no links to terms. -/
theorem of_mem_segmentTokens {segment : Linkify.Segment} {t : Token} (ht : t ∈ segment.tokens) :
    t.openedKey? = none ∧ referenceKey? t = none := by
  rcases Linkify.mem_segmentTokens ht with ⟨s, rfl⟩ | ⟨s, rfl⟩ | rfl
  · exact ⟨rfl, rfl⟩
  · refine ⟨rfl, Option.eq_none_iff_forall_ne_some.mpr fun key hkey => ?_⟩
    obtain ⟨-, -, hattr⟩ := referenceKey?_eq_some_iff.mp hkey
    have hhref : (Linkify.openingToken s).attr? "href" = some (Linkify.linkTarget s) := rfl
    have htarget := Option.some.inj (hhref.symm.trans hattr)
    exact linkTarget_ne_cons (c := '*') (by decide) (by decide) s key.toList
      (by rw [htarget]; simp)
  · exact ⟨rfl, rfl⟩

/-- Tokens that are no texts stay. -/
theorem Linkify.mem_linkChildren_of_ne {l : Linkify} {ts : List Token} {t : Token} (ht : t ∈ ts)
    (hk : t.kind ≠ .text) : ∀ depth, t ∈ l.linkChildren depth ts := by
  induction ts with
  | nil => exact absurd ht List.not_mem_nil
  | cons u ts ih =>
    intro depth
    obtain ⟨depth', heq | ⟨htext, heq⟩⟩ := l.linkChildren_cons depth u ts <;> rw [heq]
    · rcases List.mem_cons.mp ht with rfl | ht
      · exact List.mem_cons_self
      · exact List.mem_cons_of_mem u (ih ht depth')
    · rcases List.mem_cons.mp ht with rfl | ht
      · exact absurd htext hk
      · exact List.mem_append_right _ (ih ht depth')

theorem Engine.mem_linkedRun {e : Engine} {ts : List Token} {t : Token} (h : t ∈ e.linkedRun ts) :
    t ∈ ts ∨ ∃ segment : Linkify.Segment, t ∈ segment.tokens := by
  unfold Engine.linkedRun at h
  split at h
  · exact Linkify.mem_linkChildren h
  · exact .inl h

/-- Links in the text are no references, and take none away. -/
theorem Engine.exists_openedKey?_linkedRun (e : Engine) (ts : List Token) (k : Option String) :
    (∃ t ∈ e.linkedRun ts, t.openedKey? = some k) ↔ ∃ t ∈ ts, t.openedKey? = some k := by
  constructor
  · rintro ⟨t, ht, hk⟩
    rcases Engine.mem_linkedRun ht with ht | ⟨segment, ht⟩
    · exact ⟨t, ht, hk⟩
    · rw [(of_mem_segmentTokens ht).1] at hk
      cases hk
  · rintro ⟨t, ht, hk⟩
    refine ⟨t, ?_, hk⟩
    have hne : t.kind ≠ .text := by
      rw [(Token.openedKey?_eq_some hk).1]
      exact Kind.noConfusion
    unfold Engine.linkedRun
    split
    · exact Linkify.mem_linkChildren_of_ne ht hne 0
    · exact ht

/-- Links in the text do not link to terms. -/
theorem Engine.referenceKey?_linkedRun {e : Engine} {ts : List Token}
    (h : ∀ t ∈ ts, referenceKey? t = none) : ∀ t ∈ e.linkedRun ts, referenceKey? t = none := by
  intro t ht
  rcases Engine.mem_linkedRun ht with ht | ⟨segment, ht⟩
  · exact h t ht
  · exact (of_mem_segmentTokens ht).2

end Folio
