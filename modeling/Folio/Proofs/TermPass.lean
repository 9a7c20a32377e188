import Folio.Proofs.PageChanges

/-!
# What the term plugin changes

Three tokens of a paragraph become the one token of a definition, and a link together with the
token that closes it becomes a reference.  The partner of a link is found by counting, which finds
the right token because the run is balanced.

## Main results

* `Terms.pageContent_extract` — **taking the definitions out leaves a page.**
* `Terms.sublist_extract` — the runs that stay are not touched.
* `Terms.markReferences_spec` — **marking the references of a run keeps its balance and its text.**
* `Terms.pageContent_revise` — the whole revision leaves a page.
-/

namespace Folio

open BracketOf (IsBalanced scan)

namespace Plugin.Terms

/-! ### Definitions -/

/-- What makes a definition of three tokens, and what it keeps of them. -/
theorem definition?_eq_some_iff {o run c d : Token} : definition? o run c = some d ↔
    o.kind = .paragraph ∧ o.nesting = .opening ∧ c.nesting = .closing ∧
      ∃ first others key text, run.children = first :: others ∧ first.kind = .text ∧
        definitionMark? first.content.toList = some (key, text) ∧
        d = definitionToken (String.ofList key) o.level
          (if text.isEmpty then others else first.withContent (String.ofList text) :: others) := by
  unfold definition?
  constructor
  · intro h
    split at h
    · next hcond =>
      simp only [Bool.and_eq_true, beq_iff_eq, Token.isOpening, Token.isClosing] at hcond
      obtain ⟨⟨hk, ho⟩, hc⟩ := hcond
      split at h
      · cases h
      · next first others hchildren =>
        split at h
        · next htext =>
          obtain ⟨⟨key, text⟩, hmark, hd⟩ := Option.map_eq_some_iff.mp h
          exact ⟨hk, ho, hc, first, others, key, text, hchildren, by simpa using htext, hmark,
            hd.symm⟩
        · cases h
    · cases h
  · rintro ⟨hk, ho, hc, first, others, key, text, hchildren, htext, hmark, rfl⟩
    simp [hk, ho, hc, hchildren, htext, hmark, Token.isOpening, Token.isClosing]

/-- What a definition that is made of three tokens looks like. -/
theorem definition?_eq_some {a b c d : Token} (h : definition? a b c = some d) :
    a.kind = .paragraph ∧ a.nesting = .opening ∧ c.nesting = .closing ∧ b.children ≠ [] ∧
      d.kind = definitionKind ∧ d.nesting = .single ∧ EditsTexts b.children d.children := by
  obtain ⟨hk, ho, hc, first, others, key, text, hchildren, htext, -, rfl⟩ :=
    definition?_eq_some_iff.mp h
  refine ⟨hk, ho, hc, by simp [hchildren], rfl, rfl, ?_⟩
  rw [hchildren]
  dsimp only [definitionToken]
  split
  · exact .drop htext (.refl others)
  · exact .keep (edited_withContent htext _) (.refl others)

theorem extract_of_some {a b c d : Token} (h : definition? a b c = some d) (rest : List Token) :
    extract (a :: b :: c :: rest) = d :: extract rest := by
  rw [extract, h]

theorem extract_of_none {a b c : Token} (h : definition? a b c = none) (rest : List Token) :
    extract (a :: b :: c :: rest) = a :: extract (b :: c :: rest) := by
  rw [extract, h]

theorem extract_of_short {ts : List Token}
    (h : ∀ (a b c : Token) (rest : List Token), ts ≠ a :: b :: c :: rest) : extract ts = ts :=
  extract.eq_2 ts h

/-- Three tokens of which the middle one stands alone do to a stack what their definition does. -/
theorem scan_definition {κ : Type} [DecidableEq κ] (key : Token → κ) {a b c d : Token}
    (hd : definition? a b c = some d) (hb : b.nesting = .single) {stack s : List κ}
    {rest : List Token} (h : scan stack (bracketsBy key (a :: b :: c :: rest)) = some s) :
    scan stack (bracketsBy key (d :: rest)) = some s := by
  obtain ⟨-, ho, hc, -, -, hn, -⟩ := definition?_eq_some hd
  -- The scan has closed `a` by `c`, so both lists leave the same stack.
  rw [bracketsBy_cons_opening _ ho, bracketsBy_cons_single _ hb, bracketsBy_cons_closing _ hc,
    BracketOf.scan_opening, BracketOf.scan_closing_cons] at h
  rw [bracketsBy_cons_single _ hn]
  split at h
  · exact h
  · cases h

/-- The middle one of three tokens that make a definition stands alone. -/
def DefinitionsAreRuns (ts : List Token) : Prop :=
  ∀ a b c, [a, b, c] <:+: ts → (definition? a b c).isSome = true → b.nesting = .single

theorem DefinitionsAreRuns.of_isInfix {ts us : List Token} (h : DefinitionsAreRuns ts)
    (hrow : us <:+: ts) : DefinitionsAreRuns us :=
  fun a b c habc => h a b c (habc.trans hrow)

/-- A list that is balanced from a stack on stays so when the definitions are taken out. -/
theorem scan_extract {κ : Type} [DecidableEq κ] (key : Token → κ) (ts : List Token)
    (hts : DefinitionsAreRuns ts) : ∀ {stack s : List κ}, scan stack (bracketsBy key ts) = some s →
      scan stack (bracketsBy key (extract ts)) = some s := by
  induction ts using extract.induct with
  | case1 a b c rest d hd ih =>
    intro stack s h
    have hb := hts a b c ⟨[], rest, rfl⟩ (by rw [hd]; rfl)
    have hscan := scan_definition key hd hb h
    rw [extract_of_some hd]
    exact scan_bracketsBy_append_of_imp key [d] hscan fun _ =>
      ih (hts.of_isInfix ⟨[a, b, c], [], by simp⟩)
  | case2 a b c rest hd ih =>
    intro stack s h
    rw [extract_of_none hd]
    exact scan_bracketsBy_append_of_imp key [a] h fun _ =>
      ih (hts.of_isInfix ⟨[a], [], by simp⟩)
  | case3 ts hshort =>
    intro stack s h
    rwa [extract_of_short hshort]

/-- A token that begins or ends a container needs children to make a definition. -/
theorem definitionsAreRuns_of_childless {ts : List Token}
    (hts : ∀ t ∈ ts, t.nesting ≠ .single → t.children = []) : DefinitionsAreRuns ts := by
  intro a b c hrow hsome
  obtain ⟨d, hd⟩ := Option.isSome_iff_exists.mp hsome
  obtain ⟨-, -, -, hchildren, -, -, -⟩ := definition?_eq_some hd
  by_contra hn
  exact hchildren (hts b (hrow.subset (by simp)) hn)

/-- In a page only runs and definitions have children. -/
theorem definitionsAreRuns_of_isPagePart {ts : List Token} (hts : ∀ t ∈ ts, t.IsPagePart) :
    DefinitionsAreRuns ts :=
  definitionsAreRuns_of_childless fun t ht hn => ((hts t ht).pair hn).2

theorem isPagePart_extract (ts : List Token) (hts : ∀ t ∈ ts, t.IsPagePart) :
    ∀ t ∈ extract ts, t.IsPagePart := by
  induction ts using extract.induct with
  | case1 a b c rest d hd ih =>
    obtain ⟨-, -, -, -, hk, hn, hedits⟩ := definition?_eq_some hd
    have ih := ih fun t ht => hts t (by simp [ht])
    have hpart : d.IsPagePart := by
      refine ⟨fun hne => absurd hn hne, fun _ => .inr hk, ?_⟩
      exact .of_editsTexts hedits (hts b (by simp)).children
    rw [extract_of_some hd]
    intro t ht
    rcases List.mem_cons.mp ht with rfl | ht
    · exact hpart
    · exact ih t ht
  | case2 a b c rest hd ih =>
    have ih := ih fun t ht => hts t (List.mem_cons_of_mem a ht)
    rw [extract_of_none hd]
    intro t ht
    rcases List.mem_cons.mp ht with rfl | ht
    · exact hts t List.mem_cons_self
    · exact ih t ht
  | case3 ts hshort => rwa [extract_of_short hshort]

/-- **Taking the definitions out leaves a page.** -/
theorem pageContent_extract {ts : List Token} (h : PageContent ts) : PageContent (extract ts) :=
  ⟨scan_extract Token.shown ts (definitionsAreRuns_of_isPagePart h.parts) h.balanced,
    isPagePart_extract ts h.parts⟩

theorem runs_cons_sublist (t : Token) {xs ys : List Token} (h : (runs xs).Sublist (runs ys)) :
    (runs (t :: xs)).Sublist (runs (t :: ys)) := by
  unfold runs
  rw [List.filter_cons, List.filter_cons]
  split
  · exact h.cons_cons t
  · exact h

theorem runs_sublist_cons (t : Token) (ts : List Token) : (runs ts).Sublist (runs (t :: ts)) :=
  (List.sublist_cons_self t ts).filter _

/-- **The runs that stay are not touched.** -/
theorem sublist_extract (ts : List Token) : (runs (extract ts)).Sublist (runs ts) := by
  induction ts using extract.induct with
  | case1 a b c rest d hd ih =>
    obtain ⟨-, -, -, -, hk, -, -⟩ := definition?_eq_some hd
    have hrun : d.isRun = false := by simp [Token.isRun, hk, definitionKind]
    have hdrop : runs (d :: extract rest) = runs (extract rest) :=
      List.filter_cons_of_neg (by simp [hrun])
    have hrest : (runs rest).Sublist (runs (a :: b :: c :: rest)) :=
      ((runs_sublist_cons c rest).trans (runs_sublist_cons b _)).trans (runs_sublist_cons a _)
    rw [extract_of_some hd, hdrop]
    exact ih.trans hrest
  | case2 a b c rest hd ih =>
    rw [extract_of_none hd]
    exact runs_cons_sublist a ih
  | case3 ts hshort =>
    rw [extract_of_short hshort]

/-! ### References -/

theorem referenceKey?_eq_some {t : Token} {key : String} (h : referenceKey? t = some key) :
    t.kind = .link ∧ t.nesting = .opening := by
  unfold referenceKey? at h
  split at h
  · next hcond => simpa [Token.isOpening] using hcond
  · simp at h

theorem isInlinePart_reference {t : Token} (hk : t.kind = referenceKind)
    (hn : t.nesting ≠ .single) (hc : t.children = []) : t.IsInlinePart :=
  ⟨fun _ => .inr hk, fun h => absurd h hn, hc⟩

/-- A link and the token that closes it can be replaced by the two ends of a reference. -/
theorem inlineContent_replace {pre body rest : List Token} {o c : Token} (ho : o.nesting = .opening)
    (hc : c.nesting = .closing) (hk : c.kind = o.kind) (hbody : IsBalanced (brackets body))
    (h : InlineContent (pre ++ o :: (body ++ c :: rest))) (key : String) :
    InlineContent (pre ++ referenceOpening key :: (body ++ referenceClosing :: rest)) := by
  have hsplit : ∀ x y : Token,
      pre ++ x :: (body ++ y :: rest) = pre ++ (x :: body ++ [y]) ++ rest := by
    intro x y
    simp
  have hparts := h.parts
  have hbalanced := h.balanced
  refine ⟨?_, fun t ht => ?_⟩
  · rw [hsplit, brackets, bracketsBy_append, bracketsBy_append] at hbalanced ⊢
    have hold := balanced_pair Token.kind ho hc hk hbody
    have hnew := balanced_pair Token.kind (o := referenceOpening key) (c := referenceClosing)
      rfl rfl rfl hbody
    rw [BracketOf.balanced_remove hold] at hbalanced
    rwa [BracketOf.balanced_remove hnew]
  · simp only [List.mem_append, List.mem_cons] at ht
    rcases ht with ht | rfl | ht | rfl | ht
    · exact hparts t (by simp [ht])
    · exact isInlinePart_reference rfl (fun h => by cases h) rfl
    · exact hparts t (by simp [ht])
    · exact isInlinePart_reference rfl (fun h => by cases h) rfl
    · exact hparts t (by simp [ht])

theorem markAt_of_none {children : List Token} {index : Nat}
    (h : children[index]?.bind referenceKey? = none) (keys : List String) :
    markAt (children, keys) index = (children, keys) := by
  simp only [markAt, h]

/-- A link to a term becomes a reference, together with the token that closes it. -/
theorem markAt_of_link {o c : Token} {body : List Token} {key : String}
    (href : referenceKey? o = some key) (hc : c.nesting = .closing) (hk : c.kind = o.kind)
    (hbody : Nested body) (pre rest : List Token) (keys : List String) :
    markAt (pre ++ o :: (body ++ c :: rest), keys) pre.length
      = (pre ++ referenceOpening key :: (body ++ referenceClosing :: rest), keys ++ [key]) := by
  have hkey : (pre ++ o :: (body ++ c :: rest))[pre.length]?.bind referenceKey? = some key := by
    simpa using href
  have hstop := findClose?_eq (referenceKey?_eq_some href).2 hc hk hbody pre rest
  have hset : ((pre ++ o :: (body ++ c :: rest)).set pre.length (referenceOpening key)).set
      (pre.length + 1 + body.length) referenceClosing
      = pre ++ referenceOpening key :: (body ++ referenceClosing :: rest) := by
    rw [List.set_append_right _ _ (Nat.le_refl _), Nat.sub_self, List.set_cons_zero,
      List.set_append_right _ _ (by omega)]
    rw [show pre.length + 1 + body.length - pre.length = body.length + 1 by omega,
      List.set_cons_succ, List.set_append_right _ _ (Nat.le_refl _), Nat.sub_self,
      List.set_cons_zero]
  simp only [markAt, hkey, hstop, hset]

/-- **What one step of the marking does**: there is no link to a term at the index, and nothing
happens, or there is one, and it becomes a reference together with the token that closes it. -/
theorem markAt_cases {children : List Token} (h : InlineContent children) (keys : List String)
    (index : Nat) :
    (children[index]?.bind referenceKey? = none ∧
      markAt (children, keys) index = (children, keys)) ∨
    ∃ pre o body c rest key, children = pre ++ o :: (body ++ c :: rest) ∧ pre.length = index ∧
      referenceKey? o = some key ∧ c.nesting = .closing ∧ c.kind = .link ∧
      IsBalanced (brackets body) ∧ markAt (children, keys) index
        = (pre ++ referenceOpening key :: (body ++ referenceClosing :: rest), keys ++ [key]) := by
  cases hkey : children[index]?.bind referenceKey? with
  | none => exact .inl ⟨rfl, markAt_of_none hkey keys⟩
  | some key =>
    obtain ⟨o, hget, href⟩ := Option.bind_eq_some_iff.mp hkey
    obtain ⟨hlink, ho⟩ := referenceKey?_eq_some href
    obtain ⟨pre, tail, rfl, rfl⟩ := exists_eq_append_of_getElem? hget
    -- The run is balanced, so what is found by counting is the partner of the link.
    obtain ⟨body, c, rest, rfl, hc, hk, hbody⟩ := exists_partner Token.kind ho h.balanced
    exact .inr ⟨pre, o, body, c, rest, key, rfl, rfl, href, hc, hk.trans hlink, hbody,
      markAt_of_link href hc hk (nested_iff_balanced.mpr hbody) pre rest keys⟩

/-- What marking keeps of a run: its balance and its text. -/
theorem markAt_spec {children : List Token} (h : InlineContent children) (keys : List String)
    (index : Nat) : InlineContent (markAt (children, keys) index).1 ∧
      plainText (markAt (children, keys) index).1 = plainText children := by
  rcases markAt_cases h keys index with
    ⟨-, hmark⟩ | ⟨pre, o, body, c, rest, key, rfl, -, href, hc, hclosed, hbody, hmark⟩
  · rw [hmark]
    exact ⟨h, rfl⟩
  · obtain ⟨hlink, ho⟩ := referenceKey?_eq_some href
    rw [hmark]
    refine ⟨inlineContent_replace ho hc (hclosed.trans hlink.symm) hbody h key, ?_⟩
    have hoText := Token.plainText_link (.inl hlink) (h.parts o (by simp)).children
    have hcText := Token.plainText_link (.inl hclosed) (h.parts c (by simp)).children
    have hopening : (referenceOpening key).plainText = "" := Token.plainText_link (.inr rfl) rfl
    have hclosing : referenceClosing.plainText = "" := Token.plainText_link (.inr rfl) rfl
    simp only [plainText_append, plainText_cons, hoText, hcText, hopening, hclosing]

/-- **Marking the references of a run keeps its balance and its text.** -/
theorem markReferences_spec {children : List Token} (h : InlineContent children) :
    InlineContent (markReferences children).1 ∧
      plainText (markReferences children).1 = plainText children := by
  -- The indices may be any: what one step keeps, all steps keep.
  have hfold : ∀ (indices : List Nat) (state : List Token × List String), InlineContent state.1 →
      InlineContent (indices.foldl markAt state).1 ∧
        plainText (indices.foldl markAt state).1 = plainText state.1 := by
    intro indices
    induction indices with
    | nil => exact fun _ h => ⟨h, rfl⟩
    | cons i indices ih =>
      intro state h
      obtain ⟨hc, ht⟩ := markAt_spec h state.2 i
      obtain ⟨hc', ht'⟩ := ih (markAt state i) hc
      exact ⟨hc', ht'.trans ht⟩
  exact hfold _ (children, []) h

/-- The references of every run are marked. -/
theorem markAll_eq_mapRuns (ts : List Token) :
    (markAll ts).1 = mapRuns (fun children => (markReferences children).1) ts := by
  induction ts with
  | nil => rfl
  | cons t ts ih =>
    rw [markAll, mapRuns, List.map_cons]
    dsimp only
    split <;> rw [ih] <;> rfl

/-- What the revision makes of the tokens. -/
theorem revise_fst (ts : List Token) (s : Session) :
    (revise ts s).1 = mapRuns (fun children => (markReferences children).1) (extract ts) :=
  markAll_eq_mapRuns (extract ts)

/-- **The revision leaves a page.** -/
theorem pageContent_revise {ts : List Token} (h : PageContent ts) (s : Session) :
    PageContent (revise ts s).1 := by
  rw [revise_fst]
  exact (pageContent_extract h).mapRuns fun _ hx => (markReferences_spec hx).1

end Plugin.Terms

end Folio
