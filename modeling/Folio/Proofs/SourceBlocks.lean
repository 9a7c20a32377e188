import Folio.Proofs.AttributeNames
import Folio.Proofs.DefaultPlugins

/-!
# The blocks of the source

A run begins with the tokens of the source.  Attribute blocks are taken off its texts and attached
to its elements, and nothing is added: so all its tokens stay inline tokens, and the names of their
attributes can be read off the page.

## Main definitions

* `Token.IsSpan` — an inline token with legible names.
* `Token.IsBlock` — a block whose children are such tokens.
* `IsKeptInRuns` — properties that inline tokens keep when blocks are attached.

## Main results

* `Plugin.Attributes.isBlock_revise` — **attaching attributes leaves the runs inline.**
* `Options.isBlock_anchored` — so they are when the terms are looked for.
-/

namespace Folio

open Html (IsAttributeName)
open Markdown (Event assemble)
open Plugin.Terms (definitionKind)

/-- An inline token whose attributes can be read off the page. -/
structure Token.IsSpan (t : Token) : Prop extends Token.IsInline t where
  names : t.HasLegibleNames

/-- A block of the source: only runs have children, which are inline tokens whose attributes can be
read off the page. -/
structure Token.IsBlock (t : Token) : Prop where
  kind : t.kind.isBlockPair = true ∨ t.kind.isBlockLeaf = true
  bare : t.kind ≠ .inline → t.children = []
  spans : ∀ c ∈ t.children, c.IsSpan

namespace Token

variable {t : Token}

theorem IsSource.isSpan (h : t.IsSource) : t.IsSpan := by
  have hsource : ∀ n ∈ sourceNames, IsAttributeName n := by decide
  exact ⟨h.toIsInline, fun n hn => hsource n (h.names n hn)⟩

theorem IsAssembled.isBlock (h : t.IsAssembled) : t.IsBlock := by
  refine ⟨?_, h.bare, ?_⟩
  · by_cases hn : t.nesting = .single
    · exact .inr (h.leaf hn)
    · exact .inl (h.pair hn)
  · by_cases hk : t.kind = .inline
    · exact fun c hc => (h.children hk c hc).isSpan
    · rw [h.bare hk]
      exact List.forall_mem_nil _

theorem IsSpan.withContent (h : t.IsSpan) (content : String) : (t.withContent content).IsSpan :=
  ⟨⟨h.pair, h.leaf, h.children⟩, h.names⟩

theorem IsSpan.apply (h : t.IsSpan) {block : AttributeBlock} (hblock : block.IsLegible) :
    (block.apply t).IsSpan := by
  have hnames := h.names.apply hblock
  obtain ⟨attrs, info, heq⟩ := block.sameButAttrs_apply t
  rw [heq] at hnames ⊢
  exact ⟨⟨h.pair, h.leaf, h.children⟩, hnames⟩

theorem IsBlock.of_sameButAttrs {u : Token} (hu : SameButAttrs t u) (h : t.IsBlock) :
    u.IsBlock := by
  obtain ⟨attrs, info, rfl⟩ := hu
  exact ⟨h.kind, h.bare, h.spans⟩

/-- Definitions are no part of the source. -/
theorem IsBlock.ne_definitionKind (h : t.IsBlock) : t.kind ≠ definitionKind := by
  intro hk
  have hkind := h.kind
  rw [hk] at hkind
  rcases hkind with hkind | hkind <;> cases hkind

end Token

/-- What holds of all tokens of a list also holds of tokens that correspond to them. -/
theorem forall_mem_of_forall₂ {R : Token → Token → Prop} {P : Token → Prop} {ts us : List Token}
    (h : List.Forall₂ R ts us) (hR : ∀ {t u}, R t u → P t → P u) (hts : ∀ t ∈ ts, P t) :
    ∀ u ∈ us, P u := by
  induction h with
  | nil => exact List.forall_mem_nil _
  | cons h _ ih =>
    obtain ⟨ht, hts⟩ := List.forall_mem_cons.mp hts
    exact List.forall_mem_cons.mpr ⟨hR h ht, ih hts⟩

/-- A property of inline tokens that an attribute block does not take away, nor other content of a
text. -/
structure IsKeptInRuns (d : Delimiters) (P : Token → Prop) : Prop where
  withContent : ∀ {t}, t.kind = .text → P t → ∀ content, P (t.withContent content)
  apply : ∀ {text rest block}, d.stripLeading? text = some (block, rest) →
    ∀ {t}, P t → P (block.apply t)

theorem isKeptInRuns_isSpan (d : Delimiters) : IsKeptInRuns d Token.IsSpan where
  withContent _ h content := h.withContent content
  apply hstrip _ h := h.apply (AttributeBlock.isLegible_of_stripLeading? hstrip)

namespace Plugin.Attributes

variable (d : Delimiters)

section Runs

variable {d} {P : Token → Prop} (hP : IsKeptInRuns d P)

include hP

theorem forall_attachLast {text rest : String} {block : AttributeBlock}
    (hstrip : d.stripLeading? text = some (block, rest)) {ts : List Token} (h : ∀ t ∈ ts, P t) :
    ∀ t ∈ attachLast block ts, P t := by
  unfold attachLast
  split
  · intro t ht
    obtain ⟨j, hj⟩ := List.mem_iff_getElem?.mp ht
    rw [List.getElem?_modify] at hj
    obtain ⟨u, hu, heq⟩ := Option.map_eq_some_iff.mp hj
    have hmem := h u (List.mem_of_getElem? hu)
    split at heq
    · exact heq ▸ hP.apply hstrip hmem
    · exact heq ▸ hmem
  · exact h

/-- The property is kept when blocks are attached to the elements before them. -/
theorem forall_toElementsAfter (ts : List Token) : ∀ {done : List Token},
    (∀ t ∈ done, P t) → (∀ t ∈ ts, P t) → ∀ t ∈ toElementsAfter d done ts, P t := by
  induction ts with
  | nil =>
    intro done hdone _
    rw [toElementsAfter_nil]
    exact fun t ht => hdone t (List.mem_reverse.mp ht)
  | cons t ts ih =>
    intro done hdone hts
    obtain ⟨ht, hts⟩ := List.forall_mem_cons.mp hts
    rw [toElementsAfter_cons]
    split
    · exact ih (List.forall_mem_cons.mpr ⟨ht, hdone⟩) hts
    · next block rest hfound =>
      obtain ⟨htext, -, hstrip⟩ := (blockAfter?_eq_some_iff d).mp hfound
      have hdone' : ∀ u ∈ (attachLast block done.reverse).reverse, P u := fun u hu =>
        forall_attachLast hP hstrip (fun v hv => hdone v (List.mem_reverse.mp hv)) u
          (List.mem_reverse.mp hu)
      dsimp only
      split
      · exact ih hdone' hts
      · exact ih (List.forall_mem_cons.mpr ⟨hP.withContent htext ht rest, hdone'⟩) hts

theorem forall_stripChildren? {children rest : List Token} {block : AttributeBlock}
    (h : stripChildren? d children = some (rest, block)) (hall : ∀ t ∈ children, P t) :
    ∀ t ∈ rest, P t := by
  unfold stripChildren? at h
  obtain ⟨last, hlast, h⟩ := Option.bind_eq_some_iff.mp h
  obtain ⟨⟨⟩, hguard, h⟩ := Option.bind_eq_some_iff.mp h
  obtain ⟨⟨text, block'⟩, -, h⟩ := Option.bind_eq_some_iff.mp h
  obtain ⟨rfl, -⟩ := Prod.mk.inj (Option.some.inj h)
  have htext : last.kind = .text := by simpa [guard] using hguard
  have hbefore : ∀ t ∈ children.dropLast, P t := fun t ht =>
    hall t ((List.dropLast_sublist children).subset ht)
  split
  · exact hbefore
  · intro t ht
    rcases List.mem_append.mp ht with ht | ht
    · exact hbefore t ht
    · obtain rfl := List.mem_singleton.mp ht
      exact hP.withContent htext (hall last (List.mem_of_getLast? hlast)) text

/-- The tokens of a run keep the property when its blocks are taken off. -/
theorem forall_children_strippedRun {before : List Token} {t : Token}
    (h : ∀ c ∈ t.children, P c) : ∀ c ∈ (strippedRun d before t).children, P c := by
  have hchildren : ∀ c ∈ toElements d t.children, P c :=
    forall_toElementsAfter hP t.children (List.forall_mem_nil _) h
  unfold strippedRun
  dsimp only
  split
  · next rest block hstrip =>
    split
    · exact forall_stripChildren? hP hstrip hchildren
    · exact hchildren
  · exact hchildren

end Runs

theorem isBlock_strippedRun {before : List Token} {t : Token} (hk : t.kind = .inline)
    (h : t.IsBlock) : (strippedRun d before t).IsBlock := by
  have hkind : (strippedRun d before t).kind = t.kind := sameShape_strippedRun.1
  exact ⟨hkind ▸ h.kind, fun hne => absurd (hkind.trans hk) hne,
    forall_children_strippedRun (isKeptInRuns_isSpan d) h.spans⟩

theorem isBlock_stripped (ts : List Token) (h : ∀ t ∈ ts, t.IsBlock) : ∀ before,
    ∀ t ∈ stripped d before ts, t.IsBlock := by
  induction ts with
  | nil => exact fun _ => List.forall_mem_nil _
  | cons t ts ih =>
    obtain ⟨ht, hts⟩ := List.forall_mem_cons.mp h
    intro before
    refine List.forall_mem_cons.mpr ⟨?_, ih hts (t :: before)⟩
    split
    · next hk => exact isBlock_strippedRun d hk ht
    · exact ht

/-- **Attaching attributes leaves the runs inline.** -/
theorem isBlock_revise {ts : List Token} (h : ∀ t ∈ ts, t.IsBlock) :
    ∀ t ∈ revise d ts, t.IsBlock :=
  forall_mem_of_forall₂ (forall₂_revise d ts) Token.IsBlock.of_sameButAttrs
    (isBlock_stripped d ts h [])

end Plugin.Attributes

/-- The runs of a document are inline when the terms are looked for. -/
theorem Options.isBlock_anchored (o : Options) (events : List Event) :
    ∀ t ∈ o.anchored events, t.IsBlock := by
  have hassembled : ∀ t ∈ (assemble events).1, t.IsBlock := fun t ht =>
    (Markdown.isAssembled_of_mem_assemble events t ht).isBlock
  exact forall_mem_of_forall₂ (Plugin.Anchors.forall₂_assign _ _) Token.IsBlock.of_sameButAttrs
    (Plugin.Attributes.isBlock_revise o.delimiters hassembled)

end Folio
