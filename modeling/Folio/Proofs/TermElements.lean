import Folio.Proofs.StartTags

/-!
# The links, images and terms of a page

Links become the elements `a`, images `img`, references to terms `i` and definitions `dfn`, and
nothing else does: so each of these elements on a page can be led back to the token that it was made
of.

## Main definitions

* `definitionAttributes`, `referenceAttributes`, `imageAttributes` — what the elements say.
* `Token.Becomes` — the element that the token of a run becomes.

## Main results

* `Renderer.startTag_mem_inlinePiece`, `Renderer.startTag_mem_blockPiece` — which elements the token
  of a run and a block become.
* `Options.element_of_mem_startTags` — **the links, images and terms of a page are those of its
  tokens.**
-/

namespace Folio

open Html (Markup StartTag startTags written)
open Plugin.Terms (definitionKind referenceKind renderDefinition renderReference)

/-- The key of a reference or of a definition, as it is rendered. -/
def Token.termKey (t : Token) : String := (t.attr? "key").getD ""

/-- A token of a plugin's own kind in a run is one end of a reference. -/
theorem Token.IsInlinePart.of_custom {t : Token} (ht : t.IsInlinePart) {name : String}
    (hk : t.kind = .custom name) : t.kind = referenceKind ∧ t.nesting ≠ .single := by
  have hn : t.nesting ≠ .single := fun hn => by
    have hleaf := ht.leaf hn
    rw [hk] at hleaf
    cases hleaf
  refine ⟨(ht.pair hn).resolve_left fun hpair => ?_, hn⟩
  rw [hk] at hpair
  cases hpair

/-- A token of a plugin's own kind among the blocks of a page is a definition. -/
theorem Token.IsPagePart.of_custom {t : Token} (ht : t.IsPagePart) {name : String}
    (hk : t.kind = .custom name) : t.kind = definitionKind := by
  have hn : t.nesting = .single := by
    by_contra hn
    have hpair := (ht.pair hn).1
    rw [hk] at hpair
    cases hpair
  refine (ht.leaf hn).resolve_left fun hleaf => ?_
  rw [hk] at hleaf
  cases hleaf

/-- The elements that links and terms become. -/
def termElements : List String := ["a", "i", "dfn"]

/-- The elements that are led back to a token: those of links and terms, and images. -/
def tracedElements : List String := "img" :: termElements

/-- The attributes of the element that a definition becomes. -/
def definitionAttributes (key : String) : List (String × String) :=
  [("class", "term-definition"), ("id", "term-" ++ key)]

/-- The attributes of the element that a reference becomes. -/
def referenceAttributes (key : String) : List (String × String) :=
  [("class", "term"), ("data-term", key), ("aria-describedby", "term-" ++ key)]

/-- The attributes of the element that an image becomes. -/
def imageAttributes (t : Token) (alt : String) : List (String × String) :=
  ("src", (t.attr? "src").getD "") :: ("alt", alt) :: t.attrs.filter fun p => p.1 != "src"

/-- The token of a run becomes the element. -/
inductive Token.Becomes (t : Token) : String → List (String × String) → Prop where
  | link (kind : t.kind = .link) (opening : t.nesting = .opening) : t.Becomes "a" t.attrs
  | reference (kind : t.kind = referenceKind) (opening : t.nesting = .opening) :
      t.Becomes "i" (referenceAttributes t.termKey)
  | image (kind : t.kind = .image) (opening : t.nesting = .opening) (alt : String) :
      t.Becomes "img" (imageAttributes t alt)

namespace Token

variable {t : Token} {pairs : List (String × String)}

theorem becomes_a_iff :
    t.Becomes "a" pairs ↔ t.kind = .link ∧ t.nesting = .opening ∧ pairs = t.attrs := by
  constructor
  · generalize hname : "a" = name
    rintro (⟨hk, hn⟩ | _ | _)
    · exact ⟨hk, hn, rfl⟩
    all_goals exact absurd hname (by decide)
  · rintro ⟨hk, hn, rfl⟩
    exact .link hk hn

theorem becomes_i_iff : t.Becomes "i" pairs ↔
    t.kind = referenceKind ∧ t.nesting = .opening ∧ pairs = referenceAttributes t.termKey := by
  constructor
  · generalize hname : "i" = name
    rintro (_ | ⟨hk, hn⟩ | _)
    case reference => exact ⟨hk, hn, rfl⟩
    all_goals exact absurd hname (by decide)
  · rintro ⟨hk, hn, rfl⟩
    exact .reference hk hn

theorem becomes_img_iff : t.Becomes "img" pairs ↔
    t.kind = .image ∧ t.nesting = .opening ∧ ∃ alt, pairs = imageAttributes t alt := by
  constructor
  · generalize hname : "img" = name
    rintro (_ | _ | ⟨hk, hn, alt⟩)
    case image => exact ⟨hk, hn, alt, rfl⟩
    all_goals exact absurd hname (by decide)
  · rintro ⟨hk, hn, alt, rfl⟩
    exact .image hk hn alt

end Token

theorem mem_imageMarkup {t : Token} {alt : String} {m : Markup} : m ∈ imageMarkup t alt ↔
    m = .startTag "img" (Html.attributes (imageAttributes t alt)) := List.mem_singleton

theorem startTag_mem_tagMarkup {name name' : String} {attrs : List Html.Attribute} {t : Token}
    (h : .startTag name attrs ∈ tagMarkup name' t) :
    name = name' ∧ t.nesting ≠ .closing ∧ attrs = Html.attributes t.attrs := by
  unfold tagMarkup at h
  split at h
  · next hn => simp_all
  · simp at h
  · next hn => simp_all

namespace Renderer

variable {r : Renderer} {name : String} {attrs : List Html.Attribute}

/-- Inline markup comes from a token, or it is the element of an image. -/
theorem mem_inlinesFrom {m : Markup} {ts : List Token} : ∀ {skip : Nat},
    m ∈ r.inlinesFrom skip ts → ∃ t ∈ ts, m ∈ r.inlinePiece t ∨
      t.kind = .image ∧ t.nesting = .opening ∧ ∃ alt, m ∈ imageMarkup t alt := by
  induction ts with
  | nil =>
    intro skip h
    rw [inlinesFrom_nil] at h
    exact absurd h List.not_mem_nil
  | cons t ts ih =>
    have htail : ∀ {skip}, m ∈ r.inlinesFrom skip ts → ∃ u ∈ t :: ts, m ∈ r.inlinePiece u ∨
        u.kind = .image ∧ u.nesting = .opening ∧ ∃ alt, m ∈ imageMarkup u alt :=
      fun h => (ih h).imp fun u ⟨hu, hm⟩ => ⟨List.mem_cons_of_mem t hu, hm⟩
    intro skip h
    cases skip with
    | succ skip =>
      rw [inlinesFrom_succ] at h
      exact htail h
    | zero =>
      by_cases hi : t.kind = .image ∧ t.nesting = .opening
      · rw [inlinesFrom_image r hi.1 hi.2] at h
        rcases List.mem_append.mp h with h | h
        · exact ⟨t, List.mem_cons_self, .inr ⟨hi.1, hi.2, _, h⟩⟩
        · exact htail h
      · rw [inlinesFrom_cons r fun hk hn => hi ⟨hk, hn⟩] at h
        rcases List.mem_append.mp h with h | h
        · exact ⟨t, List.mem_cons_self, .inl h⟩
        · exact htail h

/-- What raw HTML says is not looked at. -/
theorem not_startTag_mem_rawMarkup (s : String) : .startTag name attrs ∉ r.rawMarkup s := by
  unfold rawMarkup
  split <;> simp

/-- Of the tokens whose kind is no plugin's own, only links and images become such an element. -/
theorem startTag_mem_inlineMarkup (hname : name ∈ tracedElements) {t : Token}
    (h : .startTag name attrs ∈ r.inlineMarkup t) : t.nesting ≠ .closing ∧
      ((name = "a" ∧ t.kind = .link ∧ attrs = Html.attributes t.attrs) ∨
        (name = "img" ∧ t.kind = .image ∧
          ∃ alt, attrs = Html.attributes (imageAttributes t alt))) := by
  have hne : ∀ name' ∉ tracedElements, name ≠ name' := fun _ hnot h => hnot (h ▸ hname)
  have hother : ∀ {name'}, name' ∉ tracedElements → .startTag name attrs ∉ tagMarkup name' t :=
    fun hnot h => hne _ hnot (startTag_mem_tagMarkup h).1
  have hbreak : .startTag name attrs ∉ breakMarkup := by simp [breakMarkup, hne "br" (by decide)]
  unfold inlineMarkup at h
  cases hk : t.kind with
  | link =>
    rw [hk] at h
    obtain ⟨hname, hn, hattrs⟩ := startTag_mem_tagMarkup h
    exact ⟨hn, .inl ⟨hname, rfl, hattrs⟩⟩
  | image =>
    rw [hk] at h
    dsimp only at h
    split at h
    · exact absurd h List.not_mem_nil
    · next hn =>
      obtain ⟨rfl, rfl⟩ := Markup.startTag.inj (mem_imageMarkup.mp h)
      exact ⟨by simpa [Token.isClosing] using hn, .inr ⟨rfl, rfl, _, rfl⟩⟩
  | emphasis | strong | strikethrough | superscript | subscript =>
    rw [hk] at h
    exact absurd h (hother (by decide))
  | codeInline => simp [hk, hne "code" (by decide)] at h
  | htmlInline =>
    rw [hk] at h
    exact absurd h (not_startTag_mem_rawMarkup t.content)
  | softBreak =>
    rw [hk] at h
    dsimp only at h
    split at h
    · exact absurd h hbreak
    · simp at h
  | hardBreak =>
    rw [hk] at h
    exact absurd h hbreak
  | taskMarker checked => simp [hk, taskMarkup, hne "input" (by decide)] at h
  | _ => simp [hk] at h

/-- **The links, images and terms among the elements of an inline token.** -/
theorem startTag_mem_inlinePiece (hr : r.HasBuiltinRules) (hname : name ∈ tracedElements)
    {t : Token} (ht : t.IsInlinePart)
    (h : .startTag name attrs ∈ r.inlinePiece t) :
    ∃ pairs, t.Becomes name pairs ∧ attrs = Html.attributes pairs := by
  unfold inlinePiece at h
  split at h
  · next hk =>
    obtain ⟨hkind, -⟩ := ht.of_custom hk
    obtain rfl := Kind.custom.inj (hk.symm.trans hkind)
    rw [customMarkup_eq, ht.children] at h
    rcases hr.lookup_cases "term" with hnone | ⟨hfalse, -⟩ | ⟨-, href⟩
    · rw [hnone] at h
      simp at h
    · exact absurd hfalse (by decide)
    · rw [href] at h
      simp only [renderReference] at h
      split at h
      · next hn =>
        obtain ⟨rfl, rfl⟩ := Markup.startTag.inj (List.mem_singleton.mp h)
        exact ⟨_, .reference hkind hn, rfl⟩
      · simp at h
      · simp at h
  · obtain ⟨hn, hcases⟩ := startTag_mem_inlineMarkup hname h
    have hopening : t.kind = .link ∨ t.kind = .image → t.nesting = .opening := by
      intro hk
      cases hnesting : t.nesting with
      | opening => rfl
      | closing => exact absurd hnesting hn
      | single =>
        have hleaf := ht.leaf hnesting
        rcases hk with hk | hk <;> rw [hk] at hleaf <;> cases hleaf
    rcases hcases with ⟨rfl, hk, rfl⟩ | ⟨rfl, hk, alt, rfl⟩
    · exact ⟨_, .link hk (hopening (.inl hk)), rfl⟩
    · exact ⟨_, .image hk (hopening (.inr hk)) alt, rfl⟩

theorem startTag_mem_inlines (hr : r.HasBuiltinRules) (hname : name ∈ tracedElements)
    {ts : List Token} (hts : ∀ t ∈ ts, t.IsInlinePart)
    (h : .startTag name attrs ∈ r.inlinesFrom 0 ts) :
    ∃ c ∈ ts, ∃ pairs, c.Becomes name pairs ∧ attrs = Html.attributes pairs := by
  obtain ⟨c, hc, hpiece | ⟨hk, hn, alt, himage⟩⟩ := mem_inlinesFrom h
  · exact ⟨c, hc, startTag_mem_inlinePiece hr hname (hts c hc) hpiece⟩
  · obtain ⟨rfl, rfl⟩ := Markup.startTag.inj (mem_imageMarkup.mp himage)
    exact ⟨c, hc, _, .image hk hn alt, rfl⟩

theorem heading_not_mem_tracedElements (n : Nat) : "h" ++ toString n ∉ tracedElements := by
  have hall : ∀ name ∈ tracedElements, name.toList.head? ≠ some 'h' := by decide
  exact fun hmem => hall _ hmem (by simp)

theorem not_startTag_mem_codeMarkup (hname : name ∈ tracedElements) (t : Token) :
    .startTag name attrs ∉ r.codeMarkup t := by
  have hpre : name ≠ "pre" := fun h => absurd (h ▸ hname) (by decide)
  have hcode : name ≠ "code" := fun h => absurd (h ▸ hname) (by decide)
  unfold codeMarkup
  dsimp only
  split <;> simp [hpre, hcode]

/-- Blocks become none of these elements. -/
theorem not_startTag_mem_blockMarkup (hname : name ∈ tracedElements) {t : Token}
    (ht : t.IsPagePart) : .startTag name attrs ∉ r.blockMarkup t := by
  have hother : ∀ {name'}, name' ∉ tracedElements → .startTag name attrs ∉ tagMarkup name' t :=
    fun hnot h => hnot ((startTag_mem_tagMarkup h).1 ▸ hname)
  unfold blockMarkup
  split
  · exact List.not_mem_nil
  split
  all_goals try exact hother (by decide)
  · next n _ =>
    have hne : name ≠ "h" ++ toString n := fun h => heading_not_mem_tracedElements n (h ▸ hname)
    dsimp only
    split
    · exact fun h => hne (Markup.startTag.inj (List.mem_singleton.mp h)).1
    · simp
  · exact not_startTag_mem_codeMarkup hname t
  · exact not_startTag_mem_rawMarkup _
  · have hne : name ≠ "hr" := fun h => absurd (h ▸ hname) (by decide)
    simp [hne]
  · intro h
    have hk : t.kind = .link ∨ t.kind = .image :=
      (startTag_mem_inlineMarkup hname h).2.imp (·.2.1) (·.2.1)
    by_cases hn : t.nesting = .single
    · rcases hk with hk | hk <;> rcases ht.leaf hn with hleaf | hleaf <;> rw [hk] at hleaf <;>
        cases hleaf
    · have hpair := (ht.pair hn).1
      rcases hk with hk | hk <;> rw [hk] at hpair <;> cases hpair

/-- **The links, images and terms among the elements of a block**: those of what stands in it, and a
definition itself. -/
theorem startTag_mem_blockPiece (hr : r.HasBuiltinRules) (hname : name ∈ tracedElements)
    {t : Token} (ht : t.IsPagePart)
    (h : .startTag name attrs ∈ r.blockPiece t) :
    .startTag name attrs ∈ r.inlinesFrom 0 t.children ∨
    (name = "dfn" ∧ t.kind = definitionKind ∧
      attrs = Html.attributes (definitionAttributes t.termKey)) := by
  unfold blockPiece at h
  split at h
  · exact .inl h
  · next hk =>
    have hkind := ht.of_custom hk
    obtain rfl := Kind.custom.inj (hk.symm.trans hkind)
    rw [customMarkup_eq] at h
    rcases hr.lookup_cases "term_definition" with hnone | ⟨-, hdef⟩ | ⟨hfalse, -⟩
    · rw [hnone] at h
      dsimp only at h
      split at h
      · simp at h
      · exact .inl h
    · rw [hdef] at h
      simp only [renderDefinition, List.cons_append, List.mem_cons, List.mem_append,
        List.not_mem_nil, or_false] at h
      rcases h with h | h | h
      · obtain ⟨rfl, rfl⟩ := Markup.startTag.inj h
        exact .inr ⟨rfl, hkind, rfl⟩
      · exact .inl h
      · cases h
    · exact absurd hfalse (by decide)
  · exact absurd h (not_startTag_mem_blockMarkup hname ht)

/-- What stands in a run or in a definition is rendered. -/
theorem mem_blockPiece_of_mem_inlinesFrom (hr : r.HasBuiltinRules) {t : Token}
    (hk : t.kind = .inline ∨ t.kind = definitionKind) {m : Markup}
    (h : m ∈ r.inlinesFrom 0 t.children) : m ∈ r.blockPiece t := by
  rcases hk with hk | hk
  · rwa [blockPiece, hk]
  · rw [blockPiece, hk, definitionKind]
    dsimp only
    rw [customMarkup_eq]
    rcases hr.lookup_cases "term_definition" with hnone | ⟨-, hdef⟩ | ⟨hfalse, -⟩
    · have hsome : t.children.isEmpty = false := by
        cases hchildren : t.children with
        | nil =>
          rw [hchildren, inlinesFrom_nil] at h
          exact absurd h List.not_mem_nil
        | cons => rfl
      rw [hnone]
      simpa [hsome] using h
    · rw [hdef]
      exact List.mem_cons_of_mem _ (List.mem_append_left _ h)
    · exact absurd hfalse (by decide)

/-- A definition becomes an element that says its key, if there is a rule for it. -/
theorem startTag_definition_mem (hrule : r.rules.lookup "term_definition" = some renderDefinition)
    {t : Token} (hk : t.kind = definitionKind) :
    .startTag "dfn" (Html.attributes (definitionAttributes t.termKey)) ∈ r.blockPiece t := by
  rw [blockPiece, hk, definitionKind]
  dsimp only
  rw [customMarkup_eq, hrule]
  exact List.mem_cons_self

end Renderer

/-- **The links, images and terms of a page are those of its tokens**, wherever they are
rendered. -/
theorem Options.element_of_mem_startTags {o : Options} (hhtml : o.allowHtml = false)
    (ho : o.UsesBuiltins) {ts : List Token} (hts : PageContent ts) {env : Environment}
    {tag : StartTag} (htag : tag ∈ startTags (o.pageOf ts env).html)
    (hname : tag.name ∈ tracedElements) (hhighlighter : WritesNo tag.name o.highlighter) :
    (∃ t ∈ ts, ∃ c ∈ t.children, ∃ pairs, c.Becomes tag.name pairs ∧
      tag = written tag.name (Html.attributes pairs)) ∨
    ∃ t ∈ ts, t.kind = definitionKind ∧
      tag = written "dfn" (Html.attributes (definitionAttributes t.termKey)) := by
  have hrules : (o.engine.rendererIn {}).HasBuiltinRules := Options.hasBuiltinRules ho
  obtain ⟨t, ht, attrs, hpiece, htag⟩ :=
    Options.exists_of_mem_startTags_pageOf hhtml ho hhighlighter htag rfl
  have hpart := hts.parts t ht
  rcases Renderer.startTag_mem_blockPiece hrules hname hpart hpiece with
    hinlines | ⟨hdfn, hk, rfl⟩
  · obtain ⟨c, hc, pairs, hbecomes, rfl⟩ :=
      Renderer.startTag_mem_inlines hrules hname hpart.children.parts hinlines
    exact .inl ⟨t, ht, c, hc, pairs, hbecomes, htag⟩
  · exact .inr ⟨t, ht, hk, by rw [htag, hdfn]⟩

end Folio
