import Folio.Proofs.DistinctNames
import Folio.Proofs.TermElements
import Mathlib.Data.List.Nodup

/-!
# Attributes that a page repeats

The attributes of a start tag are those of a token, or a few of its own, and both have distinct
names.  Only an image has both: its address and its alternative text come first, and of the
attributes of the token the address alone is left out.  So an attribute `alt` that a block attaches
to an image stands on the page beside the alternative text, and nothing else is ever repeated.

## Main definitions

* `Html.attributeNames`, `Html.tagNames` — the names of the attributes in the start tags of a page.
* `Token.Writes` — the attributes of a start tag are those of the token, or fixed ones.
* `outerImages` — the images of a run that stand in no other image.
* `Options.RepeatsOnlyAlt` — which names the page of a document repeats.

## Main results

* `Html.attributeNames_write` — **the names of attributes are read as they were written.**
* `Renderer.writes_of_mem_blockPiece` — **where the attributes of a start tag come from.**
* `Pipeline.repeatsOnlyAlt_renderEvents` — **an image with an attribute `alt` repeats this name, and
  all other names are distinct.**
* `Pipeline.not_nodup_render` — an image that has `alt` two times.
-/

namespace Folio

open Html (Attribute IsAttributeName IsTagName Markup tagTexts unfinished)
open Markdown (Event ProperlyNested)
open Plugin.Terms (definitionKind renderDefinition renderReference)

namespace Html

/-! ### Reading names -/

/-- What stands outside of the quotes around values. -/
def unquoted : (quoted : Bool) → List Char → List Char
  | _, [] => []
  | quoted, c :: cs =>
    if c == '\x22' then unquoted (!quoted) cs
    else if quoted then unquoted quoted cs
    else c :: unquoted quoted cs

/-- The names of the attributes in what stands behind the name of a tag, those of flags among
them.  Each name follows a blank, and ends at an equals sign if there is a value. -/
def attributeNames (cs : List Char) : List String :=
  (((unquoted false cs).splitOn ' ').tail).map fun word =>
    String.ofList (word.takeWhile (· != '='))

/-- The name of the element that the text of a tag begins, and the names of its attributes. -/
def tagNames? (inner : List Char) : Option (String × List String) :=
  if inner.head? = some '/' then none
  else some (String.ofList (inner.takeWhile (· != ' ')),
    attributeNames (inner.dropWhile (· != ' ')))

/-- The elements of a page with the names of their attributes, as their start tags say them. -/
def tagNames (html : String) : List (String × List String) :=
  (tagTexts none html.toList).filterMap tagNames?

theorem unquoted_append {cs : List Char} (h : ∀ c ∈ cs, c ≠ '\x22') (rest : List Char) :
    unquoted false (cs ++ rest) = cs ++ unquoted false rest := by
  induction cs with
  | nil => rfl
  | cons c cs ih =>
    obtain ⟨hc, hcs⟩ := List.forall_mem_cons.mp h
    simp [unquoted, hc, ih hcs]

theorem unquoted_value {cs : List Char} (h : ∀ c ∈ cs, c ≠ '\x22') (rest : List Char) :
    unquoted true (cs ++ '\x22' :: rest) = unquoted false rest := by
  induction cs with
  | nil => simp [unquoted]
  | cons c cs ih =>
    obtain ⟨hc, hcs⟩ := List.forall_mem_cons.mp h
    simp [unquoted, hc, ih hcs]

/-- What is left of an attribute without its value. -/
def Attribute.word (a : Attribute) : List Char :=
  escapeChars a.name.toList ++ if a.value.isSome then ['='] else []

theorem unquoted_write (a : Attribute) (rest : List Char) :
    unquoted false (a.write.toList ++ rest) = ' ' :: (a.word ++ unquoted false rest) := by
  have hfree : ∀ cs : List Char, ∀ c ∈ escapeChars cs, c ≠ '\x22' := by
    rintro cs c hc rfl
    exact absurd (not_special_of_mem_escapeChars hc) (by decide)
  have hblank : ∀ cs, unquoted false (' ' :: cs) = ' ' :: unquoted false cs := fun cs => by
    simp [unquoted]
  cases hvalue : a.value with
  | none =>
    have hwrite : a.write.toList ++ rest = ' ' :: (escapeChars a.name.toList ++ rest) := by
      simp [Attribute.write, hvalue, toList_escape]
    rw [hwrite, hblank, unquoted_append (hfree _), Attribute.word, hvalue]
    simp
  | some value =>
    have hwrite : a.write.toList ++ rest = ' ' :: (escapeChars a.name.toList
        ++ '=' :: '\x22' :: (escapeChars value.toList ++ '\x22' :: rest)) := by
      simp [Attribute.write, hvalue, toList_escape]
    have hquote : unquoted false ('=' :: '\x22' :: (escapeChars value.toList ++ '\x22' :: rest))
        = '=' :: unquoted false rest := by
      simp [unquoted, unquoted_value (hfree _)]
    rw [hwrite, hblank, unquoted_append (hfree _), hquote, Attribute.word, hvalue]
    simp

/-- **The names of attributes are read as they were written.** -/
theorem attributeNames_write {attrs : List Attribute} (h : ∀ a ∈ attrs, IsAttributeName a.name) :
    attributeNames (String.join (attrs.map Attribute.write)).toList
      = attrs.map fun a => escape a.name := by
  have hword : ∀ a ∈ attrs, (∀ c ∈ a.word, (c == ' ') = false) ∧
      a.word.takeWhile (· != '=') = escapeChars a.name.toList := by
    intro a ha
    have hname := ne_of_mem_escapeChars (h a ha)
    have hequals : ∀ c ∈ escapeChars a.name.toList, (c != '=') = true := by
      intro c hc
      simpa using (hname c hc).2
    refine ⟨fun c hc => ?_, ?_⟩
    · rcases List.mem_append.mp hc with hc | hc
      · simpa using (hname c hc).1
      · split at hc
        · obtain rfl := List.mem_singleton.mp hc
          decide
        · exact absurd hc List.not_mem_nil
    · rw [Attribute.word, List.takeWhile_append_of_pos hequals]
      split <;> simp
  -- Without the values the attributes are words with a blank before each.
  have hjoin : ∀ attrs : List Attribute,
      unquoted false (String.join (attrs.map Attribute.write)).toList
        = attrs.flatMap fun a => ' ' :: a.word := by
    intro attrs
    rw [String.toList_join]
    induction attrs with
    | nil => rfl
    | cons a attrs ih =>
      rw [List.map_cons, List.flatMap_cons, unquoted_write, ih, List.flatMap_cons,
        List.cons_append]
  have hsplit : ∀ attrs : List Attribute, (∀ a ∈ attrs, ∀ c ∈ a.word, (c == ' ') = false) →
      ∀ word : List Char, (∀ c ∈ word, (c == ' ') = false) →
        (word ++ attrs.flatMap fun a => ' ' :: a.word).splitOn ' '
          = word :: attrs.map Attribute.word := by
    intro attrs
    induction attrs with
    | nil =>
      intro _ word hfree
      rw [List.flatMap_nil, List.append_nil, List.splitOn, List.splitOnP_eq_singleton hfree]
      rfl
    | cons a attrs ih =>
      intro hwords word hfree
      obtain ⟨ha, hattrs⟩ := List.forall_mem_cons.mp hwords
      have hrest := ih hattrs a.word ha
      rw [List.splitOn] at hrest
      rw [List.flatMap_cons, List.cons_append, List.splitOn,
        List.splitOnP_append_cons word _ (by decide), List.splitOnP_eq_singleton hfree, hrest]
      rfl
  have hwords := hsplit attrs (fun a ha => (hword a ha).1) [] (List.forall_mem_nil _)
  rw [List.nil_append] at hwords
  rw [attributeNames, hjoin, hwords, List.tail_cons, List.map_map]
  refine List.map_congr_left fun a ha => ?_
  rw [Function.comp_apply, (hword a ha).2, escape]

theorem tagNames_startTag {name : String} (h : IsTagName name) (attrs : List Attribute) :
    tagNames (Markup.startTag name attrs).write
      = [(name, attributeNames (String.join (attrs.map Attribute.write)).toList)] := by
  obtain ⟨hslash, htake, hdrop⟩ := tagParts_startTag h attrs
  rw [tagNames, (tagTexts_startTag h attrs).1, List.filterMap_cons, tagNames?, if_neg hslash,
    htake, hdrop, String.ofList_toList]
  rfl

/-- Nothing but a start tag begins an element, and no tag is left open. -/
theorem Markup.IsPlain.tagNames {m : Markup} (h : m.IsPlain) :
    unfinished none m.write.toList = none ∧ ∀ tag ∈ tagNames m.write, ∃ attrs,
      m = .startTag tag.1 attrs ∧
        tag.2 = attributeNames (String.join (attrs.map Attribute.write)).toList := by
  have hnone : ∀ {html : String}, tagTexts none html.toList = [] → Html.tagNames html = [] := by
    intro html htexts
    rw [Html.tagNames, htexts]
    rfl
  cases m with
  | text s =>
    have hfree : ∀ c ∈ (Markup.text s).write.toList, c ≠ '<' := by
      rintro c hc rfl
      exact absurd (not_special_of_mem_escape hc) (by decide)
    obtain ⟨htexts, hclosed⟩ := tagTexts_of_no_tag hfree
    rw [hnone htexts]
    exact ⟨hclosed, List.forall_mem_nil _⟩
  | raw s =>
    have hfree : ∀ c ∈ (Markup.raw s).write.toList, c ≠ '<' := h
    obtain ⟨htexts, hclosed⟩ := tagTexts_of_no_tag hfree
    rw [hnone htexts]
    exact ⟨hclosed, List.forall_mem_nil _⟩
  | endTag name =>
    have hno : HasNoElements (Markup.endTag name).write := hasNoElements_endTag h
    refine ⟨hno.closed, fun tag htag => ?_⟩
    -- What begins no element has no names either.
    have hstart := List.filterMap_eq_nil_iff.mp hno.elements
    obtain ⟨inner, hinner, hread⟩ := List.mem_filterMap.mp htag
    have hslash := hstart inner hinner
    unfold startTag? at hslash
    unfold tagNames? at hread
    split at hslash
    · next hhead =>
      rw [if_pos hhead] at hread
      cases hread
    · cases hslash
  | startTag name attrs =>
    refine ⟨(tagTexts_startTag h attrs).2, fun tag htag => ?_⟩
    rw [tagNames_startTag h, List.mem_singleton] at htag
    subst htag
    exact ⟨attrs, rfl, rfl⟩

/-- Names that are distinct are distinct on the page. -/
theorem nodup_map_escape {names : List String} (h : names.Nodup) : (names.map escape).Nodup :=
  h.map escape_injective

end Html

/-! ### Where attributes come from -/

/-- The names of the attributes that elements have beside those of tokens. -/
def fixedNames : List (List String) :=
  [[], ["class"], ["type", "disabled"], ["type", "checked", "disabled"], ["class", "id"],
    ["class", "data-term", "aria-describedby"]]

/-- The attributes of a start tag are those of the token, or fixed ones. -/
inductive Token.Writes (t : Token) : List Attribute → Prop
  | own : t.Writes (Html.attributes t.attrs)
  | fixed {attrs : List Attribute} (names : attrs.map Attribute.name ∈ fixedNames) : t.Writes attrs

/-- The images of a run, or of the part behind the first `skip` tokens, that stand in no other
image. -/
def outerImages : (skip : Nat) → List Token → List Token
  | _, [] => []
  | skip + 1, _ :: ts => outerImages skip ts
  | 0, t :: ts =>
    if t.kind = .image ∧ t.nesting = .opening then
      t :: outerImages (Renderer.imageLength t ts + 1) ts
    else outerImages 0 ts

/-- The token is rendered with its children, and an image among them that stands in no other has an
attribute `alt`. -/
structure Token.BringsAlt (t : Token) : Prop where
  kind : t.kind = .inline ∨ t.kind = definitionKind
  image : ∃ c ∈ outerImages 0 t.children, "alt" ∈ c.attrs.map Prod.fst

theorem mem_of_mem_outerImages {t : Token} {ts : List Token} : ∀ {skip : Nat},
    t ∈ outerImages skip ts → t ∈ ts := by
  induction ts with
  | nil =>
    intro skip h
    simp [outerImages] at h
  | cons u ts ih =>
    intro skip h
    cases skip with
    | succ skip => exact List.mem_cons_of_mem u (ih h)
    | zero =>
      rw [outerImages] at h
      split at h
      · rcases List.mem_cons.mp h with rfl | h
        · exact List.mem_cons_self
        · exact List.mem_cons_of_mem u (ih h)
      · exact List.mem_cons_of_mem u (ih h)

namespace Renderer

variable {r : Renderer} {name : String} {attrs : List Attribute}

/-- Inline markup comes from a token that begins no image, or it is an image in no other one. -/
theorem mem_inlinesFrom_cases {m : Markup} {ts : List Token} : ∀ {skip : Nat},
    m ∈ r.inlinesFrom skip ts →
      (∃ t ∈ ts, ¬(t.kind = .image ∧ t.nesting = .opening) ∧ m ∈ r.inlinePiece t) ∨
        ∃ t ∈ outerImages skip ts, ∃ alt, m ∈ imageMarkup t alt := by
  induction ts with
  | nil =>
    intro skip h
    rw [inlinesFrom_nil] at h
    exact absurd h List.not_mem_nil
  | cons t ts ih =>
    intro skip h
    have htail : (∃ u ∈ ts, ¬(u.kind = .image ∧ u.nesting = .opening) ∧ m ∈ r.inlinePiece u) →
        ∃ u ∈ t :: ts, ¬(u.kind = .image ∧ u.nesting = .opening) ∧ m ∈ r.inlinePiece u :=
      fun ⟨u, hu, hm⟩ => ⟨u, List.mem_cons_of_mem t hu, hm⟩
    cases skip with
    | succ skip =>
      rw [inlinesFrom_succ] at h
      exact (ih h).imp_left htail
    | zero =>
      rw [outerImages]
      by_cases hi : t.kind = .image ∧ t.nesting = .opening
      · rw [inlinesFrom_image r hi.1 hi.2] at h
        rw [if_pos hi]
        rcases List.mem_append.mp h with h | h
        · exact .inr ⟨t, List.mem_cons_self, _, h⟩
        · exact (ih h).imp htail fun ⟨u, hu, hm⟩ => ⟨u, List.mem_cons_of_mem t hu, hm⟩
      · rw [inlinesFrom_cons r fun hk hn => hi ⟨hk, hn⟩] at h
        rw [if_neg hi]
        rcases List.mem_append.mp h with h | h
        · exact .inl ⟨t, List.mem_cons_self, hi, h⟩
        · exact (ih h).imp_left htail

/-- Every image that stands in no other one is rendered. -/
theorem exists_imageMarkup_subset {t : Token} {ts : List Token} : ∀ {skip : Nat},
    t ∈ outerImages skip ts → ∃ alt, ∀ m ∈ imageMarkup t alt, m ∈ r.inlinesFrom skip ts := by
  induction ts with
  | nil =>
    intro skip h
    simp [outerImages] at h
  | cons u ts ih =>
    intro skip h
    cases skip with
    | succ skip =>
      rw [inlinesFrom_succ]
      exact ih h
    | zero =>
      rw [outerImages] at h
      by_cases hi : u.kind = .image ∧ u.nesting = .opening
      · rw [if_pos hi] at h
        rw [inlinesFrom_image r hi.1 hi.2]
        rcases List.mem_cons.mp h with rfl | h
        · exact ⟨_, fun m hm => List.mem_append_left _ hm⟩
        · obtain ⟨alt, halt⟩ := ih h
          exact ⟨alt, fun m hm => List.mem_append_right _ (halt m hm)⟩
      · rw [if_neg hi] at h
        rw [inlinesFrom_cons r fun hk hn => hi ⟨hk, hn⟩]
        obtain ⟨alt, halt⟩ := ih h
        exact ⟨alt, fun m hm => List.mem_append_right _ (halt m hm)⟩

theorem writes_of_mem_tagMarkup {name' : String} {t : Token}
    (h : .startTag name attrs ∈ tagMarkup name' t) : t.Writes attrs := by
  obtain ⟨-, -, rfl⟩ := startTag_mem_tagMarkup h
  exact .own

theorem writes_of_mem_inlineMarkup (hhtml : r.allowHtml = false) {t : Token}
    (himage : t.kind = .image → t.nesting = .closing)
    (h : .startTag name attrs ∈ r.inlineMarkup t) : t.Writes attrs := by
  have hbreak : .startTag name attrs ∈ breakMarkup → t.Writes attrs := by
    intro hm
    simp only [breakMarkup, List.mem_cons, List.not_mem_nil, or_false, reduceCtorEq] at hm
    obtain ⟨-, rfl⟩ := Markup.startTag.inj hm
    exact .fixed (by decide)
  unfold inlineMarkup at h
  cases hk : t.kind with
  | link | emphasis | strong | strikethrough | superscript | subscript =>
    rw [hk] at h
    exact writes_of_mem_tagMarkup h
  | image =>
    rw [hk] at h
    simp [Token.isClosing, himage hk] at h
  | codeInline =>
    simp only [hk, List.mem_cons, List.not_mem_nil, or_false, reduceCtorEq] at h
    obtain ⟨-, rfl⟩ := Markup.startTag.inj h
    exact .own
  | htmlInline => simp [hk, rawMarkup, hhtml] at h
  | softBreak =>
    rw [hk] at h
    dsimp only at h
    split at h
    · exact hbreak h
    · simp at h
  | hardBreak =>
    rw [hk] at h
    exact hbreak h
  | taskMarker checked =>
    simp only [hk, taskMarkup, List.mem_cons, List.not_mem_nil, or_false, reduceCtorEq] at h
    obtain ⟨-, rfl⟩ := Markup.startTag.inj h
    exact .fixed (by cases checked <;> decide)
  | _ => simp [hk] at h

/-- The attributes of a rendered inline token that begins no image. -/
theorem writes_of_mem_inlinePiece (hr : r.IsBuiltin) {t : Token} (ht : t.IsInlinePart)
    (himage : ¬(t.kind = .image ∧ t.nesting = .opening))
    (h : .startTag name attrs ∈ r.inlinePiece t) : t.Writes attrs := by
  unfold inlinePiece at h
  split at h
  · next hk =>
    obtain ⟨hkind, -⟩ := ht.of_custom hk
    obtain rfl := Kind.custom.inj (hk.symm.trans hkind)
    rw [customMarkup_eq, ht.children] at h
    rcases HasBuiltinRules.lookup_cases hr.rules "term" with hnone | ⟨hfalse, -⟩ | ⟨-, href⟩
    · rw [hnone] at h
      simp at h
    · exact absurd hfalse (by decide)
    · rw [href] at h
      simp only [renderReference] at h
      split at h
      · obtain ⟨-, rfl⟩ := Markup.startTag.inj (List.mem_singleton.mp h)
        exact .fixed (by decide : ["class", "data-term", "aria-describedby"] ∈ fixedNames)
      · simp at h
      · simp at h
  · refine writes_of_mem_inlineMarkup hr.html (fun hk => ?_) h
    -- An image that does not begin ends, for it does not stand alone.
    cases hn : t.nesting with
    | opening => exact absurd ⟨hk, hn⟩ himage
    | closing => rfl
    | single =>
      have hleaf := ht.leaf hn
      rw [hk] at hleaf
      cases hleaf

/-- The start tags among the inline tokens of a run. -/
theorem writes_of_mem_inlinesFrom (hr : r.IsBuiltin) {ts : List Token}
    (hts : ∀ t ∈ ts, t.IsInlinePart) (h : .startTag name attrs ∈ r.inlinesFrom 0 ts) :
    (∃ t ∈ ts, t.Writes attrs) ∨ name = "img" ∧ ∃ t ∈ outerImages 0 ts, ∃ alt,
      attrs = Html.attributes (imageAttributes t alt) := by
  rcases mem_inlinesFrom_cases h with ⟨t, ht, himage, hpiece⟩ | ⟨t, ht, alt, hmarkup⟩
  · exact .inl ⟨t, ht, writes_of_mem_inlinePiece hr (hts t ht) himage hpiece⟩
  · obtain ⟨rfl, rfl⟩ := Markup.startTag.inj (mem_imageMarkup.mp hmarkup)
    exact .inr ⟨rfl, t, ht, alt, rfl⟩

theorem writes_of_mem_codeMarkup {t : Token} (h : .startTag name attrs ∈ r.codeMarkup t) :
    t.Writes attrs := by
  have hfixed : ∀ value : String, t.Writes [⟨"class", some value⟩] := fun value =>
    .fixed (by decide : ["class"] ∈ fixedNames)
  have hnone : t.Writes [] := .fixed (by decide)
  unfold codeMarkup at h
  dsimp only at h
  simp only [List.cons_append, List.mem_cons, List.mem_append, List.not_mem_nil, or_false,
    reduceCtorEq] at h
  rcases h with h | h
  · obtain ⟨-, rfl⟩ := Markup.startTag.inj h
    exact .own
  · split at h
    all_goals
      simp only [List.mem_cons, List.not_mem_nil, or_false, reduceCtorEq] at h
      obtain ⟨-, rfl⟩ := Markup.startTag.inj h
    · exact hfixed _
    · exact hfixed _
    · exact hnone

theorem writes_of_mem_blockMarkup (hr : r.IsBuiltin) {t : Token} (ht : t.kind ≠ .image)
    (h : .startTag name attrs ∈ r.blockMarkup t) : t.Writes attrs := by
  unfold blockMarkup at h
  split at h
  · exact absurd h List.not_mem_nil
  split at h
  all_goals try exact writes_of_mem_tagMarkup h
  · dsimp only at h
    split at h
    · obtain ⟨-, rfl⟩ := Markup.startTag.inj (List.mem_singleton.mp h)
      exact .own
    · simp at h
  · exact writes_of_mem_codeMarkup h
  · simp [rawMarkup, hr.html] at h
  · obtain ⟨-, rfl⟩ := Markup.startTag.inj (List.mem_singleton.mp h)
    exact .own
  · exact writes_of_mem_inlineMarkup hr.html (fun hk => absurd hk ht) h

/-- **Where the attributes of a start tag come from.** -/
theorem writes_of_mem_blockPiece (hr : r.IsBuiltin) {t : Token} (ht : t.IsPagePart)
    (h : .startTag name attrs ∈ r.blockPiece t) :
    t.Writes attrs ∨ (∃ c ∈ t.children, c.Writes attrs) ∨
      name = "img" ∧ (t.kind = .inline ∨ t.kind = definitionKind) ∧
        ∃ c ∈ outerImages 0 t.children, ∃ alt, attrs = Html.attributes (imageAttributes c alt) := by
  have hcontent : (t.kind = .inline ∨ t.kind = definitionKind) →
      .startTag name attrs ∈ r.inlinesFrom 0 t.children → (∃ c ∈ t.children, c.Writes attrs) ∨
        name = "img" ∧ (t.kind = .inline ∨ t.kind = definitionKind) ∧
          ∃ c ∈ outerImages 0 t.children, ∃ alt,
            attrs = Html.attributes (imageAttributes c alt) := by
    intro hk hm
    exact (writes_of_mem_inlinesFrom hr ht.children.parts hm).imp_right fun himage =>
      ⟨himage.1, hk, himage.2⟩
  unfold blockPiece at h
  split at h
  · next hk => exact .inr (hcontent (.inl hk) h)
  · next hk =>
    have hkind := ht.of_custom hk
    obtain rfl := Kind.custom.inj (hk.symm.trans hkind)
    rw [customMarkup_eq] at h
    rcases HasBuiltinRules.lookup_cases hr.rules "term_definition" with
      hnone | ⟨-, hdef⟩ | ⟨hfalse, -⟩
    · rw [hnone] at h
      dsimp only at h
      split at h
      · simp at h
      · exact .inr (hcontent (.inr hkind) h)
    · rw [hdef] at h
      simp only [renderDefinition, List.cons_append, List.mem_cons, List.mem_append,
        List.not_mem_nil, or_false, reduceCtorEq] at h
      rcases h with h | h
      · obtain ⟨-, rfl⟩ := Markup.startTag.inj h
        exact .inl (.fixed (by decide : ["class", "id"] ∈ fixedNames))
      · exact .inr (hcontent (.inr hkind) h)
    · exact absurd hfalse (by decide)
  · refine .inl (writes_of_mem_blockMarkup hr (fun hk => ?_) h)
    by_cases hn : t.nesting = .single
    · rcases ht.leaf hn with hleaf | hleaf <;> rw [hk] at hleaf <;> cases hleaf
    · have hpair := (ht.pair hn).1
      rw [hk] at hpair
      cases hpair

/-- The image that brings an attribute `alt` is rendered with it. -/
theorem exists_startTag_of_bringsAlt (hr : r.IsBuiltin) {t : Token} (h : t.BringsAlt) :
    ∃ c ∈ t.children, "alt" ∈ c.attrs.map Prod.fst ∧ ∃ alt,
      .startTag "img" (Html.attributes (imageAttributes c alt)) ∈ r.blockPiece t := by
  obtain ⟨c, hc, halt⟩ := h.image
  have hmem := mem_of_mem_outerImages hc
  obtain ⟨alt, hsubset⟩ := exists_imageMarkup_subset (r := r) hc
  have hinlines := hsubset _ (mem_imageMarkup.mpr rfl)
  exact ⟨c, hmem, halt, alt, mem_blockPiece_of_mem_inlinesFrom hr.rules h.kind hinlines⟩

end Renderer

/-! ### Names on the page -/

/-- The tag of an image that has `alt` two times, and no other name more than once. -/
structure Html.RepeatsAlt (tag : String × List String) : Prop where
  image : tag.1 = "img"
  names : ∃ others, tag.2 = "src" :: "alt" :: others ∧ "alt" ∈ others ∧ ("src" :: others).Nodup

theorem Html.RepeatsAlt.not_nodup {tag : String × List String} (h : RepeatsAlt tag) :
    ¬tag.2.Nodup := by
  obtain ⟨others, hnames, halt, -⟩ := h.names
  rw [hnames, List.nodup_cons, List.nodup_cons]
  exact fun hnodup => hnodup.2.1 halt

namespace Token.TellsNames

variable {t : Token} (h : t.TellsNames)

include h

/-- The attributes of a token, and those that elements have by themselves, have distinct names. -/
theorem nodup_of_writes {attrs : List Attribute} (hw : t.Writes attrs) :
    (Html.attributeNames (String.join (attrs.map Attribute.write)).toList).Nodup := by
  have hnames : (∀ n ∈ attrs.map Attribute.name, IsAttributeName n) ∧
      (attrs.map Attribute.name).Nodup := by
    cases hw with
    | own =>
      have hown : (Html.attributes t.attrs).map Attribute.name = t.attrs.map Prod.fst := by
        rw [Html.attributes, List.map_map]
        rfl
      rw [hown]
      exact ⟨h.legible, h.distinct⟩
    | fixed names =>
      have hall : ∀ names ∈ fixedNames, (∀ n ∈ names, IsAttributeName n) ∧ names.Nodup := by
        decide
      exact hall _ names
  rw [Html.attributeNames_write (List.forall_mem_map.mp hnames.1)]
  have hescaped := Html.nodup_map_escape hnames.2
  rwa [List.map_map] at hescaped

/-- The names of the attributes of an image: an attribute `alt` of the token is one too many. -/
theorem names_image (alt : String) :
    let names := Html.attributeNames (String.join ((Html.attributes
      (imageAttributes t alt)).map Attribute.write)).toList
    if "alt" ∈ t.attrs.map Prod.fst then Html.RepeatsAlt ("img", names) else names.Nodup := by
  have hnames : (Html.attributes (imageAttributes t alt)).map Attribute.name
      = "src" :: "alt" :: (t.attrs.map Prod.fst).filter (· != "src") := by
    rw [Html.attributes, List.map_map, imageAttributes, List.map_cons, List.map_cons,
      List.filter_map]
    rfl
  have hlegible : ∀ n ∈ (Html.attributes (imageAttributes t alt)).map Attribute.name,
      IsAttributeName n := by
    rw [hnames]
    refine List.forall_mem_cons.mpr ⟨by decide, List.forall_mem_cons.mpr ⟨by decide, ?_⟩⟩
    exact fun n hn => h.legible n (List.mem_filter.mp hn).1
  -- The two names that the element has by itself have nothing to escape.
  have hsrc : Html.escape "src" = "src" := by decide
  have halt : Html.escape "alt" = "alt" := by decide
  have hread : Html.attributeNames (String.join ((Html.attributes
      (imageAttributes t alt)).map Attribute.write)).toList
        = "src" :: "alt" :: ((t.attrs.map Prod.fst).filter (· != "src")).map Html.escape := by
    have hmap := congrArg (List.map Html.escape) hnames
    rw [List.map_map, List.map_cons, List.map_cons, hsrc, halt] at hmap
    rw [Html.attributeNames_write (List.forall_mem_map.mp hlegible)]
    exact hmap
  have hmem : ∀ name, Html.escape name = name →
      (name ∈ ((t.attrs.map Prod.fst).filter (· != "src")).map Html.escape ↔
        name ∈ t.attrs.map Prod.fst ∧ name ≠ "src") := by
    intro name hname
    conv_lhs => rw [← hname]
    rw [List.mem_map_of_injective Html.escape_injective, List.mem_filter, bne_iff_ne]
  have hothers : (((t.attrs.map Prod.fst).filter (· != "src")).map Html.escape).Nodup :=
    Html.nodup_map_escape (h.distinct.filter _)
  have hnoSrc : "src" ∉ ((t.attrs.map Prod.fst).filter (· != "src")).map Html.escape :=
    fun hm => ((hmem "src" hsrc).mp hm).2 rfl
  dsimp only
  rw [hread]
  split
  · next hbrings =>
    exact ⟨rfl, _, rfl, (hmem "alt" halt).mpr ⟨hbrings, by decide⟩,
      List.nodup_cons.mpr ⟨hnoSrc, hothers⟩⟩
  · next hbrings =>
    have hnoAlt : "alt" ∉ ((t.attrs.map Prod.fst).filter (· != "src")).map Html.escape :=
      fun hm => hbrings ((hmem "alt" halt).mp hm).1
    refine List.nodup_cons.mpr ⟨fun hm => ?_, List.nodup_cons.mpr ⟨hnoAlt, hothers⟩⟩
    exact hnoSrc (List.mem_of_ne_of_mem (by decide) hm)

end Token.TellsNames

namespace Renderer

variable {r : Renderer} (hr : r.IsBuiltin) {ts : List Token} (hparts : ∀ t ∈ ts, t.IsPagePart)
  (hnames : ∀ t ∈ ts, t.TellsAllNames)

include hr

/-- The elements of a page with their names are those of the pieces of its tokens. -/
theorem mem_tagNames_render_iff {tag : String × List String} :
    tag ∈ Html.tagNames (r.render ts) ↔ ∃ t ∈ ts, ∃ attrs,
      .startTag tag.1 attrs ∈ r.blockPiece t ∧
        tag.2 = Html.attributeNames (String.join (attrs.map Attribute.write)).toList := by
  have hplain := allPlain_blocks hr ts
  have hpieces : Html.tagNames (r.render ts)
      = (r.blocks ts).flatMap fun m => Html.tagNames m.write := by
    rw [render, Html.tagNames, Html.tagTexts_writeAll fun m hm => (hplain m hm).tagNames.1,
      List.filterMap_flatMap]
    rfl
  rw [hpieces, List.mem_flatMap]
  constructor
  · rintro ⟨m, hm, htag⟩
    obtain ⟨attrs, heq, hread⟩ := (hplain m hm).tagNames.2 tag htag
    rw [blocks_eq_flatMap] at hm
    obtain ⟨t, ht, hpiece⟩ := List.mem_flatMap.mp hm
    exact ⟨t, ht, attrs, heq ▸ hpiece, hread⟩
  · rintro ⟨t, ht, attrs, hpiece, hread⟩
    have hm : .startTag tag.1 attrs ∈ r.blocks ts := by
      rw [blocks_eq_flatMap]
      exact List.mem_flatMap.mpr ⟨t, ht, hpiece⟩
    refine ⟨_, hm, ?_⟩
    rw [Html.tagNames_startTag (hplain _ hm), List.mem_singleton, ← hread]

include hparts hnames

/-- **A page repeats no name but `alt`, and that exactly if an image brings it.** -/
theorem repeatsAlt_of_mem_tagNames {tag : String × List String}
    (htag : tag ∈ Html.tagNames (r.render ts)) :
    tag.2.Nodup ∨ Html.RepeatsAlt tag ∧ ∃ t ∈ ts, t.BringsAlt := by
  obtain ⟨name, names⟩ := tag
  obtain ⟨t, ht, attrs, hpiece, rfl⟩ := (mem_tagNames_render_iff hr).mp htag
  rcases writes_of_mem_blockPiece hr (hparts t ht) hpiece with
    hown | ⟨c, hc, hwrites⟩ | ⟨rfl, hk, c, hc, alt, rfl⟩
  · exact .inl ((hnames t ht).nodup_of_writes hown)
  · exact .inl (((hnames t ht).children c hc).nodup_of_writes hwrites)
  · have himage := ((hnames t ht).children c (mem_of_mem_outerImages hc)).names_image alt
    dsimp only at himage
    split at himage
    · next halt => exact .inr ⟨himage, t, ht, hk, c, hc, halt⟩
    · exact .inl himage

theorem exists_not_nodup_iff : (∃ tag ∈ Html.tagNames (r.render ts), ¬tag.2.Nodup) ↔
    ∃ t ∈ ts, t.BringsAlt := by
  constructor
  · rintro ⟨tag, htag, hrepeats⟩
    exact ((repeatsAlt_of_mem_tagNames hr hparts hnames htag).resolve_left hrepeats).2
  · rintro ⟨t, ht, hbrings⟩
    obtain ⟨c, hc, halt, alt, hpiece⟩ := exists_startTag_of_bringsAlt hr hbrings
    have himage := ((hnames t ht).children c hc).names_image alt
    dsimp only at himage
    rw [if_pos halt] at himage
    exact ⟨_, (mem_tagNames_render_iff hr).mpr ⟨t, ht, _, hpiece, rfl⟩, himage.not_nodup⟩

end Renderer

/-! ### The document -/

/-- The page of a document repeats no name of an attribute but `alt`, and that exactly if an image
brings it. -/
structure Options.RepeatsOnlyAlt (o : Options) (events : List Event) (page : Rendered) : Prop where
  /-- The names in a start tag are distinct, or it is that of an image with two `alt`. -/
  names : ∀ tag ∈ Html.tagNames page.html, tag.2.Nodup ∨ Html.RepeatsAlt tag
  /-- There is such a tag exactly if a block attaches `alt` to an image that is shown. -/
  repeats : (∃ tag ∈ Html.tagNames page.html, ¬tag.2.Nodup) ↔
    ∃ t ∈ (o.pipeline.parseEvents events).1, t.BringsAlt

namespace Pipeline

/-- **An image with an attribute `alt` repeats this name, and all other names are distinct.** -/
theorem repeatsOnlyAlt_renderEvents (o : Options) (hhtml : o.allowHtml = false)
    (hhighlighter : o.highlighter = none) (hsanitize : o.sanitize = none) (ho : o.UsesBuiltins) :
    (∀ events, ProperlyNested events → ∃ page,
        (o.pipeline.renderEvents events).1 = .ok page ∧ o.RepeatsOnlyAlt events page) ∧
      ∀ input, ∃ page, (o.pipeline.render input).1 = .ok page ∧
        o.RepeatsOnlyAlt (Engine.readEvents input) page := by
  have hevents : ∀ events, ProperlyNested events → ∃ page,
      (o.pipeline.renderEvents events).1 = .ok page ∧ o.RepeatsOnlyAlt events page := by
    intro events h
    obtain ⟨hpage, -, hdeferred⟩ := pipeline_parseEvents_spec ho h
    obtain ⟨hcompiled, -⟩ := Options.renderEvents_eq_pageOf ho hpage hdeferred
    have hunsanitized : o.unsanitized = o := by
      rw [Options.unsanitized, ← hsanitize]
    rw [hunsanitized] at hcompiled
    have hkept := (Options.keepsTokens ho h).sublist
    have hnames : ∀ t ∈ (o.pipeline.parseEvents events).1, t.TellsAllNames := fun t ht =>
      Options.tellsAllNames_parsed ho.plugins events t (hkept.subset ht)
    have hr := Options.isBuiltin_rendererIn ho hhtml hhighlighter {}
    -- The definitions are rendered last, and that is no matter of names.
    have hhtml := o.html_pageOf (o.pipeline.parseEvents events).1
      (o.pipeline.parseEvents events).2.env
    have hparts := fun t ht => hpage.parts t ((Options.mem_rendered (o := o)).mp ht)
    have hnames := fun t ht => hnames t ((Options.mem_rendered (o := o)).mp ht)
    refine ⟨_, hcompiled, fun tag htag => ?_, ?_⟩
    · rw [hhtml] at htag
      exact (Renderer.repeatsAlt_of_mem_tagNames hr hparts hnames htag).imp_right And.left
    · rw [hhtml, Renderer.exists_not_nodup_iff hr hparts hnames]
      exact exists_congr fun t => and_congr_left fun _ => Options.mem_rendered
  exact ⟨hevents, fun input => hevents _ (Markdown.shaped_blockEvents _).properlyNested⟩

/-- An image with an attribute block, and what its tag says. -/
theorem repeatsOnlyAlt_render_image : ∃ page,
    (({} : Options).pipeline.render "![a](x.png)\x7b.b id=c alt=y\x7d").1 = .ok page ∧
    ({} : Options).RepeatsOnlyAlt
      (Engine.readEvents "![a](x.png)\x7b.b id=c alt=y\x7d") page :=
  (repeatsOnlyAlt_renderEvents {} rfl rfl rfl ⟨fun _ h => h, fun _ => rfl⟩).2 _

/-- An image that has `alt` two times. -/
theorem not_nodup_render : ∃ page,
    (({} : Options).pipeline.render "![a](x.png)\x7balt=y\x7d").1 = .ok page ∧
    page.html = "<p><img src=\"x.png\" alt=\"a\" alt=\"y\"></p>" ∧
    ("img", ["src", "alt", "alt"]) ∈ Html.tagNames page.html ∧
    ¬∀ tag ∈ Html.tagNames page.html, tag.2.Nodup := by
  have hparts : (({} : Options).pipeline.render "![a](x.png)\x7balt=y\x7d").1.toOption.map
      Rendered.html = some "<p><img src=\"x.png\" alt=\"a\" alt=\"y\"></p>" := by
    decide +kernel
  cases hrender : (({} : Options).pipeline.render "![a](x.png)\x7balt=y\x7d").1 with
  | error e =>
    rw [hrender] at hparts
    cases hparts
  | ok page =>
    rw [hrender] at hparts
    have hhtml : page.html = "<p><img src=\"x.png\" alt=\"a\" alt=\"y\"></p>" :=
      Option.some.inj hparts
    have htag : ("img", ["src", "alt", "alt"]) ∈ Html.tagNames page.html := by
      rw [hhtml]
      decide +kernel
    exact ⟨page, rfl, hhtml, htag, fun h => absurd (h _ htag) (by decide)⟩

end Pipeline

end Folio
