import Folio.Proofs.TableOfContents

/-!
# The elements of a page

A page is read as text: every tag that does not begin with a slash begins an element, and what
stands behind its name are the attributes of the element.  Which elements stand on a page can be
told from its tokens, as long as raw HTML is escaped.

## Main definitions

* `StartTag` — the beginning of an element: a name and attributes.
* `startTags` — the elements of a page, as their start tags say them.
* `ids`, `headingIds`, `otherIds` — the ids of all elements, of headings and of all others.
* `WritesNo` — a highlighter writes no element of a name.

## Main results

* `attr?_written` — **the attributes of a start tag are read as they were written.**
* `headingIds_eq` — the ids of headings are those that their tags say.
* `Options.exists_of_mem_startTags_pageOf` — **every element of a page comes from a token.**
-/

namespace Folio

namespace Html

/-! ### Reading elements -/

/-- The beginning of an element. -/
structure StartTag where
  /-- The name. -/
  name : String
  /-- The attributes that have values.  Their names are left as they stand. -/
  attrs : List (String × String)
  deriving DecidableEq, Repr

/-- The value of an attribute. -/
def StartTag.attr? (t : StartTag) (name : String) : Option String := t.attrs.lookup name

/-- The attributes in what stands behind the name of a tag. -/
def readAttributes (cs : List Char) : List (String × String) :=
  (attributesFrom (.name []) cs).map fun p => (String.ofList p.1, String.ofList (unescapeChars p.2))

/-- The element that the text of a tag begins. -/
def startTag? (inner : List Char) : Option StartTag :=
  if inner.head? = some '/' then none
  else some ⟨String.ofList (inner.takeWhile (· != ' ')),
    readAttributes (inner.dropWhile (· != ' '))⟩

/-- The elements of a page, as their start tags say them. -/
def startTags (html : String) : List StartTag :=
  (tagTexts none html.toList).filterMap startTag?

/-- The ids of the elements of a page. -/
def ids (html : String) : List String := (startTags html).filterMap (·.attr? "id")

/-- The tag begins a heading. -/
def StartTag.isHeading (t : StartTag) : Bool := (headingNumber? t.name.toList).isSome

/-- The ids of the headings of a page. -/
def headingIds (html : String) : List String :=
  ((startTags html).filter (·.isHeading)).filterMap (·.attr? "id")

/-- The ids of the elements of a page that are no headings. -/
def otherIds (html : String) : List String :=
  ((startTags html).filter (!·.isHeading)).filterMap (·.attr? "id")

/-- An id stands on a heading or on another element. -/
theorem count_ids (html id : String) :
    (ids html).count id = (headingIds html).count id + (otherIds html).count id := by
  unfold ids headingIds otherIds
  induction startTags html with
  | nil => rfl
  | cons t ts ih =>
    cases ht : t.isHeading <;> cases hid : t.attr? "id" <;>
      simp only [ht, hid, List.filter_cons, List.filterMap_cons, Bool.not_true, Bool.not_false,
        if_true, Bool.false_eq_true, if_false, List.count_cons, ih]
    all_goals omega

/-- The ids of headings are those that their tags say. -/
theorem headingIds_eq (html : String) :
    headingIds html = (headingTags html).filterMap Prod.snd := by
  have hid : ∀ cs, idFrom cs = (readAttributes cs).lookup "id" := by
    intro cs
    unfold idFrom readAttributes
    induction attributesFrom (.name []) cs with
    | nil => rfl
    | cons p ps ih =>
      have hname : (['i', 'd'] == p.1) = ("id" == String.ofList p.1) := by
        have hlist : "id" = String.ofList p.1 ↔ ['i', 'd'] = p.1 := String.ofList_inj
        rw [Bool.eq_iff_iff, beq_iff_eq, beq_iff_eq, hlist]
      rw [List.lookup_cons, List.map_cons, List.lookup_cons, hname]
      cases "id" == String.ofList p.1 with
      | true => rfl
      | false => exact ih
  have htag : ∀ inner, headingTag? inner
      = (startTag? inner).bind fun t =>
          if t.isHeading then (headingNumber? t.name.toList).map fun n => (n, t.attr? "id")
          else none := by
    intro inner
    unfold headingTag? startTag?
    split
    · next hslash =>
      obtain ⟨rest, rfl⟩ : ∃ rest, inner = '/' :: rest := by
        cases inner with
        | nil => cases hslash
        | cons c cs => exact ⟨cs, by rw [Option.some.inj hslash]⟩
      rfl
    · rw [Option.bind_some, StartTag.isHeading, StartTag.attr?, hid, String.toList_ofList]
      cases headingNumber? (inner.takeWhile (· != ' ')) <;> rfl
  unfold headingIds headingTags startTags
  induction tagTexts none html.toList with
  | nil => rfl
  | cons inner inners ih =>
    have hinner := htag inner
    cases hstart : startTag? inner with
    | none =>
      rw [hstart, Option.bind_none] at hinner
      rw [List.filterMap_cons_none hstart, List.filterMap_cons_none hinner, ih]
    | some t =>
      rw [hstart, Option.bind_some] at hinner
      rw [List.filterMap_cons_some hstart, List.filter_cons]
      cases hn : headingNumber? t.name.toList with
      | none =>
        have ht : t.isHeading = false := by rw [StartTag.isHeading, hn]; rfl
        rw [ht, if_neg Bool.false_ne_true] at hinner
        rw [ht, if_neg Bool.false_ne_true, List.filterMap_cons_none hinner, ih]
      | some n =>
        have ht : t.isHeading = true := by rw [StartTag.isHeading, hn]; rfl
        rw [ht, if_pos rfl, hn, Option.map_some] at hinner
        rw [ht, if_pos rfl, List.filterMap_cons_some hinner, List.filterMap_cons,
          List.filterMap_cons, ih]

/-! ### Written elements -/

/-- What is read of a start tag that has been written. -/
def written (name : String) (attrs : List Attribute) : StartTag :=
  ⟨name, readAttributes (String.join (attrs.map Attribute.write)).toList⟩

@[simp] theorem name_written (name : String) (attrs : List Attribute) :
    (written name attrs).name = name := rfl

/-- The name and the attributes in the text of a start tag are told apart. -/
theorem tagParts_startTag {name : String} (h : IsTagName name) (attrs : List Attribute) :
    let rest := (String.join (attrs.map Attribute.write)).toList
    (name.toList ++ rest).head? ≠ some '/' ∧
      (name.toList ++ rest).takeWhile (· != ' ') = name.toList ∧
      (name.toList ++ rest).dropWhile (· != ' ') = rest := by
  obtain ⟨cs, hcs, hblank, -⟩ := attributes_write attrs
  have htake := takeWhile_tagName h hblank
  have hsplit := List.takeWhile_append_dropWhile (p := (· != ' ')) (l := name.toList ++ cs)
  rw [htake] at hsplit
  dsimp only
  rw [hcs]
  refine ⟨?_, htake, List.append_cancel_left hsplit⟩
  cases hn : name.toList with
  | nil => rcases hblank with rfl | ⟨ds, rfl⟩ <;> simp
  | cons c ns => simpa using h.ne (hn ▸ List.mem_cons_self) (by decide)

theorem startTags_startTag {name : String} (h : IsTagName name) (attrs : List Attribute) :
    startTags (Markup.startTag name attrs).write = [written name attrs] := by
  obtain ⟨hslash, htake, hdrop⟩ := tagParts_startTag h attrs
  rw [startTags, (tagTexts_startTag h attrs).1, List.filterMap_cons, startTag?, if_neg hslash,
    htake, hdrop, String.ofList_toList]
  rfl

/-- **The attributes of a start tag are read as they were written.** -/
theorem attr?_written (name : String) {pairs : List (String × String)}
    (h : ∀ p ∈ pairs, IsAttributeName p.1) {attr : String}
    (hattr : escapeChars attr.toList = attr.toList) :
    (written name (attributes pairs)).attr? attr = pairs.lookup attr := by
  rw [StartTag.attr?, written, readAttributes, attributesFrom_write h, List.map_map]
  clear h
  induction pairs with
  | nil => rfl
  | cons p pairs ih =>
    have hcode : (attr == String.ofList (escapeChars p.1.toList)) = (attr == p.1) := by
      rw [Bool.eq_iff_iff, beq_iff_eq, beq_iff_eq]
      constructor
      · intro heq
        -- Names with the same code are the same.
        have hchars : escapeChars attr.toList = escapeChars p.1.toList := by
          rw [hattr, heq, String.toList_ofList]
        exact String.toList_inj.mp (escapeChars_injective hchars)
      · rintro rfl
        rw [hattr, String.ofList_toList]
    rw [List.map_cons, Function.comp_apply, List.lookup_cons, List.lookup_cons, hcode]
    cases attr == p.1 with
    | true => simp [unescapeChars_escapeChars]
    | false => exact ih

/-- No element begins in the text, and all tags that begin in it end in it. -/
structure HasNoElements (html : String) : Prop where
  closed : unfinished none html.toList = none
  elements : startTags html = []

theorem hasNoElements_of_no_tag {html : String} (h : ∀ c ∈ html.toList, c ≠ '<') :
    HasNoElements html := by
  obtain ⟨htags, hclosed⟩ := tagTexts_of_no_tag h
  refine ⟨hclosed, ?_⟩
  rw [startTags, htags]
  rfl

theorem hasNoElements_text (s : String) : HasNoElements (Markup.text s).write := by
  refine hasNoElements_of_no_tag fun c hc => ?_
  rintro rfl
  exact absurd (not_special_of_mem_escape hc) (by decide)

theorem hasNoElements_endTag {name : String} (h : IsTagName name) :
    HasNoElements (Markup.endTag name).write := by
  have hwrite : (Markup.endTag name).write.toList = '<' :: ('/' :: name.toList) ++ ['>'] := by
    simp [Markup.write]
  have hne : ∀ c ∈ '/' :: name.toList, c ≠ '>' :=
    List.forall_mem_cons.mpr ⟨by decide, fun c hc => h.ne hc (by decide)⟩
  have htag := tagTexts_tag hne
  rw [← hwrite] at htag
  refine ⟨htag.2, ?_⟩
  rw [startTags, htag.1]
  rfl

/-- **The elements of a page are those of its pieces.** -/
theorem startTags_writeAll {page : List Markup}
    (h : ∀ m ∈ page, unfinished none m.write.toList = none) :
    startTags (writeAll page) = page.flatMap fun m => startTags m.write := by
  rw [startTags, tagTexts_writeAll h, List.filterMap_flatMap]
  rfl

/-- No element of the name begins in the text, and all tags that begin in it end in it. -/
structure LacksElement (name html : String) : Prop where
  closed : unfinished none html.toList = none
  lacks : ∀ tag ∈ startTags html, tag.name ≠ name

end Html

open Html (Markup StartTag LacksElement startTags written unfinished)

/-- What a highlighter writes begins no element of the name. -/
def WritesNo (name : String) (highlighter : Option Highlighter) : Prop :=
  ∀ h ∈ highlighter, ∀ code lang html, h code lang = some html → LacksElement name html

/-! ### The elements of a page -/

/-- The elements of the name in a piece are the piece itself. -/
structure Html.Markup.BeginsOnly (name : String) (m : Markup) : Prop where
  closed : unfinished none m.write.toList = none
  begins : ∀ tag ∈ startTags m.write, tag.name = name →
    ∃ attrs, m = .startTag name attrs ∧ tag = written name attrs

theorem beginsOnly_startTag {n : String} (h : Html.IsTagName n) (name : String)
    (attrs : List Html.Attribute) : (Markup.startTag n attrs).BeginsOnly name := by
  refine ⟨(Html.tagTexts_startTag h attrs).2, fun tag htag hname => ?_⟩
  rw [Html.startTags_startTag h, List.mem_singleton] at htag
  subst htag
  obtain rfl : n = name := hname
  exact ⟨attrs, rfl, rfl⟩

theorem Html.HasNoElements.beginsOnly {m : Markup} (h : Html.HasNoElements m.write)
    (name : String) : m.BeginsOnly name :=
  ⟨h.closed, fun _ htag => absurd htag (h.elements ▸ List.not_mem_nil)⟩

theorem holdsOfPieces_beginsOnly (name : String) : HoldsOfPieces (Markup.BeginsOnly name) := by
  have hraw : ∀ s : String, s.toList.all (· != '<') = true → (Markup.raw s).BeginsOnly name :=
    fun s h => (Html.hasNoElements_of_no_tag fun c hc => by
      simpa using List.all_eq_true.mp h c hc).beginsOnly name
  exact ⟨fun s => (Html.hasNoElements_text s).beginsOnly name, hraw _ rfl, hraw _ rfl,
    fun _ h attrs => beginsOnly_startTag (isTagName_of_mem_elementNames h) name attrs,
    fun _ h => (Html.hasNoElements_endTag (isTagName_of_mem_elementNames h)).beginsOnly name⟩

namespace Renderer

variable {r : Renderer} {name : String}

section Elements

variable (hhtml : r.allowHtml = false) (hr : r.HasBuiltinRules)
  (hhighlighter : WritesNo name r.highlighter)

include hhtml hr hhighlighter

theorem beginsOnly_blockPiece (t : Token) : ∀ m ∈ r.blockPiece t, m.BeginsOnly name := by
  cases hk : t.kind.isHeading with
  | false =>
    refine forall_blockPiece (holdsOfPieces_beginsOnly name) hhtml hr ?_ hk
    intro h hh code lang html hwrites
    have hlacks := hhighlighter h hh code lang html hwrites
    exact ⟨hlacks.closed, fun tag htag hname => absurd hname (hlacks.lacks tag htag)⟩
  | true =>
    obtain ⟨n, hn⟩ := Kind.exists_of_isHeading hk
    rw [blockPiece_heading r hn]
    split
    · exact List.forall_mem_nil _
    split
    · exact List.forall_mem_singleton.mpr (beginsOnly_startTag (Html.isTagName_heading n) _ _)
    · exact List.forall_mem_singleton.mpr
        ((Html.hasNoElements_endTag (Html.isTagName_heading n)).beginsOnly name)

/-- The elements of a page are those of the pieces of its tokens. -/
theorem mem_startTags_render_iff {ts : List Token} {tag : StartTag} :
    tag ∈ startTags (r.render ts) ↔ ∃ t ∈ ts, ∃ m ∈ r.blockPiece t, tag ∈ startTags m.write := by
  have hclosed : ∀ m ∈ ts.flatMap r.blockPiece, unfinished none m.write.toList = none := by
    intro m hm
    obtain ⟨t, -, hm⟩ := List.mem_flatMap.mp hm
    exact (beginsOnly_blockPiece hhtml hr hhighlighter t m hm).closed
  rw [render, blocks_eq_flatMap, Html.startTags_writeAll hclosed, List.flatMap_assoc]
  simp only [List.mem_flatMap]

/-- **The elements of a name on a page are those that its tokens begin.** -/
theorem exists_of_mem_startTags_render {ts : List Token} {tag : StartTag}
    (htag : tag ∈ startTags (r.render ts)) (hname : tag.name = name) :
    ∃ t ∈ ts, ∃ attrs, .startTag name attrs ∈ r.blockPiece t ∧ tag = written name attrs := by
  obtain ⟨t, ht, m, hm, htag⟩ := (mem_startTags_render_iff hhtml hr hhighlighter).mp htag
  obtain ⟨attrs, rfl, hwritten⟩ :=
    (beginsOnly_blockPiece hhtml hr hhighlighter t m hm).begins tag htag hname
  exact ⟨t, ht, attrs, hm, hwritten⟩

/-- A start tag of a token is an element of the page, whatever its name is. -/
theorem written_mem_startTags_render {ts : List Token} {t : Token} (ht : t ∈ ts) {n : String}
    (hn : Html.IsTagName n) {attrs : List Html.Attribute}
    (hm : .startTag n attrs ∈ r.blockPiece t) : written n attrs ∈ startTags (r.render ts) := by
  refine (mem_startTags_render_iff hhtml hr hhighlighter).mpr ⟨t, ht, _, hm, ?_⟩
  rw [Html.startTags_startTag hn]
  exact List.mem_singleton_self _

end Elements

end Renderer

/-! ### The elements of a document -/

namespace Options

variable {o : Options}

theorem html_pageOf (o : Options) (ts : List Token) (env : Environment) : (o.pageOf ts env).html
    = (o.engine.rendererIn {}).render ((ts.filter fun t => !isDeferredBy o.pipeline.stages t)
        ++ ts.filter (isDeferredBy o.pipeline.stages)) :=
  (Engine.render_append _ _ _ _).symm

/-- All tokens of a document are rendered somewhere on the page. -/
theorem mem_rendered {ts : List Token} {t : Token} :
    t ∈ (ts.filter fun t => !isDeferredBy o.pipeline.stages t)
      ++ ts.filter (isDeferredBy o.pipeline.stages) ↔ t ∈ ts := by
  rw [List.mem_append, List.mem_filter, List.mem_filter]
  cases isDeferredBy o.pipeline.stages t <;> simp

section Elements

variable (hhtml : o.allowHtml = false) (ho : o.UsesBuiltins) {name : String}
  (hhighlighter : WritesNo name o.highlighter) {ts : List Token} {env : Environment}

include hhtml ho hhighlighter

/-- **The elements of a name on the page of a document are those that its tokens begin.** -/
theorem exists_of_mem_startTags_pageOf {tag : StartTag}
    (htag : tag ∈ startTags (o.pageOf ts env).html) (hname : tag.name = name) :
    ∃ t ∈ ts, ∃ attrs, .startTag name attrs ∈ (o.engine.rendererIn {}).blockPiece t ∧
      tag = written name attrs := by
  rw [html_pageOf] at htag
  obtain ⟨t, ht, hpiece⟩ := Renderer.exists_of_mem_startTags_render
    ((o.allowHtml_rendererIn {}).trans hhtml) (hasBuiltinRules ho)
    ((o.highlighter_rendererIn {}).symm ▸ hhighlighter) htag hname
  exact ⟨t, mem_rendered.mp ht, hpiece⟩

/-- A start tag of a token is an element of the page of its document. -/
theorem written_mem_startTags_pageOf {t : Token} (ht : t ∈ ts) {n : String}
    (hn : Html.IsTagName n) {attrs : List Html.Attribute}
    (hm : .startTag n attrs ∈ (o.engine.rendererIn {}).blockPiece t) :
    written n attrs ∈ startTags (o.pageOf ts env).html := by
  rw [html_pageOf]
  exact Renderer.written_mem_startTags_render ((o.allowHtml_rendererIn {}).trans hhtml)
    (hasBuiltinRules ho) ((o.highlighter_rendererIn {}).symm ▸ hhighlighter) (mem_rendered.mpr ht)
    hn hm

end Elements

end Options

end Folio
