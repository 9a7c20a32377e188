import Folio.Proofs.DistinctNames
import Folio.Proofs.RunElements
import Folio.Proofs.TableOfContents

/-!
# The ids of elements that are no headings

An attribute block may give an id to any element.  Those of headings are known to the anchor plugin;
here it is said which others a page has.  A block, code in a run and an inline container are written
with the attributes of their token, an image too as long as it stands in no other one, and a
definition gets an id that is made of its key.  What a highlighter writes is not looked into.  No
other element has an id.

## Main definitions

* `Token.GivesId` — a token of a run is written with the id.
* `Renderer.GivesId` — a block is written with the id, and is no heading, or holds such a token.

## Main results

* `Renderer.mem_otherIds_inlines_iff` — **the ids in a run are those of its tokens.**
* `Renderer.mem_otherIds_render_iff` — **the ids of a page that stand on no heading are those that
  its tokens give.**
-/

namespace Folio

open Html (Markup otherIds startTags unfinished)
open Plugin.Terms (definitionKind renderDefinition)

/-! ### Ids in a piece -/

section Pieces

variable {id name : String}

theorem Html.mem_otherIds_iff {html : String} : id ∈ otherIds html ↔
    ∃ tag ∈ startTags html, tag.isHeading = false ∧ tag.attr? "id" = some id := by
  rw [otherIds]
  simp only [List.mem_filterMap, List.mem_filter, Bool.not_eq_true', and_assoc]

theorem isOfElements_mem_otherIds (id : String) : IsOfElements fun m => id ∈ otherIds m.write :=
  isOfElements_of_hasNoElements fun m h hid => by
    obtain ⟨tag, htag, -⟩ := Html.mem_otherIds_iff.mp hid
    exact absurd htag (h.elements ▸ List.not_mem_nil)

/-- The id of an element that is no heading is the one among its attributes. -/
theorem mem_otherIds_startTag_iff (hname : name ∈ elementNames) {pairs : List (String × String)}
    (hpairs : ∀ n ∈ pairs.map Prod.fst, Html.IsAttributeName n) :
    id ∈ otherIds (Markup.startTag name (Html.attributes pairs)).write ↔
      pairs.lookup "id" = some id := by
  have hheading : (Html.written name (Html.attributes pairs)).isHeading = false := by
    rw [Html.StartTag.isHeading, Html.name_written, headingNumber?_of_mem_elementNames hname]
    rfl
  have hid : (Html.written name (Html.attributes pairs)).attr? "id" = pairs.lookup "id" :=
    Html.attr?_written name (List.forall_mem_map.mp hpairs) (by decide)
  rw [Html.mem_otherIds_iff, Html.startTags_startTag (isTagName_of_mem_elementNames hname)]
  simp [hheading, hid]

theorem not_mem_otherIds_heading (n : Nat) (attrs : List Html.Attribute) :
    id ∉ otherIds (Markup.startTag ("h" ++ toString n) attrs).write := by
  have hheading : (Html.written ("h" ++ toString n) attrs).isHeading = true := by
    rw [Html.StartTag.isHeading, Html.name_written, Html.headingNumber?_heading]
    rfl
  rw [Html.mem_otherIds_iff, Html.startTags_startTag (Html.isTagName_heading n)]
  rintro ⟨tag, htag, hother, -⟩
  rw [List.mem_singleton.mp htag, hheading] at hother
  cases hother

/-- The ids of a page are those of its pieces. -/
theorem mem_otherIds_writeAll_iff {page : List Markup}
    (h : ∀ m ∈ page, unfinished none m.write.toList = none) :
    id ∈ otherIds (Html.writeAll page) ↔ ∃ m ∈ page, id ∈ otherIds m.write := by
  simp only [Html.mem_otherIds_iff, Html.startTags_writeAll h, List.mem_flatMap]
  constructor
  · rintro ⟨tag, ⟨m, hm, htag⟩, hid⟩
    exact ⟨m, hm, tag, htag, hid⟩
  · rintro ⟨m, hm, tag, htag, hid⟩
    exact ⟨tag, ⟨m, hm, htag⟩, hid⟩

end Pieces

/-! ### Ids in a run -/

/-- A token of a run is written with the id: it begins an element that has the attributes of the
token, and the id is one of them. -/
structure Token.GivesId (t : Token) (id : String) : Prop where
  kind : t.kind.isInlinePair = true ∨ t.kind = .codeInline
  begins : t.nesting ≠ .closing
  own : t.attr? "id" = some id

theorem Token.givesId_iff {t : Token} {id : String} : t.GivesId id ↔
    (t.kind.isInlinePair = true ∨ t.kind = .codeInline) ∧ t.nesting ≠ .closing ∧
      t.attr? "id" = some id :=
  ⟨fun ⟨hk, hn, hid⟩ => ⟨hk, hn, hid⟩, fun ⟨hk, hn, hid⟩ => ⟨hk, hn, hid⟩⟩

namespace Renderer

variable {r : Renderer} {t : Token} {ts : List Token} {id : String}

/-- No id is written in the element of a break, a check box or a reference. -/
theorem not_mem_otherIds_fixed (id : String) :
    id ∉ otherIds (Markup.startTag "br" []).write ∧
    (∀ checked : Bool, id ∉ otherIds (Markup.startTag "input" (⟨"type", some "checkbox"⟩ ::
      (if checked then [⟨"checked", none⟩] else []) ++ [⟨"disabled", none⟩])).write) ∧
    ∀ n ∈ inlineElementNames, ∀ key,
      id ∉ otherIds (Markup.startTag n (Html.attributes (referenceAttributes key))).write := by
  refine ⟨?_, fun checked => ?_, fun n hn key => ?_⟩
  · have hnone : otherIds (Markup.startTag "br" []).write = [] := by decide
    rw [hnone]
    exact List.not_mem_nil
  · have hnone : otherIds (Markup.startTag "input" (⟨"type", some "checkbox"⟩ ::
        (if checked then [⟨"checked", none⟩] else []) ++ [⟨"disabled", none⟩])).write = [] := by
      cases checked <;> decide +kernel
    rw [hnone]
    exact List.not_mem_nil
  · have hnames : ∀ n ∈ ["class", "data-term", "aria-describedby"], Html.IsAttributeName n := by
      decide
    have hlegible : ∀ n ∈ (referenceAttributes key).map Prod.fst, Html.IsAttributeName n := hnames
    rw [mem_otherIds_startTag_iff (inlineElementNames_subset hn) hlegible]
    simp [referenceAttributes, List.lookup_cons]

/-- **The id of one token of a run.** -/
theorem mem_otherIds_inlinePiece_iff (hhtml : r.allowHtml = false) (hr : r.HasBuiltinRules)
    (ht : t.IsInlinePart) (hnames : t.HasLegibleNames) (himage : t.kind ≠ .image) :
    (∃ m ∈ r.inlinePiece t, id ∈ otherIds m.write) ↔ t.GivesId id := by
  have hraw : ¬r.PassesRaw t := by
    rintro ⟨-, hallowed⟩
    rw [hhtml] at hallowed
    cases hallowed
  have hown : ∀ n ∈ inlineElementNames,
      (id ∈ otherIds (Markup.startTag n (Html.attributes t.attrs)).write ↔
        t.attr? "id" = some id) :=
    fun n hn => mem_otherIds_startTag_iff (inlineElementNames_subset hn) hnames
  obtain ⟨hbreak, hbox, hreference⟩ := not_mem_otherIds_fixed id
  rw [exists_mem_inlinePiece_iff (isOfElements_mem_otherIds id) hr ht himage,
    or_iff_left fun h => hraw h.1, Token.givesId_iff]
  by_cases hpair : t.kind.isInlinePair = true
  · obtain ⟨n, hname, -, -⟩ := inlinePiece_pair r hpair himage
    rw [inlineTag?_of_pair hpair hname]
    cases hn : t.nesting with
    | opening =>
      simp [Token.isOpening, hn, hpair, hown n (mem_inlineElementNames_of_inlineName? hname)]
    | closing => simp [Token.isOpening, hn]
    | single =>
      have hleaf := ht.leaf hn
      cases hk : t.kind <;> simp [hk, Kind.isInlinePair, Kind.isInlineLeaf] at hpair hleaf
  · cases hk : t.kind with
    | codeInline =>
      have hn := ht.single_of_code hk
      simp [inlineTag?, hk, hn, hown "code" (by decide)]
    | softBreak =>
      cases hbreaks : r.breaks <;> simp [inlineTag?, hk, hbreaks, hbreak, Kind.isInlinePair]
    | hardBreak => simp [inlineTag?, hk, hbreak, Kind.isInlinePair]
    | taskMarker checked => simpa [inlineTag?, hk, Kind.isInlinePair] using hbox checked
    | custom name =>
      have hnone : ∀ n, r.inlineName? (.custom name) = some n → id ∉ otherIds
          (Markup.startTag n (Html.attributes (referenceAttributes t.termKey))).write :=
        fun n hname => hreference n (mem_inlineElementNames_of_inlineName? hname) _
      simpa [inlineTag?, hk, Kind.isInlinePair] using fun n _ => hnone n
    | emphasis | strong | strikethrough | superscript | subscript | link | image =>
      simp [hk, Kind.isInlinePair] at hpair
    | _ => simp [inlineTag?, inlineName?, hk, Kind.isInlinePair]

/-- The id of an image is the one of its token: its address and its text come from elsewhere. -/
theorem lookup_imageAttributes (t : Token) (alt : String) :
    (imageAttributes t alt).lookup "id" = t.attr? "id" := by
  have hothers : ∀ attrs : Attributes,
      (attrs.filter fun p => p.1 != "src").lookup "id" = attrs.lookup "id" := by
    intro attrs
    induction attrs with
    | nil => rfl
    | cons p attrs ih =>
      obtain ⟨name, value⟩ := p
      by_cases hsrc : name = "src"
      · subst hsrc
        simpa [List.lookup_cons] using ih
      · rw [List.filter_cons_of_pos (by simpa using hsrc), List.lookup_cons, List.lookup_cons, ih]
  rw [Token.attr?, Attributes.get?, ← hothers t.attrs]
  rfl

theorem mem_otherIds_imageMarkup_iff (hnames : t.HasLegibleNames) (alt : String) :
    ∀ m ∈ imageMarkup t alt, (id ∈ otherIds m.write ↔ t.attr? "id" = some id) := by
  intro m hm
  have hlegible : ∀ n ∈ (imageAttributes t alt).map Prod.fst, Html.IsAttributeName n := by
    have hfixed : ∀ n ∈ ["src", "alt"], Html.IsAttributeName n := by decide
    rw [List.forall_mem_cons, List.forall_mem_singleton] at hfixed
    refine List.forall_mem_cons.mpr ⟨hfixed.1, List.forall_mem_cons.mpr ⟨hfixed.2, ?_⟩⟩
    intro n hn
    obtain ⟨p, hp, rfl⟩ := List.mem_map.mp hn
    exact hnames p.1 (List.mem_map_of_mem (List.mem_filter.mp hp).1)
  rw [mem_imageMarkup.mp hm, mem_otherIds_startTag_iff (by decide) hlegible,
    lookup_imageAttributes]

/-- An image that stands in no other one begins there. -/
theorem of_mem_outerImages : ∀ {skip : Nat}, t ∈ outerImages skip ts →
    t.kind = .image ∧ t.nesting = .opening := by
  induction ts with
  | nil =>
    intro skip h
    simp [outerImages] at h
  | cons u ts ih =>
    intro skip h
    cases skip with
    | succ skip => exact ih h
    | zero =>
      rw [outerImages] at h
      split at h
      · next himage =>
        rcases List.mem_cons.mp h with rfl | h
        · exact himage
        · exact ih h
      · exact ih h

/-- **The ids in a run are those of its tokens**, those in images apart. -/
theorem mem_otherIds_inlines_iff (hhtml : r.allowHtml = false) (hr : r.HasBuiltinRules)
    (hts : InlineContent ts) (hnames : ∀ t ∈ ts, t.HasLegibleNames) :
    (∃ m ∈ r.inlinesFrom 0 ts, id ∈ otherIds m.write) ↔
      ∃ t ∈ outsideImages 0 ts ++ outerImages 0 ts, t.GivesId id := by
  rw [exists_mem_inlines_iff hr hts fun t ht alt => mem_otherIds_imageMarkup_iff (hnames t ht) alt]
  simp only [List.mem_append, or_and_right, exists_or]
  refine or_congr (exists_congr fun t => and_congr_right fun ht => ?_)
    (exists_congr fun t => and_congr_right fun ht => ?_)
  · obtain ⟨hmem, himage⟩ := mem_of_mem_outsideImages ht
    exact mem_otherIds_inlinePiece_iff hhtml hr (hts.parts t hmem) (hnames t hmem) himage
  · obtain ⟨hk, hn⟩ := of_mem_outerImages ht
    simp [Token.givesId_iff, hk, hn, Kind.isInlinePair]

/-! ### Ids on a page -/

/-- A block gives the id to an element that is no heading. -/
inductive GivesId (r : Renderer) (t : Token) (id : String) : Prop
  /-- A block that is no heading is written with the attributes of its token. -/
  | block (kind : t.kind.isBlockPair = true ∨ t.kind = .fence ∨ t.kind = .rule)
      (noHeading : t.kind.isHeading = false) (shown : t.hidden = false)
      (begins : t.nesting ≠ .closing) (own : t.attr? "id" = some id)
  /-- A definition has an id that is made of its key. -/
  | definition (kind : t.kind = definitionKind) (key : id = "term-" ++ t.termKey)
  /-- A run and a definition hold tokens that have ids. -/
  | inside (kind : t.kind = .inline ∨ t.kind = definitionKind)
      (token : ∃ c ∈ outsideImages 0 t.children ++ outerImages 0 t.children, c.GivesId id)
  /-- A highlighter writes what it likes. -/
  | highlighted (kind : t.kind = .fence) (shown : t.hidden = false)
      (html : ∃ html, .raw html ∈ r.codeMarkup t ∧ id ∈ otherIds html)

theorem givesId_iff : r.GivesId t id ↔
    ((t.kind.isBlockPair = true ∨ t.kind = .fence ∨ t.kind = .rule) ∧ t.kind.isHeading = false ∧
      t.hidden = false ∧ t.nesting ≠ .closing ∧ t.attr? "id" = some id) ∨
    (t.kind = definitionKind ∧ id = "term-" ++ t.termKey) ∨
    ((t.kind = .inline ∨ t.kind = definitionKind) ∧
      ∃ c ∈ outsideImages 0 t.children ++ outerImages 0 t.children, c.GivesId id) ∨
    (t.kind = .fence ∧ t.hidden = false ∧
      ∃ html, .raw html ∈ r.codeMarkup t ∧ id ∈ otherIds html) := by
  constructor
  · rintro (⟨kind, noHeading, shown, begins, own⟩ | ⟨kind, key⟩ | ⟨kind, token⟩ |
      ⟨kind, shown, html⟩)
    · exact .inl ⟨kind, noHeading, shown, begins, own⟩
    · exact .inr (.inl ⟨kind, key⟩)
    · exact .inr (.inr (.inl ⟨kind, token⟩))
    · exact .inr (.inr (.inr ⟨kind, shown, html⟩))
  · rintro (⟨kind, noHeading, shown, begins, own⟩ | ⟨kind, key⟩ | ⟨kind, token⟩ |
      ⟨kind, shown, html⟩)
    · exact .block kind noHeading shown begins own
    · exact .definition kind key
    · exact .inside kind token
    · exact .highlighted kind shown html

theorem blockName_mem_elementNames {kind : Kind} (hk : kind.isBlockPair = true)
    (hheading : kind.isHeading = false) : blockName kind ∈ elementNames := by
  cases kind <;> simp [Kind.isBlockPair, Kind.isHeading] at hk hheading <;>
    simp [blockName, elementNames]

/-- The id of a pair of blocks. -/
theorem mem_otherIds_blockPiece_pair (hk : t.kind.isBlockPair = true) (hn : t.nesting ≠ .single)
    (hnames : t.HasLegibleNames) :
    (∃ m ∈ r.blockPiece t, id ∈ otherIds m.write) ↔ r.GivesId t id := by
  have hpiece : r.blockPiece t = r.blockMarkup t := by
    unfold blockPiece
    cases hkind : t.kind <;> simp [hkind, Kind.isBlockPair] at hk ⊢
  have hgives : r.GivesId t id ↔ t.kind.isHeading = false ∧ t.hidden = false ∧
      t.nesting ≠ .closing ∧ t.attr? "id" = some id := by
    rw [givesId_iff]
    cases hkind : t.kind <;> simp [hkind, Kind.isBlockPair, definitionKind] at hk ⊢
  rw [hgives, hpiece, blockMarkup_pair r hk hn]
  cases hhidden : t.hidden with
  | true => simp
  | false =>
    cases hheading : t.kind.isHeading with
    | true =>
      obtain ⟨n, hkind⟩ := Kind.exists_of_isHeading hheading
      have hend : id ∉ otherIds (Markup.endTag ("h" ++ toString n)).write := fun hid => by
        obtain ⟨tag, htag, -⟩ := Html.mem_otherIds_iff.mp hid
        rw [(Html.hasNoElements_endTag (Html.isTagName_heading n)).elements] at htag
        cases htag
      cases hnesting : t.nesting with
      | single => exact absurd hnesting hn
      | opening =>
        have hstart : id ∉ otherIds (Markup.startTag ("h" ++ toString n) _).write :=
          not_mem_otherIds_heading n (Html.attributes t.attrs)
        simpa [hkind, blockName, tagMarkup, hnesting] using hstart
      | closing => simpa [hkind, blockName, tagMarkup, hnesting] using hend
    | false =>
      have hname := blockName_mem_elementNames hk hheading
      have hend := (isOfElements_mem_otherIds id).endTag _ hname
      cases hnesting : t.nesting with
      | single => exact absurd hnesting hn
      | opening =>
        have hown : id ∈ otherIds (Markup.startTag _ (Html.attributes t.attrs)).write ↔
            t.attr? "id" = some id := mem_otherIds_startTag_iff hname hnames
        simpa [tagMarkup, hnesting] using hown
      | closing => simp [tagMarkup, hnesting, hend]

/-- The ids of a code block: its own, and those that a highlighter writes. -/
theorem mem_otherIds_codeMarkup_iff (hnames : t.HasLegibleNames) :
    (∃ m ∈ r.codeMarkup t, id ∈ otherIds m.write) ↔
      t.attr? "id" = some id ∨ ∃ html, .raw html ∈ r.codeMarkup t ∧ id ∈ otherIds html := by
  have hP := isOfElements_mem_otherIds id
  have hown : id ∈ otherIds (Markup.startTag "pre" (Html.attributes t.attrs)).write ↔
      t.attr? "id" = some id := mem_otherIds_startTag_iff (by decide) hnames
  have hclass : ∀ lang : String,
      id ∉ otherIds (Markup.startTag "code" [⟨"class", some lang⟩]).write := by
    intro lang
    have hfixed : ∀ n ∈ [("class", lang)].map Prod.fst, Html.IsAttributeName n := by
      have hone : ∀ n ∈ ["class"], Html.IsAttributeName n := by decide
      exact hone
    intro hid
    have hlookup : [("class", lang)].lookup "id" = some id :=
      (mem_otherIds_startTag_iff (by decide) hfixed).mp hid
    simp [List.lookup_cons] at hlookup
  have hbare : id ∉ otherIds (Markup.startTag "code" []).write := by
    have hnone : otherIds (Markup.startTag "code" []).write = [] := by decide
    rw [hnone]
    exact List.not_mem_nil
  have hpre := hP.endTag "pre" (by decide)
  have hcode := hP.endTag "code" (by decide)
  have hraw : ∀ html : String, (Markup.raw html).write = html := fun _ => rfl
  unfold codeMarkup
  dsimp only
  split <;> simp [hown, hclass, hbare, hP.text, hpre, hcode, hraw]

/-- **The id of a block**, or of what stands in it. -/
theorem mem_otherIds_blockPiece_iff (hhtml : r.allowHtml = false) (hr : r.HasBuiltinRules)
    (hrule : r.rules.lookup "term_definition" = some renderDefinition) (ht : t.IsPagePart)
    (hnames : t.TellsAllNames) :
    (∃ m ∈ r.blockPiece t, id ∈ otherIds m.write) ↔ r.GivesId t id := by
  have hP := isOfElements_mem_otherIds id
  have hinlines : (∃ m ∈ r.inlinesFrom 0 t.children, id ∈ otherIds m.write) ↔
      ∃ c ∈ outsideImages 0 t.children ++ outerImages 0 t.children, c.GivesId id :=
    mem_otherIds_inlines_iff hhtml hr ht.children fun c hc => (hnames.children c hc).legible
  by_cases hn : t.nesting = .single
  · rcases ht.leaf hn with hk | hk
    · unfold blockPiece
      rw [givesId_iff]
      cases hkind : t.kind with
      | inline => simpa [definitionKind, Kind.isBlockPair] using hinlines
      | fence =>
        cases hhidden : t.hidden with
        | true => simp [blockMarkup, hhidden, definitionKind]
        | false =>
          simpa [blockMarkup, hhidden, hkind, definitionKind, Kind.isHeading, hn] using
            mem_otherIds_codeMarkup_iff hnames.legible
      | htmlBlock =>
        cases hhidden : t.hidden with
        | true => simp [blockMarkup, hhidden, definitionKind, Kind.isBlockPair]
        | false =>
          simp [blockMarkup, hhidden, hkind, rawMarkup, hhtml, definitionKind, Kind.isBlockPair,
            hP.text]
      | rule =>
        cases hhidden : t.hidden with
        | true => simp [blockMarkup, hhidden, definitionKind]
        | false =>
          have hown : id ∈ otherIds (Markup.startTag "hr" (Html.attributes t.attrs)).write ↔
              t.attr? "id" = some id := mem_otherIds_startTag_iff (by decide) hnames.legible
          simpa [blockMarkup, hhidden, hkind, definitionKind, Kind.isHeading, hn] using hown
      | _ => simp [hkind, Kind.isBlockLeaf] at hk
    · have hpiece : r.blockPiece t = .startTag "dfn" (Html.attributes
          (definitionAttributes t.termKey)) :: r.inlinesFrom 0 t.children ++ [.endTag "dfn"] := by
        rw [blockPiece, hk, definitionKind]
        dsimp only
        rw [customMarkup_eq, hrule]
        rfl
      have hlegible : ∀ n ∈ (definitionAttributes t.termKey).map Prod.fst,
          Html.IsAttributeName n := by
        have hfixed : ∀ n ∈ ["class", "id"], Html.IsAttributeName n := by decide
        exact hfixed
      have hown : id ∈ otherIds (Markup.startTag "dfn" (Html.attributes
          (definitionAttributes t.termKey))).write ↔ id = "term-" ++ t.termKey := by
        rw [mem_otherIds_startTag_iff (by decide) hlegible]
        simp [definitionAttributes, List.lookup_cons, eq_comm]
      have hend := hP.endTag "dfn" (by decide)
      rw [hpiece, givesId_iff]
      simp only [List.cons_append, List.mem_cons, List.mem_append, List.not_mem_nil, or_false,
        or_and_right, exists_or, exists_eq_left, hown, hinlines, hend]
      simp [hk, definitionKind, Kind.isBlockPair]
  · exact mem_otherIds_blockPiece_pair (ht.pair hn).1 hn hnames.legible

/-- The pieces of a page can be read one after the other. -/
theorem closed_blockPiece (hhtml : r.allowHtml = false) (hr : r.HasBuiltinRules)
    (hhighlighter : WritesNoHeadings r.highlighter) (t : Token) :
    ∀ m ∈ r.blockPiece t, unfinished none m.write.toList = none := by
  cases hk : t.kind.isHeading with
  | false =>
    exact forall_blockPiece holdsOfPieces_closed hhtml hr
      (fun h hh code lang html hwrites => (hhighlighter h hh code lang html hwrites).closed) hk
  | true =>
    obtain ⟨n, hn⟩ := Kind.exists_of_isHeading hk
    have hname := Html.isTagName_heading n
    rw [blockPiece_heading r hn]
    split
    · exact List.forall_mem_nil _
    split
    · exact List.forall_mem_singleton.mpr (Html.tagTexts_startTag hname _).2
    · exact List.forall_mem_singleton.mpr (Html.hasNoElements_endTag hname).closed

/-- **The ids of a page that stand on no heading are those that its tokens give.** -/
theorem mem_otherIds_render_iff (hhtml : r.allowHtml = false) (hr : r.HasBuiltinRules)
    (hrule : r.rules.lookup "term_definition" = some renderDefinition)
    (hhighlighter : WritesNoHeadings r.highlighter) (hts : ∀ t ∈ ts, t.IsPagePart)
    (hnames : ∀ t ∈ ts, t.TellsAllNames) :
    id ∈ otherIds (r.render ts) ↔ ∃ t ∈ ts, r.GivesId t id := by
  have hclosed : ∀ m ∈ ts.flatMap r.blockPiece, unfinished none m.write.toList = none := by
    intro m hm
    obtain ⟨t, -, hm⟩ := List.mem_flatMap.mp hm
    exact closed_blockPiece hhtml hr hhighlighter t m hm
  have hpiece : ∀ t ∈ ts, (∃ m ∈ r.blockPiece t, id ∈ otherIds m.write) ↔ r.GivesId t id :=
    fun t ht => mem_otherIds_blockPiece_iff hhtml hr hrule (hts t ht) (hnames t ht)
  rw [render, blocks_eq_flatMap, mem_otherIds_writeAll_iff hclosed]
  constructor
  · rintro ⟨m, hm, hid⟩
    obtain ⟨t, ht, hm⟩ := List.mem_flatMap.mp hm
    exact ⟨t, ht, (hpiece t ht).mp ⟨m, hm, hid⟩⟩
  · rintro ⟨t, ht, hid⟩
    obtain ⟨m, hm, hid⟩ := (hpiece t ht).mpr hid
    exact ⟨m, List.mem_flatMap.mpr ⟨t, ht, hm⟩, hid⟩

end Renderer

end Folio
