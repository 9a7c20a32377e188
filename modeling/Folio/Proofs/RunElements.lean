import Folio.Proofs.RepeatedNames
import Folio.Proofs.ShownLinks

/-!
# The elements of a run

What is written of a run is text again, and which elements begin in that text is a matter of its
tokens: each token that stands in no image begins the element of its kind, or none, and of an image
there is nothing but the image itself.  Raw HTML is the exception.  Where it is allowed it begins
the elements that it says, and the text can be read piece by piece only as long as no piece of it
leaves a tag unfinished.

## Main definitions

* `Html.HasElement` — an element of the name begins in the text.
* `IsOfElements` — a property of start tags, which texts and end tags do not have.
* `Renderer.inlineTag?` — the start tag that a token becomes.
* `Renderer.ShowsElement` — a token of the run begins an element of the name.
* `Renderer.EndsRawTags` — raw HTML of the run leaves no tag unfinished, where it is allowed.

## Main results

* `Renderer.exists_mem_inlinePiece_iff` — **a token becomes one start tag at most, or raw HTML.**
* `Renderer.exists_mem_inlines_iff` — a run becomes what its tokens become, those in images apart.
* `Renderer.hasElement_renderInline_iff` — **the elements in the text of a run are those that its
  tokens begin.**
* `Renderer.ShowsElement.mem_inlineElementNames` — without raw HTML these have names from a short
  list.
-/

namespace Folio

/-! ### Elements in a text -/

namespace Html

/-- An element of the name begins in the text. -/
def HasElement (name html : String) : Prop := ∃ tag ∈ startTags html, tag.name = name

variable {name : String}

theorem HasNoElements.not_hasElement {html : String} (h : HasNoElements html) :
    ¬HasElement name html := by
  rintro ⟨tag, htag, -⟩
  exact absurd htag (h.elements ▸ List.not_mem_nil)

theorem hasElement_startTag_iff {n : String} (h : IsTagName n) (attrs : List Attribute) :
    HasElement name (Markup.startTag n attrs).write ↔ n = name := by
  rw [HasElement, startTags_startTag h]
  simp

/-- **The elements of a page are those of its pieces.** -/
theorem hasElement_writeAll_iff {page : List Markup}
    (h : ∀ m ∈ page, unfinished none m.write.toList = none) :
    HasElement name (writeAll page) ↔ ∃ m ∈ page, HasElement name m.write := by
  unfold HasElement
  rw [startTags_writeAll h]
  simp only [List.mem_flatMap]
  constructor
  · rintro ⟨tag, ⟨m, hm, htag⟩, hname⟩
    exact ⟨m, hm, tag, htag, hname⟩
  · rintro ⟨m, hm, tag, htag, hname⟩
    exact ⟨tag, ⟨m, hm, htag⟩, hname⟩

end Html

open Html (HasElement HasNoElements IsTagName Markup unfinished)
open Plugin.Terms (referenceKind renderReference)

theorem inlineElementNames_subset : inlineElementNames ⊆ elementNames := by decide

theorem isTagName_of_mem_inlineElementNames {name : String} (h : name ∈ inlineElementNames) :
    IsTagName name :=
  isTagName_of_mem_elementNames (inlineElementNames_subset h)

theorem hasNoElements_raw {s : String} (h : s.toList.all (· != '<') = true) :
    HasNoElements (Markup.raw s).write :=
  Html.hasNoElements_of_no_tag fun c hc => by simpa using List.all_eq_true.mp h c hc

/-- All tags that begin in the pieces of a page end in them. -/
theorem holdsOfPieces_closed : HoldsOfPieces fun m => unfinished none m.write.toList = none :=
  ⟨fun s => (Html.hasNoElements_text s).closed, (hasNoElements_raw rfl).closed,
    (hasNoElements_raw rfl).closed,
    fun _ h attrs => (Html.tagTexts_startTag (isTagName_of_mem_elementNames h) attrs).2,
    fun _ h => (Html.hasNoElements_endTag (isTagName_of_mem_elementNames h)).closed⟩

/-- Neither texts nor line ends and blanks have the property, nor the end tags of the elements of a
page. -/
structure IsOfElements (P : Markup → Prop) : Prop where
  text : ∀ s, ¬P (.text s)
  newline : ¬P (.raw "\n")
  blank : ¬P (.raw " ")
  endTag : ∀ name ∈ elementNames, ¬P (.endTag name)

/-- What is said of the elements in a text is such a property. -/
theorem isOfElements_of_hasNoElements {P : Markup → Prop}
    (h : ∀ m : Markup, HasNoElements m.write → ¬P m) : IsOfElements P :=
  ⟨fun s => h _ (Html.hasNoElements_text s), h _ (hasNoElements_raw rfl),
    h _ (hasNoElements_raw rfl),
    fun _ hname => h _ (Html.hasNoElements_endTag (isTagName_of_mem_elementNames hname))⟩

theorem isOfElements_hasElement (name : String) :
    IsOfElements fun m => HasElement name m.write :=
  isOfElements_of_hasNoElements fun _ h => h.not_hasElement

/-! ### The start tag of a token -/

namespace Renderer

/-- The start tag that a token in no image becomes, if it is no raw HTML. -/
def inlineTag? (r : Renderer) (t : Token) : Option (String × List Html.Attribute) :=
  match t.kind with
  | .codeInline => some ("code", Html.attributes t.attrs)
  | .softBreak => if r.breaks then some ("br", []) else none
  | .hardBreak => some ("br", [])
  | .taskMarker checked =>
    let box : List Html.Attribute := if checked then [⟨"checked", none⟩] else []
    some ("input", ⟨"type", some "checkbox"⟩ :: box ++ [⟨"disabled", none⟩])
  | .custom name =>
    if t.isOpening then (r.inlineName? (.custom name)).map fun n =>
      (n, Html.attributes (referenceAttributes t.termKey))
    else none
  | kind =>
    if t.isOpening then (r.inlineName? kind).map fun n => (n, Html.attributes t.attrs) else none

/-- The token is raw HTML that is passed through. -/
def PassesRaw (r : Renderer) (t : Token) : Prop := t.kind = .htmlInline ∧ r.allowHtml = true

instance (r : Renderer) (t : Token) : Decidable (r.PassesRaw t) :=
  inferInstanceAs (Decidable (_ ∧ _))

variable {r : Renderer} {t : Token} {ts : List Token} {name : String}

theorem mem_inlineElementNames_of_inlineName? {kind : Kind} (h : r.inlineName? kind = some name) :
    name ∈ inlineElementNames := by
  unfold inlineName? at h
  split at h
  case h_7 =>
    obtain ⟨-, -, rfl⟩ := Option.map_eq_some_iff.mp h
    decide
  case h_8 => cases h
  all_goals
    obtain rfl := Option.some.inj h
    decide

/-- A token begins an element of one of a few names. -/
theorem fst_mem_inlineElementNames {tag : String × List Html.Attribute}
    (h : r.inlineTag? t = some tag) : tag.1 ∈ inlineElementNames := by
  have hpair : ∀ {kind : Kind} {attrs : List Html.Attribute},
      (if t.isOpening then (r.inlineName? kind).map fun n => (n, attrs) else none) = some tag →
        tag.1 ∈ inlineElementNames := by
    intro kind attrs h
    split at h
    · obtain ⟨n, hname, rfl⟩ := Option.map_eq_some_iff.mp h
      exact mem_inlineElementNames_of_inlineName? hname
    · cases h
  unfold inlineTag? at h
  split at h
  case h_1 => exact Option.some.inj h ▸ (by decide : "code" ∈ inlineElementNames)
  case h_2 =>
    split at h
    · exact Option.some.inj h ▸ (by decide : "br" ∈ inlineElementNames)
    · cases h
  case h_3 => exact Option.some.inj h ▸ (by decide : "br" ∈ inlineElementNames)
  case h_4 => exact Option.some.inj h ▸ (by decide : "input" ∈ inlineElementNames)
  all_goals exact hpair h

/-- One end of an inline container is written with the attributes of its token, or is an end tag. -/
theorem inlineTag?_of_pair (hk : t.kind.isInlinePair = true)
    (hname : r.inlineName? t.kind = some name) :
    r.inlineTag? t = if t.isOpening then some (name, Html.attributes t.attrs) else none := by
  unfold inlineTag?
  cases hkind : t.kind <;> simp [hkind, Kind.isInlinePair] at hk hname ⊢ <;> simp [hname]

/-- **A token becomes one start tag at most**, beside texts and end tags, or it is raw HTML. -/
theorem exists_mem_inlinePiece_iff {P : Markup → Prop} (hP : IsOfElements P)
    (hr : r.HasBuiltinRules) (ht : t.IsInlinePart) (himage : t.kind ≠ .image) :
    (∃ m ∈ r.inlinePiece t, P m) ↔
      (∃ tag ∈ r.inlineTag? t, P (.startTag tag.1 tag.2)) ∨ r.PassesRaw t ∧ P (.raw t.content) := by
  have hend : ∀ n ∈ inlineElementNames, ¬P (.endTag n) :=
    fun n hn => hP.endTag n (inlineElementNames_subset hn)
  by_cases hn : t.nesting = .single
  · have hleaf := ht.leaf hn
    unfold inlinePiece inlineMarkup inlineTag? PassesRaw
    cases hk : t.kind with
    | text => simp [hP.text, inlineName?]
    | codeInline => simp [hP.text, hend "code" (by decide)]
    | htmlInline =>
      cases hallowed : r.allowHtml with
      | true => simp [rawMarkup, hallowed, inlineName?]
      | false => simp [rawMarkup, hallowed, hP.text, inlineName?]
    | softBreak => cases r.breaks <;> simp [breakMarkup, hP.newline]
    | hardBreak => simp [breakMarkup, hP.newline]
    | taskMarker checked => simp [taskMarkup, hP.blank]
    | _ => simp [hk, Kind.isInlineLeaf] at hleaf
  · rcases ht.pair hn with hk | hk
    · obtain ⟨n, hname, -, hpiece⟩ := inlinePiece_pair r hk himage
      have hmem := mem_inlineElementNames_of_inlineName? hname
      have hraw : ¬r.PassesRaw t := by
        rintro ⟨hhtml, -⟩
        rw [hhtml] at hk
        cases hk
      rw [hpiece, inlineTag?_of_pair hk hname, tagMarkup]
      cases hnesting : t.nesting with
      | single => exact absurd hnesting hn
      | opening => simp [Token.isOpening, hnesting, hraw]
      | closing => simp [Token.isOpening, hnesting, hraw, hend n hmem]
    · -- A reference becomes an element if there is a rule for it.
      have hraw : ¬r.PassesRaw t := by
        rintro ⟨hhtml, -⟩
        rw [hk] at hhtml
        cases hhtml
      have htag : r.inlineTag? t = if t.isOpening then (r.rules.lookup "term").map fun _ =>
          ("i", Html.attributes (referenceAttributes t.termKey)) else none := by
        rw [inlineTag?, hk, referenceKind]
        simp [inlineName?, Function.comp_def]
      rw [inlinePiece_reference r hk, customMarkup_eq, htag, ht.children]
      rcases hr.lookup_cases "term" with hnone | ⟨hfalse, -⟩ | ⟨-, href⟩
      · simp [hnone, hP.text, hraw]
      · exact absurd hfalse (by decide)
      · rw [href]
        cases hnesting : t.nesting with
        | single => exact absurd hnesting hn
        | opening =>
          simp [renderReference, Token.isOpening, hnesting, hraw, referenceAttributes,
            Token.termKey]
        | closing => simp [renderReference, Token.isOpening, hnesting, hraw, hend "i" (by decide)]

/-- The piece of a token that is no image is no image either. -/
theorem not_mem_imageMarkup_of_mem_inlinePiece (hr : r.HasBuiltinRules) (ht : t.IsInlinePart)
    (himage : t.kind ≠ .image) {m : Markup} (hm : m ∈ r.inlinePiece t) (u : Token) (alt : String) :
    m ∉ imageMarkup u alt := by
  intro hmem
  rw [mem_imageMarkup.mp hmem] at hm
  obtain ⟨pairs, hbecomes, -⟩ := startTag_mem_inlinePiece hr (by decide) ht hm
  exact himage (Token.becomes_img_iff.mp hbecomes).1

/-- **A run becomes what its tokens become**: those that stand in no image, and the images that
stand in no other one.  The alternative text of an image must not matter. -/
theorem exists_mem_inlines_iff {P : Markup → Prop} {Q : Token → Prop} (hr : r.HasBuiltinRules)
    (hts : InlineContent ts)
    (himage : ∀ t ∈ ts, ∀ alt, ∀ m ∈ imageMarkup t alt, (P m ↔ Q t)) :
    (∃ m ∈ r.inlinesFrom 0 ts, P m) ↔
      (∃ t ∈ outsideImages 0 ts, ∃ m ∈ r.inlinePiece t, P m) ∨ ∃ t ∈ outerImages 0 ts, Q t := by
  have hnested := nested_of_balanced hts.balanced
  constructor
  · rintro ⟨m, hm, hP⟩
    by_cases himg : ∃ t alt, m ∈ imageMarkup t alt
    · obtain ⟨t, alt, hmem⟩ := himg
      rcases mem_inlinesFrom_cases hm with ⟨u, hu, hne, hpiece⟩ | ⟨u, hu, alt, hmarkup⟩
      · -- The piece of a token that begins no image is none.
        rw [mem_imageMarkup.mp hmem] at hpiece
        obtain ⟨pairs, hbecomes, -⟩ :=
          startTag_mem_inlinePiece hr (by decide) (hts.parts u hu) hpiece
        obtain ⟨hk, hn, -⟩ := Token.becomes_img_iff.mp hbecomes
        exact absurd ⟨hk, hn⟩ hne
      · exact .inr ⟨u, hu, (himage u (mem_of_mem_outerImages hu) alt m hmarkup).mp hP⟩
    · obtain ⟨c, hc, hpiece⟩ :=
        (mem_inlines_iff (fun t alt hmem => himg ⟨t, alt, hmem⟩) hnested).mp hm
      exact .inl ⟨c, hc, m, hpiece, hP⟩
  · rintro (⟨c, hc, m, hpiece, hP⟩ | ⟨t, ht, hQ⟩)
    · obtain ⟨hmem, hne⟩ := mem_of_mem_outsideImages hc
      have hnot := not_mem_imageMarkup_of_mem_inlinePiece hr (hts.parts c hmem) hne hpiece
      exact ⟨m, (mem_inlines_iff hnot hnested).mpr ⟨c, hc, hpiece⟩, hP⟩
    · obtain ⟨alt, hshown⟩ := exists_imageMarkup_subset (r := r) ht
      have hmem : _ ∈ imageMarkup t alt := mem_imageMarkup.mpr rfl
      exact ⟨_, hshown _ hmem, (himage t (mem_of_mem_outerImages ht) alt _ hmem).mpr hQ⟩

/-! ### The elements of a run -/

/-- A token of the run begins an element of the name, by its kind or as raw HTML, or an image
does. -/
def ShowsElement (r : Renderer) (ts : List Token) (name : String) : Prop :=
  (∃ t ∈ outsideImages 0 ts, (∃ tag ∈ r.inlineTag? t, tag.1 = name) ∨
    r.PassesRaw t ∧ HasElement name t.content) ∨ ∃ t ∈ outerImages 0 ts, "img" = name

/-- Raw HTML of the run leaves no tag unfinished, where it is passed through. -/
def EndsRawTags (r : Renderer) (ts : List Token) : Prop :=
  ∀ t ∈ ts, r.PassesRaw t → unfinished none t.content.toList = none

theorem endsRawTags_of_escaped (hhtml : r.allowHtml = false) (ts : List Token) :
    r.EndsRawTags ts := by
  rintro t _ ⟨-, hallowed⟩
  rw [hhtml] at hallowed
  cases hallowed

/-- The property holds of the markup of a token that stands in a run of a page, if it holds of raw
HTML as it is rendered. -/
theorem forall_inlinePiece_of_isInlinePart {P : Markup → Prop} (hP : HoldsOfInlines P)
    (hr : r.HasBuiltinRules) (ht : t.IsInlinePart)
    (hraw : t.kind = .htmlInline → ∀ m ∈ r.rawMarkup t.content, P m) :
    ∀ m ∈ r.inlinePiece t, P m := by
  by_cases hk : t.kind = referenceKind
  · rw [inlinePiece_reference r hk, customMarkup_eq, ht.children]
    rcases hr.lookup_cases "term" with hnone | ⟨hfalse, -⟩ | ⟨-, href⟩
    · rw [hnone]
      exact List.forall_mem_singleton.mpr (hP.text _)
    · exact absurd hfalse (by decide)
    · rw [href]
      have hstart := hP.startTag "i" (by decide)
      have hend := hP.endTag "i" (by decide)
      cases hn : t.nesting <;> simp [renderReference, hn, hstart, hend]
  · -- No other kind of a plugin's own stands in a run.
    have hpiece : r.inlinePiece t = r.inlineMarkup t := by
      unfold inlinePiece
      split
      · next hcustom => exact absurd (ht.of_custom hcustom).1 hk
      · rfl
    rw [hpiece]
    exact forall_inlineMarkup_of_raw hP t hraw

/-- The pieces of a run can be read one after the other. -/
theorem closed_inlinesFrom (hr : r.HasBuiltinRules) (hts : ∀ t ∈ ts, t.IsInlinePart)
    (hraw : r.EndsRawTags ts) :
    ∀ m ∈ r.inlinesFrom 0 ts, unfinished none m.write.toList = none := by
  have hclosed := holdsOfPieces_closed.inlines
  refine forall_inlinesFrom_of_mem hclosed (fun t ht => ?_) 0
  refine forall_inlinePiece_of_isInlinePart hclosed hr (hts t ht) fun hk => ?_
  unfold rawMarkup
  split
  · next hallowed => exact List.forall_mem_singleton.mpr (hraw t ht ⟨hk, hallowed⟩)
  · exact List.forall_mem_singleton.mpr (hclosed.text _)

/-- **The elements in the text of a run are those that its tokens begin.** -/
theorem hasElement_renderInline_iff (hr : r.HasBuiltinRules) (hts : InlineContent ts)
    (hraw : r.EndsRawTags ts) : HasElement name (r.renderInline ts) ↔ r.ShowsElement ts name := by
  have himage : ∀ t ∈ ts, ∀ alt, ∀ m ∈ imageMarkup t alt,
      (HasElement name m.write ↔ "img" = name) := by
    intro t _ alt m hm
    rw [mem_imageMarkup.mp hm]
    exact Html.hasElement_startTag_iff (isTagName_of_mem_inlineElementNames (by decide)) _
  rw [renderInline, inlines, Html.hasElement_writeAll_iff (closed_inlinesFrom hr hts.parts hraw),
    exists_mem_inlines_iff hr hts himage]
  refine or_congr_left (exists_congr fun t => and_congr_right fun ht => ?_)
  obtain ⟨hmem, hne⟩ := mem_of_mem_outsideImages ht
  rw [exists_mem_inlinePiece_iff (isOfElements_hasElement name) hr (hts.parts t hmem) hne]
  refine or_congr_left (exists_congr fun tag => and_congr_right fun htag => ?_)
  exact Html.hasElement_startTag_iff
    (isTagName_of_mem_inlineElementNames (fst_mem_inlineElementNames htag)) _

/-- **Without raw HTML the elements of a run have names from a short list.** -/
theorem ShowsElement.mem_inlineElementNames (hhtml : r.allowHtml = false)
    (h : r.ShowsElement ts name) : name ∈ inlineElementNames := by
  rcases h with ⟨t, -, ⟨tag, htag, rfl⟩ | ⟨⟨-, hallowed⟩, -⟩⟩ | ⟨t, -, rfl⟩
  · exact fst_mem_inlineElementNames htag
  · rw [hhtml] at hallowed
    cases hallowed
  · decide

end Renderer

end Folio
