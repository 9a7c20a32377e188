import Folio.Markdown.Document

/-!
# The shape of event sequences

The events of a document are not any sequence.  The end of a tag belongs to the innermost tag
that is still open, paragraphs, headings, cells and inline containers hold inline events only,
code and metadata hold text, and a table holds one head and then rows of cells.

## Main definitions

* `InlineOnly` — inline leaves and inline containers.
* `Shaped` — all of the above.
* `Content` — what a shaped sequence has between the start and the end of a tag.
* `Matched` — every start has its end, and such content between them.
* `ProperlyNested` — only the first two of the rules above.

## Main results

* `Shaped.matched` — in a shaped sequence every start has its end.
* `Shaped.properlyNested` — a shaped sequence is properly nested.
* `shaped_blockEvents` — the events of a document are shaped.
-/

namespace Folio.Markdown

/-- The tag is an inline container. -/
def Tag.isInline : Tag → Bool
  | .emphasis | .strong | .strikethrough | .superscript | .subscript | .link _ | .image _ => true
  | _ => false

/-- The tag is a block that holds inline content. -/
def Tag.isTextBlock : Tag → Bool
  | .paragraph | .heading _ | .tableCell => true
  | _ => false

/-- The tag is a block that holds blocks. -/
def Tag.isContainer : Tag → Bool
  | .blockquote | .list _ | .item | .footnoteDefinition _ | .definitionList | .definitionTerm
  | .definitionDetails => true
  | _ => false

/-- The event is neither a start nor an end. -/
def Event.isLeaf : Event → Bool
  | .start _ | .finish _ => false
  | _ => true

/-- The event is an inline leaf. -/
def Event.isInlineLeaf : Event → Bool
  | .start _ | .finish _ | .rule => false
  | _ => true

/-- The event is text. -/
def Event.isText : Event → Bool
  | .text _ => true
  | _ => false

/-- The event is text or HTML of a block. -/
def Event.isSource : Event → Bool
  | .text _ | .html _ => true
  | _ => false

theorem Event.isLeaf_of_isText {e : Event} (h : e.isText = true) : e.isLeaf = true := by
  cases e <;> simp_all [Event.isText, Event.isLeaf]

theorem Event.isLeaf_of_isSource {e : Event} (h : e.isSource = true) : e.isLeaf = true := by
  cases e <;> simp_all [Event.isSource, Event.isLeaf]

theorem Event.isLeaf_of_isInlineLeaf {e : Event} (h : e.isInlineLeaf = true) :
    e.isLeaf = true := by
  cases e <;> simp_all [Event.isInlineLeaf, Event.isLeaf]

/-! ### Inline events -/

/-- Inline leaves, and inline containers that hold such events. -/
inductive InlineOnly : List Event → Prop
  | nil : InlineOnly []
  | leaf {e : Event} {es : List Event} (he : e.isInlineLeaf = true) (hes : InlineOnly es) :
      InlineOnly (e :: es)
  | span {tag : Tag} {body es : List Event} (htag : tag.isInline = true) (hbody : InlineOnly body)
      (hes : InlineOnly es) : InlineOnly (within tag body ++ es)

theorem InlineOnly.append {xs ys : List Event} (hx : InlineOnly xs) (hy : InlineOnly ys) :
    InlineOnly (xs ++ ys) := by
  induction hx with
  | nil => exact hy
  | leaf he _ ih => exact .leaf he ih
  | span htag hbody _ _ ih =>
    rw [List.append_assoc]
    exact .span htag hbody ih

theorem InlineOnly.singleton {e : Event} (he : e.isInlineLeaf = true) : InlineOnly [e] :=
  .leaf he .nil

theorem InlineOnly.within {tag : Tag} {body : List Event} (htag : tag.isInline = true)
    (hbody : InlineOnly body) : InlineOnly (within tag body) := by
  simpa using InlineOnly.span htag hbody .nil

/-! ### Tables -/

/-- Cells that hold inline events. -/
inductive CellsOnly : List Event → Prop
  | nil : CellsOnly []
  | cons {body es : List Event} (hbody : InlineOnly body) (hes : CellsOnly es) :
      CellsOnly (within .tableCell body ++ es)

/-- Rows of cells. -/
inductive RowsOnly : List Event → Prop
  | nil : RowsOnly []
  | cons {body es : List Event} (hbody : CellsOnly body) (hes : RowsOnly es) :
      RowsOnly (within .tableRow body ++ es)

/-! ### Shaped sequences -/

/-- Blocks, and inline events between them, as they follow each other in a document. -/
inductive Shaped : List Event → Prop
  | nil : Shaped []
  | leaf {e : Event} {es : List Event} (he : e.isLeaf = true) (hes : Shaped es) :
      Shaped (e :: es)
  | span {tag : Tag} {body es : List Event} (htag : tag.isInline = true) (hbody : InlineOnly body)
      (hes : Shaped es) : Shaped (within tag body ++ es)
  | paragraph {body es : List Event} (hbody : InlineOnly body) (hes : Shaped es) :
      Shaped (within .paragraph body ++ es)
  | heading {level : Nat} {body es : List Event} (hbody : InlineOnly body) (hes : Shaped es) :
      Shaped (within (.heading level) body ++ es)
  | code {info : Option String} {body es : List Event} (hbody : ∀ e ∈ body, e.isText = true)
      (hes : Shaped es) : Shaped (within (.codeBlock info) body ++ es)
  | html {body es : List Event} (hbody : ∀ e ∈ body, e.isSource = true) (hes : Shaped es) :
      Shaped (within .htmlBlock body ++ es)
  | metadata {body es : List Event} (hbody : ∀ e ∈ body, e.isText = true) (hes : Shaped es) :
      Shaped (within .metadataBlock body ++ es)
  | container {tag : Tag} {body es : List Event} (htag : tag.isContainer = true)
      (hbody : Shaped body) (hes : Shaped es) : Shaped (within tag body ++ es)
  | table {alignments : List Alignment} {head rows es : List Event} (hhead : CellsOnly head)
      (hrows : RowsOnly rows) (hes : Shaped es) :
      Shaped (within (.table alignments) (within .tableHead head ++ rows) ++ es)

theorem Shaped.append {xs ys : List Event} (hx : Shaped xs) (hy : Shaped ys) :
    Shaped (xs ++ ys) := by
  induction hx with
  | nil => exact hy
  | leaf he _ ih => exact .leaf he ih
  | span htag hbody _ ih => rw [List.append_assoc]; exact .span htag hbody ih
  | paragraph hbody _ ih => rw [List.append_assoc]; exact .paragraph hbody ih
  | heading hbody _ ih => rw [List.append_assoc]; exact .heading hbody ih
  | code hbody _ ih => rw [List.append_assoc]; exact .code hbody ih
  | html hbody _ ih => rw [List.append_assoc]; exact .html hbody ih
  | metadata hbody _ ih => rw [List.append_assoc]; exact .metadata hbody ih
  | container htag hbody _ _ ih => rw [List.append_assoc]; exact .container htag hbody ih
  | table hhead hrows _ ih => rw [List.append_assoc]; exact .table hhead hrows ih

theorem Shaped.of_append_nil {es : List Event} (h : Shaped (es ++ [])) : Shaped es :=
  List.append_nil es ▸ h

theorem InlineOnly.shaped {es : List Event} (h : InlineOnly es) : Shaped es := by
  induction h with
  | nil => exact .nil
  | leaf he _ ih => exact .leaf (Event.isLeaf_of_isInlineLeaf he) ih
  | span htag hbody _ _ ih => exact .span htag hbody ih

/-- What a shaped sequence has between the start and the end of a tag. -/
def Content : Tag → List Event → Prop
  | .paragraph, body | .heading _, body | .tableCell, body => InlineOnly body
  | .emphasis, body | .strong, body | .strikethrough, body | .superscript, body
  | .subscript, body | .link _, body | .image _, body => InlineOnly body
  | .codeBlock _, body | .metadataBlock, body => ∀ e ∈ body, e.isText = true
  | .htmlBlock, body => ∀ e ∈ body, e.isSource = true
  | .table _, body =>
    ∃ head rows, body = within .tableHead head ++ rows ∧ CellsOnly head ∧ RowsOnly rows
  | .tableHead, body | .tableRow, body => CellsOnly body
  | .blockquote, body | .list _, body | .item, body | .footnoteDefinition _, body
  | .definitionList, body | .definitionTerm, body | .definitionDetails, body => Shaped body

/-! ### The end of a tag -/

/-- Every start of a tag has its end, with the content of the tag between them. -/
def Matched (es : List Event) : Prop :=
  ∀ before tag after, es = before ++ Event.start tag :: after →
    ∃ body rest, after = body ++ Event.finish tag.toEnd :: rest ∧ Content tag body

theorem matched_nil : Matched [] := fun before _ _ h => by simp at h

theorem Matched.append {xs ys : List Event} (hx : Matched xs) (hy : Matched ys) :
    Matched (xs ++ ys) := by
  intro before tag after h
  rcases List.append_eq_append_iff.mp h with ⟨mid, rfl, hmid⟩ | ⟨mid, rfl, hmid⟩
  · exact hy mid tag after hmid
  · cases mid with
    | nil => exact hy [] tag after (by simpa using hmid.symm)
    | cons e mid =>
      rw [List.cons_append, List.cons.injEq] at hmid
      obtain ⟨rfl, rfl⟩ := hmid
      obtain ⟨body, rest, rfl, hbody⟩ := hx before tag mid rfl
      exact ⟨body, rest ++ ys, by simp, hbody⟩

theorem Matched.singleton {e : Event} (he : e.isLeaf = true) : Matched [e] := by
  intro before tag after h
  cases before with
  | nil =>
    simp only [List.nil_append, List.cons.injEq] at h
    simp [h.1, Event.isLeaf] at he
  | cons b before => simp at h

theorem Matched.leaf {e : Event} {es : List Event} (he : e.isLeaf = true) (hes : Matched es) :
    Matched (e :: es) :=
  (Matched.singleton he).append hes

theorem matched_of_leaves {es : List Event} (h : ∀ e ∈ es, e.isLeaf = true) : Matched es := by
  induction es with
  | nil => exact matched_nil
  | cons e es ih =>
    exact .leaf (h e List.mem_cons_self) (ih fun e' he' => h e' (List.mem_cons_of_mem e he'))

theorem Matched.within {tag : Tag} {body : List Event} (hcontent : Content tag body)
    (hbody : Matched body) : Matched (within tag body) := by
  intro before tag' after h
  cases before with
  | nil =>
    simp only [Markdown.within, List.cons_append, List.nil_append, List.cons.injEq,
      Event.start.injEq] at h
    obtain ⟨rfl, rfl⟩ := h
    exact ⟨body, [], rfl, hcontent⟩
  | cons b before =>
    -- The start lies within the body: the last event is an end.
    simp only [Markdown.within, List.cons_append, List.cons.injEq] at h
    obtain ⟨-, h⟩ := h
    rcases List.append_eq_append_iff.mp h with ⟨mid, rfl, hmid⟩ | ⟨mid, rfl, hmid⟩
    · cases mid with
      | nil => simp at hmid
      | cons e mid => simp at hmid
    · cases mid with
      | nil => simp at hmid
      | cons e mid =>
        rw [List.cons_append, List.cons.injEq] at hmid
        obtain ⟨rfl, rfl⟩ := hmid
        obtain ⟨inside, rest, rfl, hinside⟩ := hbody before tag' mid rfl
        exact ⟨inside, rest ++ [Event.finish tag.toEnd], by simp, hinside⟩

theorem Content.of_isInline {tag : Tag} {body : List Event} (htag : tag.isInline = true)
    (hbody : InlineOnly body) : Content tag body := by
  cases tag <;> first | exact hbody | simp [Tag.isInline] at htag

theorem Content.of_isContainer {tag : Tag} {body : List Event} (htag : tag.isContainer = true)
    (hbody : Shaped body) : Content tag body := by
  cases tag <;> first | exact hbody | simp [Tag.isContainer] at htag

theorem InlineOnly.matched {es : List Event} (h : InlineOnly es) : Matched es := by
  induction h with
  | nil => exact matched_nil
  | leaf he _ ih => exact .leaf (Event.isLeaf_of_isInlineLeaf he) ih
  | span htag hbody _ ihbody ih => exact .append (.within (.of_isInline htag hbody) ihbody) ih

theorem CellsOnly.matched {es : List Event} (h : CellsOnly es) : Matched es := by
  induction h with
  | nil => exact matched_nil
  | cons hbody _ ih =>
    exact .append (.within (show Content .tableCell _ from hbody) hbody.matched) ih

theorem RowsOnly.matched {es : List Event} (h : RowsOnly es) : Matched es := by
  induction h with
  | nil => exact matched_nil
  | cons hbody _ ih =>
    exact .append (.within (show Content .tableRow _ from hbody) hbody.matched) ih

/-- **In a shaped sequence every start has its end**, and the content of its tag between them. -/
theorem Shaped.matched {es : List Event} (h : Shaped es) : Matched es := by
  induction h with
  | nil => exact matched_nil
  | leaf he _ ih => exact .leaf he ih
  | span htag hbody _ ih => exact .append (.within (.of_isInline htag hbody) hbody.matched) ih
  | paragraph hbody _ ih => exact .append (.within hbody hbody.matched) ih
  | heading hbody _ ih => exact .append (.within hbody hbody.matched) ih
  | code hbody _ ih =>
    exact .append (.within hbody (matched_of_leaves fun e he => e.isLeaf_of_isText (hbody e he))) ih
  | html hbody _ ih =>
    exact .append (.within hbody (matched_of_leaves fun e he => e.isLeaf_of_isSource (hbody e he)))
      ih
  | metadata hbody _ ih =>
    exact .append (.within hbody (matched_of_leaves fun e he => e.isLeaf_of_isText (hbody e he))) ih
  | container htag hbody _ ihbody ih =>
    exact .append (.within (.of_isContainer htag hbody) ihbody) ih
  | @table _ head rows _ hhead hrows _ ih =>
    have hbody : Matched (Markdown.within .tableHead head ++ rows) :=
      .append (.within hhead hhead.matched) hrows.matched
    exact .append (.within ⟨head, rows, rfl, hhead, hrows⟩ hbody) ih

/-! ### Proper nesting -/

/-- The end of a tag belongs to the innermost tag that is open, and what holds inline content
holds nothing else. -/
inductive ProperlyNested : List Event → Prop
  | nil : ProperlyNested []
  | leaf {e : Event} {es : List Event} (he : e.isLeaf = true) (hes : ProperlyNested es) :
      ProperlyNested (e :: es)
  | inlines {tag : Tag} {body es : List Event} (htag : (tag.isInline || tag.isTextBlock) = true)
      (hbody : InlineOnly body) (hes : ProperlyNested es) :
      ProperlyNested (within tag body ++ es)
  | block {tag : Tag} {body es : List Event} (htag : (tag.isInline || tag.isTextBlock) = false)
      (hbody : ProperlyNested body) (hes : ProperlyNested es) :
      ProperlyNested (within tag body ++ es)

theorem properlyNested_of_leaves {es : List Event} (h : ∀ e ∈ es, e.isLeaf = true) :
    ProperlyNested es := by
  induction es with
  | nil => exact .nil
  | cons e es ih =>
    exact .leaf (h e List.mem_cons_self) (ih fun e' he' => h e' (List.mem_cons_of_mem e he'))

theorem CellsOnly.properlyNested {es : List Event} (h : CellsOnly es) : ProperlyNested es := by
  induction h with
  | nil => exact .nil
  | cons hbody _ ih => exact .inlines rfl hbody ih

theorem RowsOnly.properlyNested {es : List Event} (h : RowsOnly es) : ProperlyNested es := by
  induction h with
  | nil => exact .nil
  | cons hbody _ ih => exact .block rfl hbody.properlyNested ih

theorem Shaped.properlyNested {es : List Event} (h : Shaped es) : ProperlyNested es := by
  induction h with
  | nil => exact .nil
  | leaf he _ ih => exact .leaf he ih
  | span htag hbody _ ih => exact .inlines (by rw [htag]; rfl) hbody ih
  | paragraph hbody _ ih => exact .inlines rfl hbody ih
  | heading hbody _ ih => exact .inlines rfl hbody ih
  | code hbody _ ih =>
    exact .block rfl (properlyNested_of_leaves fun e he => e.isLeaf_of_isText (hbody e he)) ih
  | html hbody _ ih =>
    exact .block rfl (properlyNested_of_leaves fun e he => e.isLeaf_of_isSource (hbody e he)) ih
  | metadata hbody _ ih =>
    exact .block rfl (properlyNested_of_leaves fun e he => e.isLeaf_of_isText (hbody e he)) ih
  | @container tag _ _ htag _ _ ihbody ih =>
    exact .block (by cases tag <;> simp_all [Tag.isContainer, Tag.isInline, Tag.isTextBlock])
      ihbody ih
  | table hhead hrows _ ih =>
    exact .block rfl (.block rfl hhead.properlyNested hrows.properlyNested) ih

/-! ### The events of a document -/

mutual

theorem inlineOnly_events : ∀ i : Inline, InlineOnly i.events
  | .text _ => by rw [Inline.events]; exact .singleton rfl
  | .code _ => by rw [Inline.events]; exact .singleton rfl
  | .html _ => by rw [Inline.events]; exact .singleton rfl
  | .softBreak => by rw [Inline.events]; exact .singleton rfl
  | .hardBreak => by rw [Inline.events]; exact .singleton rfl
  | .taskMarker _ => by rw [Inline.events]; exact .singleton rfl
  | .emphasis body => by rw [Inline.events]; exact .within rfl (inlineOnly_inlineEvents body)
  | .strong body => by rw [Inline.events]; exact .within rfl (inlineOnly_inlineEvents body)
  | .strikethrough body => by rw [Inline.events]; exact .within rfl (inlineOnly_inlineEvents body)
  | .link _ body => by rw [Inline.events]; exact .within rfl (inlineOnly_inlineEvents body)
  | .image _ body => by rw [Inline.events]; exact .within rfl (inlineOnly_inlineEvents body)

/-- Inline content is read as inline events only. -/
theorem inlineOnly_inlineEvents : ∀ is : List Inline, InlineOnly (inlineEvents is)
  | [] => by rw [inlineEvents]; exact .nil
  | i :: is => by
    rw [inlineEvents]
    exact (inlineOnly_events i).append (inlineOnly_inlineEvents is)

end

theorem cellsOnly_cellEvents (cells : List (List Inline)) : CellsOnly (cellEvents cells) := by
  induction cells with
  | nil => exact .nil
  | cons cell cells ih => exact .cons (inlineOnly_inlineEvents cell) ih

theorem rowsOnly_rowEvents (rows : List (List (List Inline))) : RowsOnly (rowEvents rows) := by
  induction rows with
  | nil => exact .nil
  | cons row rows ih => exact .cons (cellsOnly_cellEvents row) ih

mutual

theorem shaped_events : ∀ b : Block (List Inline), Shaped b.events
  | .paragraph body => by
    rw [Block.events]
    exact .of_append_nil (.paragraph (inlineOnly_inlineEvents body) .nil)
  | .plain body => by
    rw [Block.events]
    exact (inlineOnly_inlineEvents body).shaped
  | .heading level body => by
    rw [Block.events]
    exact .of_append_nil (.heading (inlineOnly_inlineEvents body) .nil)
  | .blockquote body => by
    rw [Block.events]
    exact .of_append_nil (.container rfl (shaped_blockEvents body) .nil)
  | .list start items => by
    rw [Block.events]
    exact .of_append_nil (.container rfl (shaped_itemEvents items) .nil)
  | .code info source => by
    rw [Block.events]
    exact .of_append_nil (.code (by simp [Event.isText]) .nil)
  | .html source => by
    rw [Block.events]
    exact .of_append_nil (.html (by simp [Event.isSource]) .nil)
  | .rule => by
    rw [Block.events]
    exact .leaf rfl .nil
  | .table alignments head rows => by
    rw [Block.events]
    exact .of_append_nil (.table (cellsOnly_cellEvents head) (rowsOnly_rowEvents rows) .nil)
  | .metadata source => by
    rw [Block.events]
    exact .of_append_nil (.metadata (by simp [Event.isText]) .nil)

/-- **The events of a document are shaped.** -/
theorem shaped_blockEvents : ∀ bs : List (Block (List Inline)), Shaped (blockEvents bs)
  | [] => by rw [blockEvents]; exact .nil
  | b :: bs => by
    rw [blockEvents]
    exact (shaped_events b).append (shaped_blockEvents bs)

theorem shaped_itemEvents : ∀ items : List (List (Block (List Inline))), Shaped (itemEvents items)
  | [] => by rw [itemEvents]; exact .nil
  | item :: items => by
    rw [itemEvents]
    exact .container rfl (shaped_blockEvents item) (shaped_itemEvents items)

end

end Folio.Markdown
