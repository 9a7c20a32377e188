import Folio.Proofs.TableTokens

/-!
# The normal form of events

Some events say the same in different ways, and some leave nothing in the document.  The normal
form has one way to say each: metadata and footnotes are left out, the body of a code or an HTML
block is one text, mathematics is text, HTML outside of HTML blocks is inline, and texts in a row
are one text.

## Main definitions

* `restate` — the events but for texts in a row.
* `joinAdjacent` — the events with texts in a row joined.
* `normalForm` — the normal form.
* `Restates` — how events are restated, whatever follows them.

## Main results

* `Restates.append`, `Restates.container`, `Restates.code`, … — the events are restated block by
  block.
* `joinAdjacent_append_cons` — texts are joined between the events that are no texts.
-/

namespace Folio

namespace Markdown

/-! ### Restating events -/

/-- The words behind a code fence, without blanks around them. -/
def trimmedInfo : Option String → String
  | some s => String.ofList (Text.trim s.toList)
  | none => ""

/-- The alignments of as many columns as there are. -/
def columns : List Alignment → Nat → List Alignment
  | _, 0 => []
  | alignments, n + 1 => alignments.head?.getD .none :: columns alignments.tail n

/-- The number of cells up to the end of the head of a table. -/
def headCells : List Event → Nat
  | [] => 0
  | .finish .tableHead :: _ => 0
  | .start .tableCell :: es => headCells es + 1
  | _ :: es => headCells es

/-- How an event outside of code, HTML and metadata blocks is restated. -/
def Event.restated? : Event → Option Event
  | .inlineMath s | .displayMath s => some (.text s)
  | .html s => some (.inlineHtml s)
  | .footnoteReference _ | .start (.footnoteDefinition _) | .finish .footnoteDefinition => none
  | .start (.codeBlock info) => some (.start (.codeBlock (some (trimmedInfo info))))
  | e => some e

/-- Where an event stands. -/
inductive Place where
  | flow
  /-- In a code or an HTML block, behind this text. -/
  | source (text : String)
  | metadata

/-- The place behind an event that does not stand in a code, HTML or metadata block. -/
def Event.placeBehind : Event → Place
  | .start (.codeBlock _) | .start .htmlBlock => .source ""
  | .start .metadataBlock => .metadata
  | _ => .flow

/-- The events that stand at a place, restated. -/
def restateFrom : Place → List Event → List Event
  | _, [] => []
  | .metadata, .finish .metadataBlock :: es => restateFrom .flow es
  | .metadata, _ :: es => restateFrom .metadata es
  | .source s, .text t :: es | .source s, .html t :: es => restateFrom (.source (s ++ t)) es
  | .source s, e :: es => .text s :: e :: restateFrom .flow es
  | .flow, .start .metadataBlock :: es => restateFrom .metadata es
  | .flow, .start (.table alignments) :: es =>
    .start (.table (columns alignments (headCells es))) :: restateFrom .flow es
  | .flow, e :: es => e.restated?.toList ++ restateFrom e.placeBehind es

/-- The events without those that leave nothing in the document, each said in one way.  A table
keeps the alignments of the columns of its head. -/
def restate (es : List Event) : List Event := restateFrom .flow es

/-! ### Joining texts -/

/-- Events, last first, with one more.  Text behind text is joined to it. -/
def joinEvent (told : List Event) (e : Event) : List Event :=
  match told, e with
  | .text s :: before, .text t => .text (s ++ t) :: before
  | told, e => e :: told

/-- The events with texts in a row joined. -/
def joinAdjacent (es : List Event) : List Event := (es.foldl joinEvent []).reverse

/-- The normal form of events. -/
def normalForm (es : List Event) : List Event := joinAdjacent (restate es)

@[simp] theorem joinAdjacent_nil : joinAdjacent [] = [] := rfl

theorem joinEvent_of_not_text {e : Event} (he : e.isText = false) (told : List Event) :
    joinEvent told e = e :: told := by
  unfold joinEvent
  split
  · simp [Event.isText] at he
  · rfl

theorem joinEvent_cons_of_not_text {last : Event} (h : last.isText = false) (told : List Event)
    (e : Event) : joinEvent (last :: told) e = e :: last :: told := by
  unfold joinEvent
  split
  · next heq =>
    obtain ⟨rfl, -⟩ := List.cons.inj heq
    simp [Event.isText] at h
  · rfl

/-- Behind an event that is no text, events are joined as if nothing stood before them. -/
theorem joinEvent_append {last : Event} (h : last.isText = false) (told before : List Event)
    (e : Event) : joinEvent (told ++ last :: before) e = joinEvent told e ++ last :: before := by
  cases told with
  | nil => exact joinEvent_cons_of_not_text h before e
  | cons u told =>
    rw [List.cons_append]
    unfold joinEvent
    cases u <;> cases e <;> rfl

theorem foldl_joinEvent_append {last : Event} (h : last.isText = false) (before : List Event)
    (es : List Event) : ∀ told : List Event,
      es.foldl joinEvent (told ++ last :: before) = es.foldl joinEvent told ++ last :: before := by
  induction es with
  | nil => exact fun _ => rfl
  | cons e es ih =>
    intro told
    rw [List.foldl_cons, joinEvent_append h, ih, List.foldl_cons]

/-- **Texts are joined between the events that are no texts.** -/
theorem joinAdjacent_append_cons {e : Event} (he : e.isText = false) (xs ys : List Event) :
    joinAdjacent (xs ++ e :: ys) = joinAdjacent xs ++ e :: joinAdjacent ys := by
  have h := foldl_joinEvent_append he (xs.foldl joinEvent []) ys []
  rw [joinAdjacent, List.foldl_append, List.foldl_cons, joinEvent_of_not_text he]
  rw [List.nil_append] at h
  rw [h]
  simp [joinAdjacent]

theorem joinAdjacent_concat (es : List Event) (e : Event) :
    joinAdjacent (es ++ [e]) = (joinEvent (joinAdjacent es).reverse e).reverse := by
  simp [joinAdjacent, List.foldl_append]

theorem joinAdjacent_append_within (xs : List Event) (tag : Tag) (body ys : List Event) :
    joinAdjacent (xs ++ (within tag body ++ ys))
      = joinAdjacent xs ++ (within tag (joinAdjacent body) ++ joinAdjacent ys) := by
  have h := joinAdjacent_append_cons (e := .start tag) rfl xs (body ++ .finish tag.toEnd :: ys)
  rw [joinAdjacent_append_cons (e := .finish tag.toEnd) rfl body ys] at h
  simpa [within] using h

/-- The texts in the cells of a table are joined cell by cell. -/
theorem joinAdjacent_cellsOf (cells : List (List Event)) (ys : List Event) :
    joinAdjacent (cellsOf cells ++ ys)
      = cellsOf (cells.map joinAdjacent) ++ joinAdjacent ys := by
  induction cells with
  | nil => rfl
  | cons cell cells ih =>
    have h := joinAdjacent_append_within [] .tableCell cell (cellsOf cells ++ ys)
    rw [ih] at h
    simpa [cellsOf] using h

theorem joinAdjacent_rows (rows : List (List (List Event))) (ys : List Event) :
    joinAdjacent (rows.flatMap rowOf ++ ys)
      = (rows.map (List.map joinAdjacent)).flatMap rowOf ++ joinAdjacent ys := by
  induction rows with
  | nil => rfl
  | cons cells rows ih =>
    have h := joinAdjacent_append_within [] .tableRow (cellsOf cells) (rows.flatMap rowOf ++ ys)
    have hcells := joinAdjacent_cellsOf cells []
    rw [ih] at h
    rw [List.append_nil] at hcells
    rw [hcells] at h
    simpa [rowOf] using h

theorem joinAdjacent_append_tableOf (xs : List Event) (alignments : List Alignment)
    (head : List (List Event)) (rows : List (List (List Event))) :
    joinAdjacent (xs ++ tableOf alignments head rows) = joinAdjacent xs
      ++ tableOf alignments (head.map joinAdjacent) (rows.map (List.map joinAdjacent)) := by
  have h := joinAdjacent_append_within xs (.table alignments)
    (within .tableHead (cellsOf head) ++ rows.flatMap rowOf) []
  have hhead := joinAdjacent_append_within [] .tableHead (cellsOf head) (rows.flatMap rowOf)
  have hcells := joinAdjacent_cellsOf head []
  have hrows := joinAdjacent_rows rows []
  rw [List.append_nil] at hcells hrows
  rw [List.nil_append, hcells, hrows] at hhead
  rw [hhead] at h
  simpa [tableOf] using h

/-! ### Block by block -/

/-- The events are restated as `told`, whatever follows them. -/
def Restates (es told : List Event) : Prop := ∀ rest, restate (es ++ rest) = told ++ restate rest

theorem Restates.eq {es told : List Event} (h : Restates es told) : restate es = told := by
  have h := h []
  rwa [List.append_nil, restate, restate, restateFrom, List.append_nil] at h

theorem Restates.nil : Restates [] [] := fun _ => rfl

theorem Restates.append {es es' told told' : List Event} (h : Restates es told)
    (h' : Restates es' told') : Restates (es ++ es') (told ++ told') := fun rest => by
  rw [List.append_assoc, h, h', List.append_assoc]

/-- The event has nothing to do with code, HTML, metadata and tables. -/
def Event.isPlain : Event → Bool
  | .start (.codeBlock _) | .start .htmlBlock | .start .metadataBlock | .start (.table _) => false
  | _ => true

theorem restate_cons {e : Event} (he : e.isPlain = true) (es : List Event) :
    restate (e :: es) = e.restated?.toList ++ restate es := by
  cases e with
  | start tag => cases tag <;> first | rfl | simp [Event.isPlain] at he
  | finish tag => cases tag <;> rfl
  | _ => rfl

theorem Restates.leaf {e : Event} (he : e.isPlain = true) : Restates [e] e.restated?.toList :=
  fun rest => restate_cons he rest

theorem Restates.within {tag : Tag} {body told : List Event}
    (htag : (Event.start tag).isPlain = true)
    (h : Restates body told) : Restates (Markdown.within tag body)
      ((Event.start tag).restated?.toList ++ (told ++ (Event.finish tag.toEnd).restated?.toList)) :=
  (Restates.leaf htag).append (h.append (.leaf rfl))

theorem isPlain_of_isLeaf {e : Event} (he : e.isLeaf = true) : e.isPlain = true := by
  cases e <;> first | rfl | simp [Event.isLeaf] at he

/-- Inline events are restated one by one. -/
theorem restates_inlineOnly {es : List Event} (hes : InlineOnly es) :
    Restates es (es.filterMap Event.restated?) := by
  induction hes with
  | nil => exact .nil
  | @leaf e es he _ ih =>
    have h := (Restates.leaf (isPlain_of_isLeaf (Event.isLeaf_of_isInlineLeaf he))).append ih
    cases ht : e.restated? with
    | none => simpa [ht] using h
    | some t => simpa [ht] using h
  | @span tag body es htag _ _ ihbody ih =>
    have h : ∃ u, (Event.start tag).isPlain = true ∧ (Event.start tag).restated? = some u ∧
        (Event.finish tag.toEnd).restated? = some (.finish tag.toEnd) := by
      cases tag <;> first | exact ⟨_, rfl, rfl, rfl⟩ | simp [Tag.isInline] at htag
    obtain ⟨u, hplain, hstart, hfinish⟩ := h
    have h := (Restates.within hplain ihbody).append ih
    simpa [Markdown.within, hstart, hfinish] using h

theorem Restates.textBlock {tag : Tag} {body : List Event} (htag : tag.isTextBlock = true)
    (hbody : InlineOnly body) :
    Restates (Markdown.within tag body) (Markdown.within tag (body.filterMap Event.restated?)) := by
  cases tag <;> first
    | exact Restates.within rfl (restates_inlineOnly hbody)
    | simp [Tag.isTextBlock] at htag

theorem Restates.container {tag : Tag} {body told : List Event} (htag : tag.isContainer = true)
    (hnote : tag.opensBlock = true) (h : Restates body told) :
    Restates (Markdown.within tag body) (Markdown.within tag told) := by
  cases tag with
  | blockquote | list _ | item | definitionList | definitionTerm | definitionDetails =>
    exact Restates.within rfl h
  | footnoteDefinition _ => simp [Tag.opensBlock] at hnote
  | _ => simp [Tag.isContainer] at htag

theorem Restates.footnote {label : String} {body told : List Event} (h : Restates body told) :
    Restates (Markdown.within (.footnoteDefinition label) body) told := by
  have h := @Restates.within (.footnoteDefinition label) _ _ rfl h
  simpa [Event.restated?, Tag.toEnd] using h

theorem Restates.metadata {body : List Event} (hbody : ∀ e ∈ body, e.isText = true) :
    Restates (Markdown.within .metadataBlock body) [] := by
  have h : ∀ rest, restateFrom .metadata (body ++ .finish .metadataBlock :: rest)
      = restate rest := fun rest => by
    induction body with
    | nil => rfl
    | cons e body ih =>
      have he := hbody e List.mem_cons_self
      cases e <;> first
        | exact ih fun e' he' => hbody e' (List.mem_cons_of_mem _ he')
        | simp [Event.isText] at he
  intro rest
  simpa [Markdown.within, Tag.toEnd, restate, restateFrom] using h rest

/-- The text of the body of a code or an HTML block. -/
def sourceText : List Event → String
  | .text s :: es | .html s :: es => s ++ sourceText es
  | _ => ""

@[simp] theorem sourceText_nil : sourceText [] = "" := rfl

theorem restateFrom_source {body : List Event} (hbody : ∀ e ∈ body, e.isSource = true)
    (tag : TagEnd) (rest : List Event) : ∀ s, restateFrom (.source s) (body ++ .finish tag :: rest)
      = .text (s ++ sourceText body) :: .finish tag :: restate rest := by
  induction body with
  | nil => exact fun s => by simp [restateFrom, sourceText, restate]
  | cons e body ih =>
    intro s
    have ih := ih fun e' he' => hbody e' (List.mem_cons_of_mem _ he')
    have he := hbody e List.mem_cons_self
    cases e with
    | text t | html t =>
      simp only [List.cons_append, restateFrom, sourceText]
      rw [ih, String.append_assoc]
    | _ => simp [Event.isSource] at he

theorem Restates.code {info : Option String} {body : List Event}
    (hbody : ∀ e ∈ body, e.isText = true) : Restates (Markdown.within (.codeBlock info) body)
      [.start (.codeBlock (some (trimmedInfo info))), .text (sourceText body),
        .finish .codeBlock] := by
  have hsource : ∀ e ∈ body, e.isSource = true := fun e he => by
    have h := hbody e he
    cases e <;> first | rfl | simp [Event.isText] at h
  intro rest
  have h := restateFrom_source hsource .codeBlock rest ""
  simpa [Markdown.within, Tag.toEnd, restate, restateFrom, Event.restated?, Event.placeBehind]
    using h

theorem Restates.html {body : List Event} (hbody : ∀ e ∈ body, e.isSource = true) :
    Restates (Markdown.within .htmlBlock body)
      [.start .htmlBlock, .text (sourceText body), .finish .htmlBlock] := by
  intro rest
  have h := restateFrom_source hbody .htmlBlock rest ""
  simpa [Markdown.within, Tag.toEnd, restate, restateFrom, Event.restated?, Event.placeBehind]
    using h

/-! ### Tables -/

theorem headCells_inlineOnly {es : List Event} (hes : InlineOnly es) : ∀ rest : List Event,
    headCells (es ++ rest) = headCells rest := by
  induction hes with
  | nil => exact fun _ => rfl
  | @leaf e es he _ ih =>
    intro rest
    rw [List.cons_append, ← ih rest]
    cases e <;> first | rfl | simp [Event.isInlineLeaf] at he
  | @span tag body es htag _ _ ihbody ih =>
    intro rest
    rw [← ih rest]
    have h := ihbody (.finish tag.toEnd :: (es ++ rest))
    cases tag <;> first
      | simpa [Markdown.within, headCells, Tag.toEnd] using h
      | simp [Tag.isInline] at htag

theorem headCells_cellsOf {cells : List (List Event)} (hcells : HoldInlines cells)
    (rest : List Event) :
    headCells (cellsOf cells ++ .finish .tableHead :: rest) = cells.length := by
  induction cells with
  | nil => rfl
  | cons cell cells ih =>
    have hcell := headCells_inlineOnly (hcells cell List.mem_cons_self)
      (.finish .tableCell :: (cellsOf cells ++ .finish .tableHead :: rest))
    have ih := ih fun c hc => hcells c (List.mem_cons_of_mem _ hc)
    simp only [cellsOf, List.flatMap_cons, Markdown.within, Tag.toEnd, List.cons_append,
      List.append_assoc, List.nil_append, headCells, List.length_cons] at hcell ih ⊢
    rw [hcell, ih]

theorem restates_cellsOf {cells : List (List Event)} (hcells : HoldInlines cells) :
    Restates (cellsOf cells) (cellsOf (cells.map (List.filterMap Event.restated?))) := by
  induction cells with
  | nil => exact .nil
  | cons cell cells ih =>
    exact (Restates.textBlock rfl (hcells cell List.mem_cons_self)).append
      (ih fun c hc => hcells c (List.mem_cons_of_mem _ hc))

theorem restates_rows {rows : List (List (List Event))}
    (hrows : ∀ cells ∈ rows, HoldInlines cells) : Restates (rows.flatMap rowOf)
      ((rows.map (List.map (List.filterMap Event.restated?))).flatMap rowOf) := by
  induction rows with
  | nil => exact .nil
  | cons cells rows ih =>
    exact (Restates.within rfl (restates_cellsOf (hrows cells List.mem_cons_self))).append
      (ih fun c hc => hrows c (List.mem_cons_of_mem _ hc))

theorem Restates.table (alignments : List Alignment) {head : List (List Event)}
    {rows : List (List (List Event))} (hhead : HoldInlines head)
    (hrows : ∀ cells ∈ rows, HoldInlines cells) : Restates (tableOf alignments head rows)
      (tableOf (columns alignments head.length) (head.map (List.filterMap Event.restated?))
        (rows.map (List.map (List.filterMap Event.restated?)))) := by
  intro rest
  have hcount : headCells (Markdown.within .tableHead (cellsOf head) ++
      (rows.flatMap rowOf ++ .finish .table :: rest)) = head.length := by
    have h := headCells_cellsOf hhead (rows.flatMap rowOf ++ .finish .table :: rest)
    simpa [Markdown.within, headCells, Tag.toEnd] using h
  have hinside := ((@Restates.within .tableHead _ _ rfl (restates_cellsOf hhead)).append
    (restates_rows hrows)).append (Restates.leaf (e := .finish .table) rfl) rest
  simp only [tableOf, Markdown.within, Tag.toEnd, List.cons_append, List.append_assoc,
    List.nil_append, restate, restateFrom] at hcount hinside ⊢
  rw [hcount]
  simpa [Event.restated?] using hinside

end Markdown

end Folio
