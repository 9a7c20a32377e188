import Folio.Proofs.TokenReading

/-!
# Nothing is lost in the assembly

The tokens that are put together tell the events they come from.  Complete tokens tell what came
first, and the run that is being gathered tells the rest: whatever is open, the two together are
the normal form of the events so far.

## Main definitions

* `BeginsBlock` — a token that begins the block of a tag.
* `Assembly.Tells` — what has been put together tells these events.

## Main results

* `Assembly.Tells.shaped` — one stretch of events after the other is told.
* `readTokens_assemble` — **the tokens of shaped events are read back as the events**, in their
  normal form.
-/

namespace Folio

namespace Markdown

/-- The token begins the block of a tag. -/
structure BeginsBlock (tag : Tag) (t : Token) : Prop where
  nesting : t.nesting = .opening
  hidden : t.hidden = false
  head : t.kind ≠ .tableHead
  body : t.kind ≠ .tableBody
  reads : ∀ ahead, t.blockTag? ahead = some tag
  ends : t.kind.blockEnd? = some tag.toEnd

theorem beginsBlock_paragraph (l : Nat) : BeginsBlock .paragraph (.opening .paragraph l) :=
  ⟨rfl, rfl, nofun, nofun, fun _ => rfl, rfl⟩

theorem beginsBlock_heading (n l : Nat) : BeginsBlock (.heading n) (.opening (.heading n) l) :=
  ⟨rfl, rfl, nofun, nofun, fun _ => rfl, rfl⟩

theorem beginsBlock_listToken (start : Option Nat) (l : Nat) :
    BeginsBlock (.list start) (Assembly.listToken start l) := by
  unfold Assembly.listToken
  split
  · exact ⟨rfl, rfl, nofun, nofun, fun _ => rfl, rfl⟩
  · exact ⟨rfl, rfl, nofun, nofun, fun _ => rfl, rfl⟩
  · next n _ =>
    refine ⟨rfl, rfl, nofun, nofun, fun _ => ?_, rfl⟩
    have hstart : (Token.setAttr (.opening .orderedList l) "start" (toString n)).attr? "start"
        = some (toString n) := rfl
    rw [Token.blockTag?, Token.firstNumber?, hstart]
    exact congrArg (Option.map fun n => Tag.list (some n)) (readNumber?_toString n)

/-- A block that holds blocks begins with its token. -/
theorem beginsBlock_of_isContainer {tag : Tag} (h : tag.isContainer = true) :
    (∃ label, tag = .footnoteDefinition label) ∨ tag.opensBlock = true ∧
      (∀ a : Assembly, ∃ t, BeginsBlock tag t ∧ a.start tag = a.openBlock t) ∧
      ∀ a : Assembly, a.finishTag tag.toEnd = a.closeBlock := by
  cases tag with
  | footnoteDefinition label => exact .inl ⟨label, rfl⟩
  | list start =>
    exact .inr ⟨rfl, fun a => ⟨_, beginsBlock_listToken start a.level, rfl⟩, fun _ => rfl⟩
  | blockquote | item | definitionList | definitionTerm | definitionDetails =>
    refine .inr ⟨rfl, fun a => ⟨_, ?_, rfl⟩, fun _ => rfl⟩
    exact ⟨rfl, rfl, nofun, nofun, fun _ => rfl, rfl⟩
  | _ => simp [Tag.isContainer] at h

namespace Assembly

variable {inner inner' : List Kind} {told raw out : List Event} {a b : Assembly} {t : Token}

/-- What has been put together tells these events: the complete tokens do up to some event that is
no text, and the run tells the rest. -/
structure Tells (inner : List Kind) (told : List Event) (a : Assembly) : Prop where
  stack : a.stack = (hiddenKeys a.run).map Prod.fst ++ inner
  capture : a.capture = none
  read : ∃ done gathered, Reads false false a.tokens.reverse done ∧
    List.Forall₂ ReadAs a.runChildren gathered ∧ joinAdjacent told = done ++ gathered ∧
    ∀ e ∈ done.getLast?, e.isText = false

theorem tells_empty : Tells [] [] {} :=
  ⟨rfl, rfl, [], [], .nil false, .nil, rfl, by simp⟩

/-! ### The run -/

/-- An event behind the run is joined to the run and to nothing before it. -/
theorem joinAdjacent_concat_of_gathered {done gathered : List Event}
    (h : joinAdjacent told = done ++ gathered) (hlast : ∀ e ∈ done.getLast?, e.isText = false)
    (e : Event) :
    joinAdjacent (told ++ [e]) = done ++ (joinEvent gathered.reverse e).reverse := by
  rw [joinAdjacent_concat, h, List.reverse_append]
  rcases List.eq_nil_or_concat done with rfl | ⟨before, last, rfl⟩
  · simp
  · rw [List.concat_eq_append, List.reverse_append, List.reverse_singleton, List.singleton_append,
      joinEvent_append (hlast last (by simp))]
    simp

theorem Tells.stack_pushInline (h : Tells inner told a) (t : Token) :
    (a.pushInline t).stack = (hiddenKeys (a.pushInline t).run).map Prod.fst ++ inner := by
  have hstack := h.stack
  rcases hr : a.run with _ | ⟨children, _ | _⟩ <;> rw [hr] at hstack
  · rw [pushInline_of_none hr]
    exact congrArg (Kind.paragraph :: ·) hstack
  · rw [pushInline_of_some hr]
    exact hstack
  · rw [pushInline_of_some hr]
    exact hstack

/-- The hidden paragraph of a run is passed over. -/
theorem reads_pushInline {done : List Event} (h : Reads false false a.tokens.reverse done)
    (t : Token) : Reads false false (a.pushInline t).tokens.reverse done := by
  cases hr : a.run with
  | some run => rwa [pushInline_of_some hr]
  | none =>
    rw [pushInline_of_none hr]
    simp only [push, List.reverse_cons]
    simpa using h.append (.added (t := { Token.opening .paragraph a.level with hidden := true })
      rfl (by simp [Token.opening]))

theorem Tells.pushInline {e : Event} (h : Tells inner told a) (ht : ReadAs t e) :
    Tells inner (told ++ [e]) (a.pushInline t) := by
  obtain ⟨done, gathered, hdone, hgathered, htold, hlast⟩ := h.read
  refine ⟨h.stack_pushInline t, by rw [capture_pushInline, h.capture], done, _,
    reads_pushInline hdone t, ?_, joinAdjacent_concat_of_gathered htold hlast e, hlast⟩
  rw [runChildren_pushInline]
  exact List.rel_reverse (readAs_addInline (List.rel_reverse hgathered) ht)

/-- Inline events are told. -/
theorem Tells.inlineOnly {es : List Event} (hes : InlineOnly es) (h : Tells inner told a) :
    Tells inner (told ++ es.filterMap Event.restated?) (es.foldl event a) := by
  rw [foldl_inlineOnly_of_capture hes h.capture]
  have hread := readAs_inlineOnly hes
  generalize es.filterMap Event.inlineToken? = ts at hread
  generalize es.filterMap Event.restated? = raw at hread
  induction hread generalizing told a with
  | nil => rwa [List.append_nil]
  | @cons t e ts raw ht _ ih => simpa using ih (h.pushInline ht)

/-! ### Blocks -/

/-- With the run completed, the tokens tell everything. -/
theorem Tells.flush (h : Tells inner told a) :
    a.flush.stack = inner ∧ Reads false false a.flush.tokens.reverse (joinAdjacent told) := by
  obtain ⟨done, gathered, hdone, hgathered, htold, -⟩ := h.read
  have hstack := h.stack
  rw [htold]
  rcases hr : a.run with _ | ⟨children, _ | _⟩ <;> rw [hr] at hstack <;>
    simp only [runChildren, hr] at hgathered
  · rw [flush_of_none hr]
    cases hgathered
    exact ⟨hstack, by rwa [List.append_nil]⟩
  · rw [flush_of_explicit hr]
    refine ⟨hstack, ?_⟩
    simp only [push, List.reverse_cons]
    exact hdone.append (.run hgathered _)
  · rw [flush_of_implicit hr]
    refine ⟨by simp [push, hstack, hiddenKeys], ?_⟩
    simp only [push, List.reverse_cons]
    simpa using (hdone.append (.run hgathered a.level)).append
      (.added (t := { Token.closing .paragraph (a.level - 1) with hidden := true }) rfl
        (by simp [Token.closing]))

/-- Tokens behind the run tell what they are read as. -/
theorem Tells.blocks {ts : List Token} {last : Event} (h : Tells inner told a)
    (hstack : b.stack = inner') (hcapture : b.capture = none) (hkeys : hiddenKeys b.run = [])
    (hrun : b.runChildren = []) (htokens : b.tokens = ts.reverse ++ a.flush.tokens)
    (hts : Reads false false ts (out ++ [last])) (hlast : last.isText = false)
    (hjoin : joinAdjacent (told ++ raw) = joinAdjacent told ++ (out ++ [last])) :
    Tells inner' (told ++ raw) b := by
  refine ⟨by rw [hkeys, hstack]; rfl, hcapture, _, [], ?_, by rw [hrun]; exact .nil,
    by rw [hjoin, List.append_nil], ?_⟩
  · rw [htokens, List.reverse_append, List.reverse_reverse]
    exact h.flush.2.append hts
  · intro e he
    rw [← List.append_assoc, List.getLast?_concat, Option.mem_some_iff] at he
    exact he ▸ hlast

theorem joinAdjacent_concat_of_not_text {e : Event} (he : e.isText = false) (told : List Event) :
    joinAdjacent (told ++ [e]) = joinAdjacent told ++ [e] := by
  rw [joinAdjacent_append_cons he, joinAdjacent_nil]

/-- One token behind the run tells one event that is no text. -/
theorem Tells.block {e : Event} (h : Tells inner told a) (hstack : b.stack = inner')
    (hcapture : b.capture = none) (hrun : b.run = none ∨ b.run = some ⟨[], false⟩)
    (htokens : b.tokens = t :: a.flush.tokens) (ht : Reads false false [t] [e])
    (he : e.isText = false) : Tells inner' (told ++ [e]) b := by
  have hts : Reads false false [t] ([] ++ [e]) := ht
  refine h.blocks hstack hcapture ?_ ?_ ?_ hts he (joinAdjacent_concat_of_not_text he told)
  · rcases hrun with hrun | hrun <;> rw [hrun] <;> rfl
  · rcases hrun with hrun | hrun <;> simp [runChildren, hrun]
  · exact htokens

theorem Tells.openBlock {tag : Tag} (h : Tells inner told a) (ht : BeginsBlock tag t) :
    Tells (t.kind :: inner) (told ++ [Event.start tag]) (a.openBlock t) := by
  have hread := Reads.opening (b := false) ht.nesting (by simp [Token.isAdded, ht.hidden, ht.body])
    ht.reads
  rw [headBehind_of_ne ht.head] at hread
  exact h.block (congrArg (t.kind :: ·) h.flush.1) (a.capture_flush.trans h.capture)
    (.inl (a.run_openBlock t)) rfl hread rfl

theorem Tells.closeBlock {tag : Tag} (h : Tells (t.kind :: inner) told a) (ht : BeginsBlock tag t) :
    Tells inner (told ++ [Event.finish tag.toEnd]) a.closeBlock := by
  have hread := Reads.closing (b := false) (t := .closing t.kind inner.length) rfl
    (by simp [Token.isAdded, Token.closing, ht.body]) ht.ends
  rw [headBehind_of_ne (show (Token.closing t.kind inner.length).kind ≠ _ from ht.head)] at hread
  rw [closeBlock_of_cons h.flush.1]
  exact h.block rfl (a.capture_flush.trans h.capture) (.inl a.run_flush) rfl hread rfl

theorem Tells.startRun (h : Tells inner told a) (hrun : a.run = none) :
    Tells inner told a.startRun := by
  obtain ⟨done, gathered, hdone, hgathered, htold, hlast⟩ := h.read
  have hstack := h.stack
  rw [hrun] at hstack
  rw [runChildren, hrun] at hgathered
  exact ⟨hstack, h.capture, done, gathered, hdone, hgathered, htold, hlast⟩

theorem Tells.rule (h : Tells inner told a) :
    Tells inner (told ++ [Event.rule]) (a.event .rule) :=
  h.block h.flush.1 (a.capture_flush.trans h.capture) (.inl a.run_flush) rfl
    (.token (t := .leaf .rule a.flush.level) fun _ => rfl) rfl

/-- A block of inline events is told as the block. -/
theorem Tells.textBlock {tag : Tag} {body : List Event} (h : Tells inner told a)
    (ht : BeginsBlock tag t) (hbody : InlineOnly body)
    (hstart : a.start tag = (a.openBlock t).startRun)
    (hfinish : ∀ a : Assembly, a.finishTag tag.toEnd = a.closeBlock) :
    Tells inner (told ++ within tag (body.filterMap Event.restated?))
      ((within tag body).foldl event a) := by
  have hrun := (h.openBlock ht).startRun (a.run_openBlock t)
  have hclose := (hrun.inlineOnly hbody).closeBlock ht
  rw [foldl_within_eq, hstart, hfinish]
  simpa [within] using hclose

/-! ### Blocks of source -/

/-- The event is text of the block that is captured. -/
def Capture.accepts : Capture → Event → Bool
  | .html _, e => e.isSource
  | _, e => e.isText

/-- The texts of a block are captured. -/
theorem foldl_captures {body : List Event} : ∀ {a : Assembly} {c : Capture},
    a.capture = some c → (∀ e ∈ body, Capture.accepts c e = true) →
      body.foldl event a = { a with capture := some (Capture.append c (sourceText body)) } := by
  induction body with
  | nil =>
    intro a c h _
    have hc : Capture.append c (sourceText []) = c := by
      cases c with
      | code fence =>
        cases fence
        simp [Capture.append]
      | html _ | metadata _ => simp [Capture.append]
    rw [List.foldl_nil, hc, ← h]
  | cons e body ih =>
    intro a c h hbody
    have he := hbody e List.mem_cons_self
    -- The event adds its text, and what is captured is of the same kind as before.
    obtain ⟨s, hevent, hsource⟩ : ∃ s, a.event e = { a with capture := some (Capture.append c s) } ∧
        sourceText (e :: body) = s ++ sourceText body := by
      cases e with
      | text s => exact ⟨s, text_of_capture h s, rfl⟩
      | html s =>
        cases c with
        | html t => exact ⟨s, by rw [event, h]; rfl, rfl⟩
        | code _ | metadata _ => simp [Capture.accepts, Event.isText] at he
      | _ => cases c <;> simp [Capture.accepts, Event.isText, Event.isSource] at he
    have hc : ∀ e' ∈ body, Capture.accepts (Capture.append c s) e' = true := fun e' he' => by
      have h' := hbody e' (List.mem_cons_of_mem e he')
      cases c <;> exact h'
    rw [List.foldl_cons, hevent, ih rfl hc, hsource]
    cases c <;> simp [Capture.append, String.append_assoc]

theorem joinAdjacent_append_source (told : List Event) (tag : Tag) (s : String) :
    joinAdjacent (told ++ within tag [.text s]) = joinAdjacent told ++ within tag [.text s] := by
  have h := joinAdjacent_append_within told tag [.text s] []
  rwa [List.append_nil, joinAdjacent_nil, List.append_nil] at h

/-- A block of source is told by one token. -/
theorem Tells.source {tag : Tag} {s : String} (h : Tells inner told a)
    (hb : b = { a.flush with capture := none }.push t)
    (ht : ∀ ahead, t.events? false ahead = some (within tag [.text s])) (hk : t.kind ≠ .tableHead) :
    Tells inner (told ++ within tag [.text s]) b := by
  have hread : Reads false false [t]
      ([Event.start tag, Event.text s] ++ [Event.finish tag.toEnd]) := by
    have h := Reads.token ht
    rwa [headBehind_of_ne hk] at h
  subst hb
  refine h.blocks h.flush.1 rfl ?_ ?_ rfl hread rfl (joinAdjacent_append_source told tag s)
  · simp [push, run_flush, hiddenKeys]
  · simp [push, runChildren, run_flush]

theorem Tells.code {info : Option String} {body : List Event}
    (hbody : ∀ e ∈ body, e.isText = true) (h : Tells inner told a) :
    Tells inner (told ++ within (.codeBlock (some (trimmedInfo info))) [.text (sourceText body)])
      ((within (.codeBlock info) body).foldl event a) := by
  refine h.source (t := { Token.leaf .fence a.flush.level with
    info := trimmedInfo info, content := sourceText body }) ?_ (fun _ => rfl) nofun
  rw [foldl_within_eq, foldl_captures (a := a.start (.codeBlock info)) rfl hbody]
  simp only [start, Tag.toEnd, finishTag, endCapture, Capture.append]
  cases info <;> simp [push, trimmedInfo, Token.leaf]

theorem Tells.html {body : List Event} (hbody : ∀ e ∈ body, e.isSource = true)
    (h : Tells inner told a) :
    Tells inner (told ++ within .htmlBlock [.text (sourceText body)])
      ((within .htmlBlock body).foldl event a) := by
  refine h.source (t := { Token.leaf .htmlBlock a.flush.level with content := sourceText body })
    ?_ (fun _ => rfl) nofun
  rw [foldl_within_eq, foldl_captures (a := a.start .htmlBlock) rfl hbody]
  simp [start, Tag.toEnd, finishTag, endCapture, Capture.append, push, level]

theorem Tells.metadata {body : List Event} (hbody : ∀ e ∈ body, e.isText = true)
    (h : Tells inner told a) : Tells inner told ((within .metadataBlock body).foldl event a) := by
  obtain ⟨metadata, hfold⟩ := foldl_metadata hbody a
  rw [hfold]
  exact ⟨h.stack, rfl, h.read⟩

/-! ### Tables -/

theorem readAs_cells {cells : List (List Event)} (hcells : HoldInlines cells) :
    List.Forall₂ (List.Forall₂ ReadAs) (cells.map runTokens) (cells.map runEvents) := by
  rw [List.forall₂_map_left_iff, List.forall₂_map_right_iff, List.forall₂_same]
  exact fun cell hc => readAs_runTokens (hcells cell hc)

theorem readAs_rows {rows : List (List (List Event))} (hrows : ∀ cells ∈ rows, HoldInlines cells) :
    List.Forall₂ (List.Forall₂ (List.Forall₂ ReadAs)) (rows.map (List.map runTokens))
      (rows.map (List.map runEvents)) := by
  rw [List.forall₂_map_left_iff, List.forall₂_map_right_iff, List.forall₂_same]
  exact fun cells hc => readAs_cells (hrows cells hc)

theorem Tells.table (alignments : List Alignment) {head : List (List Event)}
    {rows : List (List (List Event))} (hhead : HoldInlines head)
    (hrows : ∀ cells ∈ rows, HoldInlines cells) (h : Tells inner told a) :
    Tells inner (told ++ tableOf (columns alignments head.length)
        (head.map (List.filterMap Event.restated?))
        (rows.map (List.map (List.filterMap Event.restated?))))
      ((tableOf alignments head rows).foldl event a) := by
  obtain ⟨inHead, inRows, table, column, c, capture, hfold, htable, hinHead, hinRows⟩ :=
    a.foldl_table alignments hhead hrows
  obtain ⟨rfl, rfl⟩ := hinHead.2 h.capture
  obtain ⟨rfl, rfl⟩ := hinRows.2 rfl
  have hread := reads_table htable (readAs_cells hhead) (readAs_rows hrows)
  have hjoin := joinAdjacent_append_tableOf told (columns alignments head.length)
    (head.map (List.filterMap Event.restated?))
    (rows.map (List.map (List.filterMap Event.restated?)))
  simp only [List.map_map, Function.comp_def, List.length_map] at hread hjoin
  -- The last event of a table is its end.
  have hend : ∀ als head rows, tableOf als head rows
      = (.start (.table als) :: (within .tableHead (cellsOf head) ++ rows.flatMap rowOf))
        ++ [Event.finish .table] := fun _ _ _ => rfl
  rw [hend] at hread
  rw [hfold]
  refine h.blocks h.flush.1 rfl (by simp [run_flush, hiddenKeys])
    (by simp [runChildren, run_flush]) rfl hread rfl ?_
  rw [← hend]
  exact hjoin

/-! ### Shaped events -/

/-- **One stretch of shaped events after the other is told**, each as it is restated. -/
theorem Tells.shaped {es : List Event} (hes : Shaped es) : ∃ raw, Restates es raw ∧
    ∀ {a : Assembly} {inner : List Kind} {told : List Event}, Tells inner told a →
      Tells inner (told ++ raw) (es.foldl event a) := by
  induction hes with
  | nil => exact ⟨[], .nil, fun h => by simpa using h⟩
  | @leaf e es he _ ih =>
    obtain ⟨raw, hraw, ih⟩ := ih
    refine ⟨_, (Restates.leaf (isPlain_of_isLeaf he)).append hraw, fun {a inner told} h => ?_⟩
    rw [← List.append_assoc, List.foldl_cons]
    refine ih ?_
    by_cases hi : e.isInlineLeaf = true
    · have hone := h.inlineOnly (.singleton hi)
      cases hr : e.restated? <;> simpa [hr] using hone
    · have hrule : e = .rule := by cases e <;> simp_all [Event.isLeaf, Event.isInlineLeaf]
      subst hrule
      exact h.rule
  | span htag hbody _ ih =>
    obtain ⟨raw, hraw, ih⟩ := ih
    have hspan := InlineOnly.within htag hbody
    refine ⟨_, (restates_inlineOnly hspan).append hraw, fun h => ?_⟩
    rw [← List.append_assoc, List.foldl_append]
    exact ih (h.inlineOnly hspan)
  | paragraph hbody _ ih =>
    obtain ⟨raw, hraw, ih⟩ := ih
    refine ⟨_, (Restates.textBlock rfl hbody).append hraw, fun h => ?_⟩
    rw [← List.append_assoc, List.foldl_append]
    exact ih (h.textBlock (beginsBlock_paragraph _) hbody rfl fun _ => rfl)
  | heading hbody _ ih =>
    obtain ⟨raw, hraw, ih⟩ := ih
    refine ⟨_, (Restates.textBlock rfl hbody).append hraw, fun h => ?_⟩
    rw [← List.append_assoc, List.foldl_append]
    exact ih (h.textBlock (beginsBlock_heading _ _) hbody rfl fun _ => rfl)
  | code hbody _ ih =>
    obtain ⟨raw, hraw, ih⟩ := ih
    refine ⟨_, (Restates.code hbody).append hraw, fun h => ?_⟩
    rw [← List.append_assoc, List.foldl_append]
    exact ih (h.code hbody)
  | html hbody _ ih =>
    obtain ⟨raw, hraw, ih⟩ := ih
    refine ⟨_, (Restates.html hbody).append hraw, fun h => ?_⟩
    rw [← List.append_assoc, List.foldl_append]
    exact ih (h.html hbody)
  | metadata hbody _ ih =>
    obtain ⟨raw, hraw, ih⟩ := ih
    refine ⟨_, (Restates.metadata hbody).append hraw, fun h => ?_⟩
    rw [List.nil_append, List.foldl_append]
    exact ih (h.metadata hbody)
  | @container tag body es htag hbody _ ihbody ih =>
    obtain ⟨raw, hraw, ih⟩ := ih
    obtain ⟨rawBody, hrawBody, ihbody⟩ := ihbody
    rcases beginsBlock_of_isContainer htag with ⟨label, rfl⟩ | ⟨hopens, hstart, hfinish⟩
    · refine ⟨_, hrawBody.footnote.append hraw, fun h => ?_⟩
      rw [← List.append_assoc, List.foldl_append, foldl_within_eq]
      exact ih (ihbody h)
    · refine ⟨_, (Restates.container htag hopens hrawBody).append hraw, fun {a _ _} h => ?_⟩
      obtain ⟨t, ht, hstart⟩ := hstart a
      rw [← List.append_assoc, List.foldl_append, foldl_within_eq, hstart, hfinish]
      refine ih ?_
      simpa [within] using (ihbody (h.openBlock ht)).closeBlock ht
  | table hhead hrows _ ih =>
    obtain ⟨raw, hraw, ih⟩ := ih
    obtain ⟨head, hcells, rfl⟩ := hhead.exists_eq
    obtain ⟨rows, hrowCells, rfl⟩ := hrows.exists_eq
    refine ⟨_, (Restates.table _ hcells hrowCells).append hraw, fun h => ?_⟩
    rw [← List.append_assoc, List.foldl_append]
    exact ih (h.table _ hcells hrowCells)

/-- Finishing completes the run and no more. -/
theorem Tells.finish (h : Tells [] told a) :
    readTokens a.finish.tokens.reverse = some (joinAdjacent told) := by
  have hfinish : a.finish = a.flush := by simp [Assembly.finish, h.flush.1, closeAll]
  rw [hfinish]
  exact h.flush.2.readTokens

end Assembly

/-- **Nothing is lost in the assembly.**  Read back in order, the tokens of shaped events are the
events in their normal form. -/
theorem readTokens_assemble {events : List Event} (h : Shaped events) :
    readTokens (assemble events).1 = some (normalForm events) := by
  obtain ⟨raw, hraw, htells⟩ := Assembly.Tells.shaped h
  rw [normalForm, hraw.eq]
  exact (htells Assembly.tells_empty).finish

/-- Front matter, a quote with a heading in three parts, a numbered list with an item that holds
text and a table, and a code block. -/
def mixedBlocks : List Event :=
  within .metadataBlock [.text "title: x"] ++
  (within .blockquote (within (.heading 2) [.text "a", .inlineMath "b", .html "<i>"]) ++
  (within (.list (some 3)) (within .item ([Event.text "c"] ++
    tableOf [.right, .left] [[.code "d"]] [[within (.link ⟨"e", "f"⟩) [.text "g"]]])) ++
  within (.codeBlock (some " rust ")) [.text "h", .text "i"]))

theorem shaped_mixedBlocks : Shaped mixedBlocks := by
  have hhead : CellsOnly (cellsOf [[.code "d"]]) := .cons (.singleton rfl) .nil
  have hrows : RowsOnly ([[within (.link ⟨"e", "f"⟩) [.text "g"]]].flatMap rowOf) :=
    .cons (.cons (.within rfl (.singleton rfl)) .nil) .nil
  have htable : Shaped (tableOf [.right, .left] [[.code "d"]]
      [[within (.link ⟨"e", "f"⟩) [.text "g"]]] ++ []) := .table hhead hrows .nil
  have hcode : Shaped (within (.codeBlock (some " rust ")) [.text "h", .text "i"] ++ []) :=
    .code (by decide) .nil
  rw [List.append_nil] at htable hcode
  refine .metadata (by decide) (.container rfl (.of_append_nil (.heading ?_ .nil)) ?_)
  · exact .leaf rfl (.leaf rfl (.leaf rfl .nil))
  · exact .container rfl (.of_append_nil (.container rfl (.leaf rfl htable) .nil)) hcode

/-- All of it but the front matter and the second alignment is read back. -/
theorem readTokens_assemble_mixedBlocks : readTokens (assemble mixedBlocks).1 = some
    (within .blockquote (within (.heading 2) [.text "ab", .inlineHtml "<i>"]) ++
    within (.list (some 3)) (within .item ([Event.text "c"] ++
      tableOf [.right] [[.code "d"]] [[within (.link ⟨"e", "f"⟩) [.text "g"]]])) ++
    within (.codeBlock (some "rust")) [.text "hi"]) := by
  rw [readTokens_assemble shaped_mixedBlocks]
  decide

end Markdown

end Folio
