import Folio.Proofs.AssemblyBalance

/-!
# What is assembled from shaped events

In a shaped sequence what happens between the start and the end of a tag leaves alone what was
open before, so each end closes the blocks that its own start has opened.

## Main definitions

* `Assembly.IsBlockInvariant` — what is preserved between the blocks of a shaped sequence.
* `Token.ClosedBy` — two tokens are the ends of one block.
* `Encloses` — the tokens that a tag and its content lead to.

## Main results

* `Assembly.IsBlockInvariant.shaped` — blocks leave open what they found open.
* `Assembly.exists_encloses` — **the blocks that a start opens are closed at its end.**
-/

namespace Folio

open BracketOf (IsBalanced)

/-- Two tokens are the ends of one block. -/
structure Token.ClosedBy (o c : Token) : Prop where
  opening : o.nesting = .opening
  closing : c.nesting = .closing
  shown : c.shown = o.shown

namespace Markdown

/-- The start of the tag opens blocks. -/
def Tag.opensBlock : Tag → Bool
  | .paragraph | .heading _ | .blockquote | .list _ | .item | .definitionList | .definitionTerm
  | .definitionDetails | .table _ | .tableHead | .tableRow | .tableCell => true
  | _ => false

/-- The tokens that a tag leads to: what completes the run before it, the blocks that it opens,
what stands in them, and the ends of the blocks.  The first row of a table opens the body of the
table beforehand. -/
structure Encloses (tag : Tag) (ready opened inside closed : List Token) : Prop where
  ready : ∀ t ∈ ready, t.nesting = .opening → tag = .tableRow ∧ t.kind = .tableBody
  nonempty : opened ≠ []
  ends : List.Forall₂ Token.ClosedBy opened closed.reverse
  inside : IsBalanced (shownBrackets inside)

namespace Assembly

variable {below : List Token} {outer inner : List Kind} {a : Assembly}

/-! ### What the tags do -/

theorem start_container {tag : Tag} (h : tag.isContainer = true) :
    (tag.opensBlock = false ∧ ∀ a : Assembly, a.start tag = a ∧ a.finishTag tag.toEnd = a) ∨
      (∀ a : Assembly, ∃ t : Token, t.nesting = .opening ∧ t.hidden = false ∧ t.level = a.level ∧
        a.start tag = a.openBlock t) ∧
      ∀ a : Assembly, a.finishTag tag.toEnd = a.closeBlock := by
  cases tag with
  | footnoteDefinition label => exact .inl ⟨rfl, fun _ => ⟨rfl, rfl⟩⟩
  | list start =>
    refine .inr ⟨fun a => ?_, fun _ => rfl⟩
    obtain ⟨hn, -, -, hh, hl⟩ := listToken_spec start a.level
    exact ⟨_, hn, hh, hl, rfl⟩
  | blockquote | item | definitionList | definitionTerm | definitionDetails =>
    exact .inr ⟨fun a => ⟨_, rfl, rfl, rfl, rfl⟩, fun _ => rfl⟩
  | _ => simp [Tag.isContainer] at h

theorem start_textBlock {tag : Tag} (h : tag.isTextBlock = true) :
    (∀ a : Assembly, ∃ t : Token, t.nesting = .opening ∧ t.hidden = false ∧ t.level = a.level ∧
      a.start tag = (a.openBlock t).startRun) ∧
    ∀ a : Assembly, ∃ column, a.finishTag tag.toEnd = { a.closeBlock with column } := by
  cases tag with
  | paragraph | heading _ => exact ⟨fun a => ⟨_, rfl, rfl, rfl, rfl⟩, fun a => ⟨_, rfl⟩⟩
  | tableCell =>
    refine ⟨fun a => ?_, fun a => ⟨_, rfl⟩⟩
    simp only [start]
    split <;> exact ⟨_, rfl, rfl, rfl, rfl⟩
  | _ => simp [Tag.isTextBlock] at h

/-- The capture with more text. -/
def Capture.append : Capture → String → Capture
  | .code fence, s => .code { fence with content := fence.content ++ s }
  | .html t, s => .html (t ++ s)
  | .metadata t, s => .metadata (t ++ s)

theorem text_of_capture {c : Capture} (h : a.capture = some c) (s : String) :
    a.text s = { a with capture := some (Capture.append c s) } := by
  cases c <;> simp only [text, h, Capture.append]

/-- The event is captured, and the capture goes on to be one of `K`. -/
def Captures (K : Capture → Prop) (e : Event) : Prop :=
  ∀ (a : Assembly) (c : Capture), a.capture = some c → K c →
    ∃ c', K c' ∧ a.event e = { a with capture := some c' }

/-- Events that are captured change nothing but the capture. -/
theorem foldl_captured {K : Capture → Prop} {body : List Event}
    (hK : ∀ e ∈ body, Captures K e) : ∀ (a : Assembly) (c : Capture), a.capture = some c → K c →
      ∃ c', K c' ∧ body.foldl event a = { a with capture := some c' } := by
  induction body with
  | nil => exact fun a c ha hc => ⟨c, hc, by rw [← ha]; rfl⟩
  | cons e body ih =>
    intro a c ha hc
    obtain ⟨c₁, hc₁, he⟩ := hK e List.mem_cons_self a c ha hc
    obtain ⟨c₂, hc₂, hbody⟩ := ih (fun e' he' => hK e' (List.mem_cons_of_mem e he'))
      { a with capture := some c₁ } c₁ rfl hc₁
    exact ⟨c₂, hc₂, by rw [List.foldl_cons, he, hbody]⟩

theorem foldl_within_eq (tag : Tag) (body : List Event) (a : Assembly) :
    (within tag body).foldl event a = (body.foldl event (a.start tag)).finishTag tag.toEnd := by
  rw [← List.append_nil (within tag body), foldl_within]
  rfl

/-- A code block becomes one token at the current level. -/
theorem foldl_code {info : Option String} {body : List Event} (hbody : ∀ e ∈ body, e.isText = true)
    (a : Assembly) : ∃ t : Token, t.nesting = .single ∧ t.level = a.flush.level ∧
      (within (.codeBlock info) body).foldl event a = { a.flush with capture := none }.push t := by
  have hK : ∀ e ∈ body, Captures
      (fun c => ∃ t : Token, c = .code t ∧ t.nesting = .single ∧ t.level = a.flush.level) e := by
    rintro e he b c hb ⟨t, rfl, hn, hl⟩
    cases e with
    | text s => exact ⟨_, ⟨{ t with content := t.content ++ s }, rfl, hn, hl⟩, text_of_capture hb s⟩
    | _ => simpa [Event.isText] using hbody _ he
  obtain ⟨c, ⟨t, rfl, hn, hl⟩, hfold⟩ :=
    foldl_captured hK (a.start (.codeBlock info)) _ rfl ⟨_, rfl, rfl, rfl⟩
  refine ⟨t, hn, hl, ?_⟩
  rw [foldl_within_eq, hfold]
  rfl

/-- An HTML block becomes one token at the current level. -/
theorem foldl_html {body : List Event} (hbody : ∀ e ∈ body, e.isSource = true) (a : Assembly) :
    ∃ t : Token, t.nesting = .single ∧ t.level = a.flush.level ∧
      (within .htmlBlock body).foldl event a = { a.flush with capture := none }.push t := by
  have hK : ∀ e ∈ body, Captures (fun c => ∃ s, c = .html s) e := by
    rintro e he b c hb ⟨s, rfl⟩
    cases e with
    | text t => exact ⟨_, ⟨s ++ t, rfl⟩, text_of_capture hb t⟩
    | html t => exact ⟨_, ⟨s ++ t, rfl⟩, by rw [event, hb]⟩
    | _ => simpa [Event.isSource] using hbody _ he
  obtain ⟨c, ⟨s, rfl⟩, hfold⟩ := foldl_captured hK (a.start .htmlBlock) _ rfl ⟨_, rfl⟩
  refine ⟨{ Token.leaf .htmlBlock a.flush.level with content := s }, rfl, rfl, ?_⟩
  rw [foldl_within_eq, hfold]
  rfl

/-- A metadata block leaves the tokens alone. -/
theorem foldl_metadata {body : List Event} (hbody : ∀ e ∈ body, e.isText = true) (a : Assembly) :
    ∃ metadata, (within .metadataBlock body).foldl event a
      = { a with capture := none, metadata } := by
  have hK : ∀ e ∈ body, Captures (fun c => ∃ s, c = .metadata s) e := by
    rintro e he b c hb ⟨s, rfl⟩
    cases e with
    | text t => exact ⟨_, ⟨s ++ t, rfl⟩, text_of_capture hb t⟩
    | _ => simpa [Event.isText] using hbody _ he
  obtain ⟨c, ⟨s, rfl⟩, hfold⟩ := foldl_captured hK (a.start .metadataBlock) _ rfl ⟨_, rfl⟩
  refine ⟨s :: a.metadata, ?_⟩
  rw [foldl_within_eq, hfold]
  rfl

/-! ### Invariants of blocks -/

/-- What is preserved between the blocks of a shaped sequence, where `inner` are the kinds of the
blocks that are open. -/
structure IsBlockInvariant (P : List Kind → Assembly → Prop) : Prop where
  note : ∀ {inner} {a b : Assembly}, P inner a → b.tokens = a.tokens → b.stack = a.stack →
    b.run = a.run → b.capture = a.capture → P inner b
  capture : ∀ {inner} {a : Assembly} {c}, P inner a → Capture.Continues a.capture c →
    P inner { a with capture := c }
  openBlock : ∀ {inner} {a : Assembly} {t : Token}, P inner a → t.nesting = .opening →
    t.hidden = false → t.level = a.level → P (t.kind :: inner) (a.openBlock t)
  startRun : ∀ {inner} {a : Assembly}, P inner a → a.run = none → P inner a.startRun
  closeBlock : ∀ {inner kind} {a : Assembly}, P (kind :: inner) a → P inner a.closeBlock
  pushInline : ∀ {inner} {a : Assembly} (t : Token), P inner a → P inner (a.pushInline t)
  leaf : ∀ {inner} {a : Assembly} {t : Token} {c}, P inner a → t.nesting = .single →
    t.level = a.flush.level → Capture.Continues a.capture c →
      P inner ({ a.flush with capture := c }.push t)

/-! ### The body of a table -/

theorem inBody_flush (a : Assembly) : a.flush.inBody = a.inBody := by
  unfold flush
  split
  · rfl
  · dsimp only
    split <;> rfl

theorem inBody_openBlock (a : Assembly) (t : Token) : (a.openBlock t).inBody = a.inBody :=
  a.inBody_flush

theorem inBody_closeBlock (a : Assembly) : a.closeBlock.inBody = a.inBody := by
  unfold closeBlock
  dsimp only
  split <;> exact a.inBody_flush

theorem inBody_pushInline (a : Assembly) (t : Token) : (a.pushInline t).inBody = a.inBody := by
  cases h : a.run with
  | some run => rw [pushInline_of_some h]
  | none =>
    rw [pushInline_of_none h]
    rfl

theorem inBody_inlineOnly {es : List Event} (hes : InlineOnly es) : ∀ a : Assembly,
    (es.foldl event a).inBody = a.inBody := by
  induction hes with
  | nil => exact fun _ => rfl
  | @leaf e es he _ ih =>
    intro a
    rw [List.foldl_cons, ih]
    rcases a.event_inlineLeaf he with ⟨c, -, heq⟩ | ⟨t, -, -, heq⟩ <;> rw [heq]
    exact a.inBody_pushInline t
  | @span tag body es htag _ _ ihbody ih =>
    intro a
    obtain ⟨t, -, -, hstart, hfinish⟩ := exists_mark_of_isInline htag
    rw [foldl_within, ih, hfinish, inBody_pushInline, ihbody, hstart, inBody_pushInline]

theorem inBody_cellsOnly {es : List Event} (hes : CellsOnly es) : ∀ a : Assembly,
    (es.foldl event a).inBody = a.inBody := by
  induction hes with
  | nil => exact fun _ => rfl
  | cons hbody _ ih =>
    intro a
    have hcell : Tag.tableCell.isTextBlock = true := rfl
    obtain ⟨t, -, -, -, hstart⟩ := (start_textBlock hcell).1 a
    rw [foldl_within, ih, hstart]
    simp only [Tag.toEnd, finishTag]
    rw [inBody_closeBlock, inBody_inlineOnly hbody]
    exact a.inBody_openBlock t

/-- The body of the table, if it is open. -/
def bodyKinds (a : Assembly) : List Kind := if a.inBody then [.tableBody] else []

theorem bodyKinds_of_true (h : a.inBody = true) : a.bodyKinds = [.tableBody] := if_pos h

theorem bodyKinds_of_false (h : a.inBody ≠ true) : a.bodyKinds = [] := if_neg h

/-! ### Tokens are only added -/

/-- Completing the run begins no block. -/
theorem tokens_flush (a : Assembly) : ∃ ready : List Token,
    a.flush.tokens = ready.reverse ++ a.tokens ∧ ∀ t ∈ ready, t.nesting ≠ .opening := by
  cases hr : a.run with
  | none => exact ⟨[], by rw [flush_of_none hr]; rfl, List.forall_mem_nil _⟩
  | some run =>
    obtain ⟨children, implicit⟩ := run
    cases implicit with
    | false =>
      refine ⟨[.inlineRun children.reverse a.level], by rw [flush_of_explicit hr]; rfl, ?_⟩
      simp [Token.inlineRun]
    | true =>
      refine ⟨[.inlineRun children.reverse a.level,
        { Token.closing .paragraph (a.level - 1) with hidden := true }],
        by rw [flush_of_implicit hr]; rfl, ?_⟩
      simp [Token.inlineRun, Token.closing]

theorem tokens_openBlock_of_none (h : a.run = none) (t : Token) :
    (a.openBlock t).tokens = t :: a.tokens := by
  rw [openBlock, flush_of_none h]
  rfl

theorem suffix_flush (a : Assembly) : a.tokens <:+ a.flush.tokens := by
  obtain ⟨ready, h, -⟩ := a.tokens_flush
  exact h ▸ List.suffix_append _ _

theorem suffix_closeBlock (a : Assembly) : a.tokens <:+ a.closeBlock.tokens := by
  unfold closeBlock
  dsimp only
  split
  · exact a.suffix_flush
  · exact a.suffix_flush.trans (List.suffix_cons _ _)

theorem suffix_blockStep {a b : Assembly} (h : BlockStep a b) : a.tokens <:+ b.tokens := by
  cases h with
  | flush => exact a.suffix_flush
  | openBlock => exact a.suffix_flush.trans (List.suffix_cons _ _)
  | closeBlock => exact a.suffix_closeBlock
  | startRun => exact List.suffix_refl _
  | rule => exact List.suffix_cons _ _
  | capture => exact List.suffix_refl _
  | endCapture =>
    unfold endCapture
    split
    · exact List.suffix_cons _ _
    · exact List.suffix_cons _ _
    · exact List.suffix_refl _
    · exact List.suffix_refl _
  | note ht => exact ht ▸ List.suffix_refl _

theorem suffix_pushInline (a : Assembly) (t : Token) : a.tokens <:+ (a.pushInline t).tokens := by
  cases hr : a.run with
  | some run =>
    have htokens : (a.pushInline t).tokens = a.tokens := by rw [pushInline_of_some hr]
    exact htokens ▸ List.suffix_refl _
  | none =>
    rw [pushInline_of_none hr]
    exact List.suffix_cons _ _

theorem suffix_foldl (events : List Event) (a : Assembly) :
    a.tokens <:+ (events.foldl event a).tokens :=
  foldl_preserves (I := fun b => a.tokens <:+ b.tokens)
    (fun hstep h => h.trans (suffix_blockStep hstep)) (fun _ h => h.trans (suffix_pushInline _ _))
    events (List.suffix_refl _)

theorem suffix_finish (a : Assembly) : a.tokens <:+ a.finish.tokens :=
  finish_preserves (I := fun b => a.tokens <:+ b.tokens)
    (fun hstep h => h.trans (suffix_blockStep hstep)) (List.suffix_refl _)

/-! ### Blocks leave open what they found open -/

/-- A row begins in the body of the table. -/
def rowBase (a : Assembly) : Assembly :=
  let b := if a.inBody then a
    else { a with inBody := true }.openBlock (.opening .tableBody a.level)
  { b with column := 0 }

theorem start_tableRow (a : Assembly) :
    a.start .tableRow = a.rowBase.openBlock (.opening .tableRow a.rowBase.level) := rfl

theorem rowBase_of_true (h : a.inBody = true) : a.rowBase = { a with column := 0 } := by
  rw [rowBase, if_pos h]

theorem rowBase_of_false (h : a.inBody ≠ true) : a.rowBase
    = { { a with inBody := true }.openBlock (.opening .tableBody a.level) with column := 0 } := by
  rw [rowBase, if_neg h]

theorem inBody_rowBase (a : Assembly) : a.rowBase.inBody = true := by
  by_cases hb : a.inBody = true
  · rw [rowBase_of_true hb]
    exact hb
  · rw [rowBase_of_false hb]
    exact inBody_openBlock { a with inBody := true } (.opening .tableBody a.level)

/-- The head of a table begins with a row. -/
def headBase (a : Assembly) : Assembly :=
  { a with inHead := true, column := 0 }.openBlock (.opening .tableHead a.level)

theorem start_tableHead (a : Assembly) :
    a.start .tableHead = a.headBase.openBlock (.opening .tableRow a.headBase.level) := rfl

theorem inBody_tableHead {head : List Event} (hhead : CellsOnly head) (a : Assembly) :
    ((head.foldl event (a.start .tableHead)).finishTag .tableHead).inBody = a.inBody := by
  have hfinish : ∀ b : Assembly, (b.finishTag .tableHead).inBody = b.closeBlock.closeBlock.inBody :=
    fun _ => rfl
  rw [hfinish, inBody_closeBlock, inBody_closeBlock, inBody_cellsOnly hhead, start_tableHead,
    inBody_openBlock]
  exact inBody_openBlock { a with inHead := true, column := 0 } (.opening .tableHead a.level)

namespace IsBlockInvariant

variable {P : List Kind → Assembly → Prop} (hP : IsBlockInvariant P)

include hP

theorem opening (h : P inner a) (kind : Kind) :
    P (kind :: inner) (a.openBlock (.opening kind a.level)) :=
  hP.openBlock (t := .opening kind a.level) h rfl rfl rfl

theorem inlineOnly {es : List Event} (hes : InlineOnly es) : ∀ {a : Assembly} {inner : List Kind},
    P inner a → P inner (es.foldl event a) := by
  induction hes with
  | nil => exact fun h => h
  | @leaf e es he _ ih =>
    intro a inner h
    rw [List.foldl_cons]
    rcases a.event_inlineLeaf he with ⟨c, hc, heq⟩ | ⟨t, -, -, heq⟩ <;> rw [heq]
    · exact ih (hP.capture h hc)
    · exact ih (hP.pushInline t h)
  | @span tag body es htag _ _ ihbody ih =>
    intro a inner h
    obtain ⟨t, -, -, hstart, hfinish⟩ := exists_mark_of_isInline htag
    rw [foldl_within, hstart, hfinish]
    exact ih (hP.pushInline _ (ihbody (hP.pushInline t h)))

/-- A block that holds inline content leaves nothing open. -/
theorem textBlock {tag : Tag} {body : List Event} (htag : tag.isTextBlock = true)
    (hbody : InlineOnly body) (h : P inner a) :
    P inner ((body.foldl event (a.start tag)).finishTag tag.toEnd) := by
  obtain ⟨t, hn, hh, hl, hstart⟩ := (start_textBlock htag).1 a
  obtain ⟨column, hfinish⟩ := (start_textBlock htag).2 (body.foldl event (a.start tag))
  have hopen := hP.startRun (hP.openBlock h hn hh hl) (a.run_openBlock t)
  rw [hfinish, hstart]
  exact hP.note (hP.closeBlock (hP.inlineOnly hbody hopen)) rfl rfl rfl rfl

theorem cellsOnly {es : List Event} (hes : CellsOnly es) : ∀ {a : Assembly} {inner : List Kind},
    P inner a → P inner (es.foldl event a) := by
  induction hes with
  | nil => exact fun h => h
  | cons hbody _ ih =>
    intro a inner h
    rw [foldl_within]
    exact ih (hP.textBlock rfl hbody h)

theorem rowBase (h : P (a.bodyKinds ++ inner) a) : P (.tableBody :: inner) a.rowBase := by
  by_cases hb : a.inBody = true
  · rw [bodyKinds_of_true hb] at h
    rw [rowBase_of_true hb]
    exact hP.note h rfl rfl rfl rfl
  · rw [bodyKinds_of_false hb] at h
    rw [rowBase_of_false hb]
    have hnote : P inner { a with inBody := true } := hP.note h rfl rfl rfl rfl
    exact hP.note (hP.opening hnote .tableBody) rfl rfl rfl rfl

theorem rowsOnly {es : List Event} (hes : RowsOnly es) : ∀ {a : Assembly} {inner : List Kind},
    P (a.bodyKinds ++ inner) a →
      P ((es.foldl event a).bodyKinds ++ inner) (es.foldl event a) := by
  induction hes with
  | nil => exact fun h => h
  | @cons body es hbody _ ih =>
    intro a inner h
    have hopen := hP.opening (hP.rowBase h) .tableRow
    rw [← start_tableRow] at hopen
    rw [foldl_within]
    refine ih ?_
    -- Behind its first row the body of the table is open and stays so.
    have hbody' : (body.foldl event (a.start .tableRow)).closeBlock.inBody = true := by
      rw [inBody_closeBlock, inBody_cellsOnly hbody, start_tableRow, inBody_openBlock,
        inBody_rowBase]
    simp only [Tag.toEnd, finishTag]
    rw [bodyKinds_of_true hbody']
    exact hP.closeBlock (hP.cellsOnly hbody hopen)

theorem tableHead {head : List Event} (hhead : CellsOnly head) (h : P inner a) :
    P inner ((head.foldl event (a.start .tableHead)).finishTag .tableHead) := by
  have hnote : P inner { a with inHead := true, column := 0 } := hP.note h rfl rfl rfl rfl
  have hopen : P (.tableRow :: .tableHead :: inner) (a.start .tableHead) :=
    hP.opening (hP.opening hnote .tableHead) .tableRow
  exact hP.note (hP.closeBlock (hP.closeBlock (hP.cellsOnly hhead hopen))) rfl rfl rfl rfl

/-- The head of a table and its rows leave at most the body of the table open. -/
theorem headRows {head rows : List Event} (hhead : CellsOnly head) (hrows : RowsOnly rows)
    (h : P inner a) (hb : a.inBody = false) :
    P (((within .tableHead head ++ rows).foldl event a).bodyKinds ++ inner)
      ((within .tableHead head ++ rows).foldl event a) := by
  rw [foldl_within]
  refine hP.rowsOnly hrows ?_
  rw [Tag.toEnd, bodyKinds_of_false (by rw [inBody_tableHead hhead, hb]; exact Bool.false_ne_true)]
  exact hP.tableHead hhead h

/-- The end of a table closes its body if that is open. -/
theorem finishTable (h : P (a.bodyKinds ++ inner) a) :
    ∃ b : Assembly, P inner b ∧ a.tokens <:+ b.tokens ∧ a.finishTag .table = b.closeBlock := by
  by_cases hb : a.inBody = true
  · rw [bodyKinds_of_true hb] at h
    refine ⟨{ a.closeBlock with inBody := false }, hP.note (hP.closeBlock h) rfl rfl rfl rfl,
      a.suffix_closeBlock, ?_⟩
    simp only [finishTag]
    rw [if_pos hb]
  · rw [bodyKinds_of_false hb] at h
    refine ⟨a, h, List.suffix_refl _, ?_⟩
    simp only [finishTag]
    rw [if_neg hb]

/-- **Blocks leave open what they found open.** -/
theorem shaped {es : List Event} (hes : Shaped es) : ∀ {a : Assembly} {inner : List Kind},
    P inner a → P inner (es.foldl event a) := by
  have hnone : ∀ c, Capture.Continues c none := fun c => ⟨fun _ => rfl, fun _ => Capture.sound_none⟩
  induction hes with
  | nil => exact fun h => h
  | @leaf e es he _ ih =>
    intro a inner h
    rw [List.foldl_cons]
    refine ih ?_
    by_cases hi : e.isInlineLeaf = true
    · exact hP.inlineOnly (.singleton hi) h
    · -- The only leaf that is not inline is a rule.
      have hrule : e = .rule := by cases e <;> simp_all [Event.isLeaf, Event.isInlineLeaf]
      rw [hrule]
      exact hP.note (hP.leaf h rfl rfl (.refl _)) rfl rfl rfl a.capture_flush
  | span htag hbody _ ih =>
    intro a inner h
    rw [List.foldl_append]
    exact ih (hP.inlineOnly (.within htag hbody) h)
  | paragraph hbody _ ih =>
    intro a inner h
    rw [foldl_within]
    exact ih (hP.textBlock rfl hbody h)
  | heading hbody _ ih =>
    intro a inner h
    rw [foldl_within]
    exact ih (hP.textBlock rfl hbody h)
  | code hbody _ ih =>
    intro a inner h
    obtain ⟨t, hn, hl, hcode⟩ := foldl_code hbody a
    rw [List.foldl_append, hcode]
    exact ih (hP.leaf h hn hl (hnone _))
  | html hbody _ ih =>
    intro a inner h
    obtain ⟨t, hn, hl, hhtml⟩ := foldl_html hbody a
    rw [List.foldl_append, hhtml]
    exact ih (hP.leaf h hn hl (hnone _))
  | metadata hbody _ ih =>
    intro a inner h
    obtain ⟨metadata, hmeta⟩ := foldl_metadata hbody a
    rw [List.foldl_append, hmeta]
    exact ih (hP.note (hP.capture h (hnone _)) rfl rfl rfl rfl)
  | container htag _ _ ihbody ih =>
    intro a inner h
    rw [foldl_within]
    refine ih ?_
    rcases start_container htag with ⟨-, heq⟩ | ⟨hstart, hfinish⟩
    · rw [(heq a).1, (heq _).2]
      exact ihbody h
    · obtain ⟨t, hn, hh, hl, hstart⟩ := hstart a
      rw [hstart, hfinish]
      exact hP.closeBlock (ihbody (hP.openBlock h hn hh hl))
  | @table alignments head rows es hhead hrows _ ih =>
    intro a inner h
    rw [foldl_within]
    refine ih ?_
    have hnote : P inner { a with alignments, inBody := false } := hP.note h rfl rfl rfl rfl
    have hopen := hP.opening hnote .table
    -- The rows may have opened the body, and then the end closes two blocks.
    obtain ⟨b, hb, -, hfinish⟩ :=
      hP.finishTable (hP.headRows hhead hrows hopen (inBody_openBlock _ _))
    rw [Tag.toEnd]
    exact hfinish ▸ hP.closeBlock hb

end IsBlockInvariant

/-- What lies below some moment stays there. -/
theorem isBlockInvariant_over (below : List Token) (outer : List Kind) :
    IsBlockInvariant (Over below outer) where
  note h ht hs hr _ := h.note ht hs hr
  capture h _ := h.note rfl rfl rfl
  openBlock h hn hh _ := h.openBlock hn hh
  startRun h hr := h.startRun hr
  closeBlock h := h.closeBlock
  pushInline t h := h.pushInline t
  leaf h hn _ _ := (h.flush.push_single hn).note rfl rfl rfl

/-! ### The ends of a block -/

/-- Closing the innermost block adds its end behind what has been put together since. -/
theorem Over.closeBlock_eq {kind : Kind} (h : Over below (kind :: outer) [] a) :
    ∃ inside : List Token, IsBalanced (shownBrackets inside) ∧
      a.tokens <:+ inside.reverse ++ below ∧
      a.closeBlock.tokens = .closing kind outer.length :: (inside.reverse ++ below) ∧
      a.closeBlock.stack = outer ∧ a.closeBlock.run = none := by
  obtain ⟨above, htokens, hscan⟩ := h.tokens_flush
  refine ⟨above.reverse, hscan, ?_, ?_, ?_, ?_⟩
  · rw [List.reverse_reverse, ← htokens]
    exact a.suffix_flush
  · rw [closeBlock_of_cons h.stack_flush, List.reverse_reverse, ← htokens]
    rfl
  · rw [closeBlock_of_cons h.stack_flush]
    rfl
  · rw [closeBlock_of_cons h.stack_flush]
    exact a.run_flush

/-- Every tag but the head of a table opens one block. -/
theorem start_opens_one {tag : Tag} (htag : tag.opensBlock = true) (hne : tag ≠ .tableHead)
    (a : Assembly) : ∃ (ready : List Token) (t : Token) (outer : List Kind),
      (∀ u ∈ ready, u.nesting = .opening → tag = .tableRow ∧ u.kind = .tableBody) ∧
      t.nesting = .opening ∧ t.hidden = false ∧
      (a.start tag).tokens = t :: (ready.reverse ++ a.tokens) ∧
      (a.start tag).stack = t.kind :: outer ∧ hiddenKeys (a.start tag).run = [] := by
  -- A block that begins behind `b` completes the run of `b` first.
  have hopen : ∀ (b : Assembly) (t : Token), b.tokens = a.tokens → t.nesting = .opening →
      t.hidden = false → ∃ (ready : List Token) (u : Token) (outer : List Kind),
        (∀ v ∈ ready, v.nesting = .opening → tag = .tableRow ∧ v.kind = .tableBody) ∧
        u.nesting = .opening ∧ u.hidden = false ∧
        (b.openBlock t).tokens = u :: (ready.reverse ++ a.tokens) ∧
        (b.openBlock t).stack = u.kind :: outer := by
    intro b t hb hn hh
    obtain ⟨ready, htokens, hready⟩ := b.tokens_flush
    refine ⟨ready, t, b.flush.stack, fun u hu ho => absurd ho (hready u hu), hn, hh, ?_, rfl⟩
    rw [← hb, ← htokens]
    rfl
  by_cases htext : tag.isTextBlock = true
  · obtain ⟨t, hn, hh, -, hstart⟩ := (start_textBlock htext).1 a
    obtain ⟨ready, u, outer, hready, hu, hh, htokens, hstack⟩ := hopen a t rfl hn hh
    exact ⟨ready, u, outer, hready, hu, hh, by rw [hstart]; exact htokens,
      by rw [hstart]; exact hstack, by rw [hstart]; rfl⟩
  by_cases hcont : tag.isContainer = true
  · rcases start_container hcont with ⟨hnone, -⟩ | ⟨hstart, -⟩
    · simp [hnone] at htag
    · obtain ⟨t, hn, hh, -, hstart⟩ := hstart a
      obtain ⟨ready, u, outer, hready, hu, hh, htokens, hstack⟩ := hopen a t rfl hn hh
      exact ⟨ready, u, outer, hready, hu, hh, by rw [hstart]; exact htokens,
        by rw [hstart]; exact hstack, by rw [hstart, run_openBlock]; rfl⟩
  cases tag with
  | table alignments =>
    obtain ⟨ready, u, outer, hready, hu, hh, htokens, hstack⟩ :=
      hopen { a with alignments, inBody := false } (.opening .table a.level) rfl rfl rfl
    exact ⟨ready, u, outer, hready, hu, hh, htokens, hstack, by rw [start, run_openBlock]; rfl⟩
  | tableRow =>
    rw [start_tableRow]
    by_cases hb : a.inBody = true
    · rw [rowBase_of_true hb]
      obtain ⟨ready, u, outer, hready, hu, hh, htokens, hstack⟩ :=
        hopen { a with column := 0 } (.opening .tableRow a.level) rfl rfl rfl
      exact ⟨ready, u, outer, hready, hu, hh, htokens, hstack, by rw [run_openBlock]; rfl⟩
    · -- The first row: the body of the table begins before it.
      rw [rowBase_of_false hb]
      obtain ⟨ready, htokens, hready⟩ := { a with inBody := true }.tokens_flush
      refine ⟨ready ++ [Token.opening .tableBody a.level], .opening .tableRow _, _, ?_, rfl, rfl,
        ?_, rfl, by rw [run_openBlock]; rfl⟩
      · intro u hu ho
        rcases List.mem_append.mp hu with hu | hu
        · exact absurd ho (hready u hu)
        · rw [List.mem_singleton.mp hu]
          exact ⟨rfl, rfl⟩
      · rw [List.reverse_append, List.append_assoc, ← htokens]
        refine (tokens_openBlock_of_none ?_ _).trans rfl
        exact run_openBlock { a with inBody := true } (.opening .tableBody a.level)
  | _ => simp_all [Tag.opensBlock, Tag.isTextBlock, Tag.isContainer]

/-- The head of a table opens a row as well. -/
theorem start_tableHead_opens (a : Assembly) :
    ∃ (ready : List Token) (l : Nat) (outer : List Kind), (∀ t ∈ ready, t.nesting ≠ .opening) ∧
      (a.start .tableHead).tokens
        = .opening .tableRow l :: .opening .tableHead a.level :: (ready.reverse ++ a.tokens) ∧
      (a.start .tableHead).stack = .tableRow :: .tableHead :: outer ∧
      hiddenKeys (a.start .tableHead).run = [] := by
  obtain ⟨ready, htokens, hready⟩ := { a with inHead := true, column := 0 }.tokens_flush
  have hrun : a.headBase.run = none := run_openBlock { a with inHead := true, column := 0 } _
  refine ⟨ready, a.headBase.level, { a with inHead := true, column := 0 }.flush.stack, hready,
    ?_, ?_, ?_⟩ <;> rw [start_tableHead]
  · rw [tokens_openBlock_of_none hrun]
    exact congrArg (_ :: _ :: ·) htokens
  · rw [openBlock, flush_of_none hrun]
    rfl
  · rw [run_openBlock]
    rfl

/-- What stands between the start and the end of a tag leaves nothing open above the blocks that
the start has opened; the end of a table closes its body first. -/
theorem Over.content {tag : Tag} {body : List Event} (htag : tag.opensBlock = true)
    (hne : tag ≠ .tableHead) (hbody : Content tag body)
    (h : Over below outer [] (a.start tag)) : ∃ c : Assembly, Over below outer [] c ∧
      (body.foldl event (a.start tag)).tokens <:+ c.tokens ∧
      ((body.foldl event (a.start tag)).finishTag tag.toEnd).tokens = c.closeBlock.tokens := by
  -- Everything that stands within the tag keeps what lies below it.
  have hP := isBlockInvariant_over below outer
  cases tag with
  | paragraph | heading _ | tableCell =>
    exact ⟨_, hP.inlineOnly hbody h, List.suffix_refl _, rfl⟩
  | blockquote | list _ | item | definitionList | definitionTerm | definitionDetails =>
    exact ⟨_, hP.shaped hbody h, List.suffix_refl _, rfl⟩
  | tableRow => exact ⟨_, hP.cellsOnly hbody h, List.suffix_refl _, rfl⟩
  | table alignments =>
    obtain ⟨head, rows, rfl, hhead, hrows⟩ := hbody
    have hinBody : (a.start (.table alignments)).inBody = false := inBody_openBlock _ _
    obtain ⟨c, hc, hsuffix, hfinish⟩ := hP.finishTable (hP.headRows hhead hrows h hinBody)
    exact ⟨c, hc, hsuffix, congrArg Assembly.tokens hfinish⟩
  | tableHead => exact absurd rfl hne
  | _ => simp [Tag.opensBlock] at htag

/-- **The blocks that a start opens are closed at its end**, and what stands between them is
balanced, whatever came before. -/
theorem exists_encloses {tag : Tag} {body : List Event} (htag : tag.opensBlock = true)
    (hbody : Content tag body) (a : Assembly) :
    ∃ ready opened inside closed : List Token, Encloses tag ready opened inside closed ∧
      (a.start tag).tokens.reverse = a.tokens.reverse ++ ready ++ opened ∧
      (body.foldl event (a.start tag)).tokens.reverse
        <+: a.tokens.reverse ++ ready ++ opened ++ inside ∧
      ((within tag body).foldl event a).tokens.reverse
        = a.tokens.reverse ++ ready ++ opened ++ inside ++ closed := by
  rw [foldl_within_eq]
  -- The head of a table opens two blocks and closes two; all other tags open one.
  by_cases hne : tag = .tableHead
  · subst hne
    obtain ⟨ready, l, outer, hready, htokens, hstack, hrun⟩ := a.start_tableHead_opens
    have hc := (isBlockInvariant_over _ _).cellsOnly hbody (Over.self hrun)
    rw [hstack] at hc
    obtain ⟨inside, hinside, hsuffix, htokens', hstack', hrun'⟩ := hc.closeBlock_eq
    refine ⟨ready, [.opening .tableHead a.level, .opening .tableRow l], inside,
      [.closing .tableRow (outer.length + 1), .closing .tableHead outer.length],
      ⟨fun t ht ho => absurd ho (hready t ht), by simp, ?_, hinside⟩, ?_, ?_, ?_⟩
    · exact .cons ⟨rfl, rfl, rfl⟩ (.cons ⟨rfl, rfl, rfl⟩ .nil)
    · rw [htokens]
      simp
    · have h := List.reverse_prefix.mpr hsuffix
      rw [htokens] at h
      simpa using h
    · have hfinish : ∀ c : Assembly,
          (c.finishTag .tableHead).tokens = c.closeBlock.closeBlock.tokens := fun _ => rfl
      rw [Tag.toEnd, hfinish, closeBlock_of_cons (by rw [flush_of_none hrun', hstack']),
        flush_of_none hrun']
      simp only [push]
      rw [htokens', htokens]
      simp
  · obtain ⟨ready, t, outer, hready, hn, hh, htokens, hstack, hrun⟩ := a.start_opens_one htag hne
    obtain ⟨c, hc, hsuffix, hfinish⟩ := (Over.self hrun).content htag hne hbody
    rw [hstack] at hc
    obtain ⟨inside, hinside, hsuffix', htokens', -, -⟩ := hc.closeBlock_eq
    refine ⟨ready, [t], inside, [.closing t.kind outer.length],
      ⟨hready, by simp, ?_, hinside⟩, ?_, ?_, ?_⟩
    · exact .cons ⟨hn, rfl, by rw [Token.shown, Token.shown, hh]; rfl⟩ .nil
    · rw [htokens]
      simp
    · have h := List.reverse_prefix.mpr (hsuffix.trans hsuffix')
      rw [htokens] at h
      simpa using h
    · rw [hfinish, htokens', htokens]
      simp

end Assembly

end Markdown

end Folio
