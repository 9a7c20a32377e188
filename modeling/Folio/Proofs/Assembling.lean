import Mathlib.Data.List.Chain
import Mathlib.Logic.Relation
import Folio.Markdown.Assembly
import Folio.Proofs.EventShape
import Folio.Proofs.Nesting

/-!
# What the assembly does

Each event is taken in by a few small steps: the run is completed, a block is opened or closed,
an inline token is added, a text is captured.  What all of these preserve holds of every sequence
of events, nested or not.

## Main definitions

* `Assembly.BlockStep` — the steps that add no inline token.
* `Token.IsInline`, `Token.IsAssembled` — the tokens that are put together.
* `Token.BroughtBy` — the inline token that an event brings.

## Main results

* `Assembly.foldl_preserves`, `Assembly.finish_preserves` — what all steps preserve holds at the
  end of every sequence.
* `isAssembled_of_mem_assemble` — **every run separates its texts and caches the text of its
  children**.
-/

namespace Folio

/-- A kind of block that is a pair of tokens. -/
def Kind.isBlockPair : Kind → Bool
  | .heading _ | .paragraph | .blockquote | .bulletList | .orderedList | .listItem | .table
  | .tableHead | .tableBody | .tableRow | .tableHeaderCell | .tableDataCell | .definitionList
  | .definitionTerm | .definitionDetails => true
  | _ => false

/-- The kind of the two ends of a heading. -/
def Kind.isHeading : Kind → Bool
  | .heading _ => true
  | _ => false

theorem Kind.exists_of_isHeading {k : Kind} (h : k.isHeading = true) : ∃ n, k = .heading n := by
  cases k with
  | heading n => exact ⟨n, rfl⟩
  | _ => simp [isHeading] at h

/-- A kind of block that is one token. -/
def Kind.isBlockLeaf : Kind → Bool
  | .fence | .htmlBlock | .rule | .inline => true
  | _ => false

/-- A kind of inline container. -/
def Kind.isInlinePair : Kind → Bool
  | .emphasis | .strong | .strikethrough | .superscript | .subscript | .link | .image => true
  | _ => false

/-- A kind of inline token that stands alone. -/
def Kind.isInlineLeaf : Kind → Bool
  | .text | .codeInline | .htmlInline | .softBreak | .hardBreak | .taskMarker _ => true
  | _ => false

/-- An inline token: one end of a container, or a leaf. -/
structure Token.IsInline (t : Token) : Prop where
  pair : t.nesting ≠ .single → t.kind.isInlinePair = true
  leaf : t.nesting = .single → t.kind.isInlineLeaf = true
  children : t.children = []

/-- The names of the attributes that links and images have in the source. -/
def sourceNames : List String := ["href", "src", "title"]

/-- An inline token as an event brings it, with no attributes but those of links and images. -/
structure Token.IsSource (t : Token) : Prop extends Token.IsInline t where
  names : ∀ n ∈ t.attrs.map Prod.fst, n ∈ sourceNames

/-- An inline token that an event brings: raw HTML is that of the event. -/
structure Token.BroughtBy (e : Markdown.Event) (t : Token) : Prop extends Token.IsSource t where
  raw : t.kind = .htmlInline → e = .html t.content ∨ e = .inlineHtml t.content

/-- No text follows a text. -/
def Separated (ts : List Token) : Prop :=
  ts.IsChain fun t u => ¬(t.kind = .text ∧ u.kind = .text)

/-- A block of the assembly: one end of a pair, or a leaf.  Only a run has children, which are
inline tokens of the source; its texts are joined, and it caches its text. -/
structure Token.IsAssembled (t : Token) : Prop where
  pair : t.nesting ≠ .single → t.kind.isBlockPair = true
  leaf : t.nesting = .single → t.kind.isBlockLeaf = true
  bare : t.kind ≠ .inline → t.children = []
  children : t.kind = .inline → ∀ c ∈ t.children, c.IsSource
  separated : t.kind = .inline → Separated t.children
  content : t.kind = .inline → t.content = Folio.plainText t.children

namespace Token

variable {t : Token}

theorem isInline_of_single (hn : t.nesting = .single) (hk : t.kind.isInlineLeaf = true)
    (hc : t.children = []) : t.IsInline :=
  ⟨fun h => absurd hn h, fun _ => hk, hc⟩

theorem isInline_of_pair (hn : t.nesting ≠ .single) (hk : t.kind.isInlinePair = true)
    (hc : t.children = []) : t.IsInline :=
  ⟨fun _ => hk, fun h => absurd h hn, hc⟩

theorem isSource_of_single (hn : t.nesting = .single) (hk : t.kind.isInlineLeaf = true)
    (hc : t.children = []) (ha : t.attrs = []) : t.IsSource :=
  ⟨isInline_of_single hn hk hc, by simp [ha]⟩

theorem isSource_mark {kind : Kind} {nesting : Nesting} (hk : kind.isInlinePair = true)
    (hn : nesting ≠ .single) : (mark kind nesting).IsSource :=
  ⟨isInline_of_pair hn hk rfl, List.forall_mem_nil _⟩

/-- One end of a container is no raw HTML. -/
theorem BroughtBy.of_pair {e : Markdown.Event} (ht : t.IsSource) (hn : t.nesting ≠ .single) :
    t.BroughtBy e := by
  refine ⟨ht, fun hk => ?_⟩
  have hpair := ht.pair hn
  rw [hk] at hpair
  cases hpair

theorem isAssembled_of_pair (hn : t.nesting ≠ .single) (hk : t.kind.isBlockPair = true)
    (hc : t.children = []) : t.IsAssembled := by
  have hne : t.kind ≠ .inline := by intro h; simp [h, Kind.isBlockPair] at hk
  exact ⟨fun _ => hk, fun h => absurd h hn, fun _ => hc, fun h => absurd h hne,
    fun h => absurd h hne, fun h => absurd h hne⟩

theorem isAssembled_of_leaf (hn : t.nesting = .single) (hk : t.kind.isBlockLeaf = true)
    (hne : t.kind ≠ .inline) (hc : t.children = []) : t.IsAssembled :=
  ⟨fun h => absurd hn h, fun _ => hk, fun _ => hc, fun h => absurd h hne, fun h => absurd h hne,
    fun h => absurd h hne⟩

theorem isAssembled_inlineRun {children : List Token} (level : Nat)
    (hc : ∀ c ∈ children, c.IsSource) (hs : Separated children) :
    (inlineRun children level).IsAssembled :=
  ⟨fun h => absurd rfl h, fun _ => rfl, fun h => absurd rfl h, fun _ => hc, fun _ => hs,
    fun _ => rfl⟩

end Token

namespace Markdown

namespace Assembly

/-! ### Small steps -/

/-- What is captured becomes a code block. -/
def Capture.Sound (c : Option Capture) : Prop :=
  ∀ fence, c = some (.code fence) →
    fence.nesting = .single ∧ fence.kind = .fence ∧ fence.children = []

theorem Capture.sound_none : Capture.Sound none := nofun

/-- The steps that add no inline token. -/
inductive BlockStep : Assembly → Assembly → Prop
  | flush (a : Assembly) : BlockStep a a.flush
  | openBlock (a : Assembly) {t : Token} (hn : t.nesting = .opening)
      (hk : t.kind.isBlockPair = true) (hc : t.children = []) (hh : t.hidden = false) :
      BlockStep a (a.openBlock t)
  | closeBlock (a : Assembly) : BlockStep a a.closeBlock
  | startRun {a : Assembly} (h : a.run = none) : BlockStep a a.startRun
  | rule (a : Assembly) (level : Nat) : BlockStep a (a.push (.leaf .rule level))
  | capture (a : Assembly) {c : Option Capture} (hc : Capture.Sound a.capture → Capture.Sound c) :
      BlockStep a { a with capture := c }
  | endCapture (a : Assembly) : BlockStep a a.endCapture
  | note {a b : Assembly} (ht : b.tokens = a.tokens) (hs : b.stack = a.stack) (hr : b.run = a.run)
      (hc : b.capture = a.capture) : BlockStep a b

/-- Any number of such steps. -/
abbrev BlockSteps : Assembly → Assembly → Prop := Relation.ReflTransGen BlockStep

theorem BlockSteps.preserves {I : Assembly → Prop} (hI : ∀ {a b}, BlockStep a b → I a → I b)
    {a b : Assembly} (h : BlockSteps a b) (ha : I a) : I b := by
  induction h with
  | refl => exact ha
  | tail _ hstep ih => exact hI hstep ih

theorem run_flush (a : Assembly) : a.flush.run = none := by
  unfold flush
  split
  · assumption
  · dsimp only
    split <;> rfl

theorem run_openBlock (a : Assembly) (t : Token) : (a.openBlock t).run = none := a.run_flush

/-- A block that holds inline content begins. -/
theorem blockSteps_openRun (a : Assembly) {t : Token} (hn : t.nesting = .opening)
    (hk : t.kind.isBlockPair = true) (hc : t.children = []) (hh : t.hidden = false) :
    BlockSteps a (a.openBlock t).startRun :=
  .tail (.single (.openBlock a hn hk hc hh)) (.startRun (a.run_openBlock t))

/-- A block begins after some notes. -/
theorem BlockStep.openBlock_trans {a b : Assembly} (h : BlockStep a b) {t : Token}
    (hn : t.nesting = .opening) (hk : t.kind.isBlockPair = true) (hc : t.children = [])
    (hh : t.hidden = false) : BlockSteps a (b.openBlock t) :=
  .tail (.single h) (.openBlock b hn hk hc hh)

/-- A block ends before some notes. -/
theorem BlockSteps.closeBlock_note {a b c : Assembly} (h : BlockSteps a b)
    (ht : c.tokens = b.closeBlock.tokens) (hs : c.stack = b.closeBlock.stack)
    (hr : c.run = b.closeBlock.run) (hc : c.capture = b.closeBlock.capture) : BlockSteps a c :=
  .tail (.tail h (.closeBlock b)) (.note ht hs hr hc)

theorem listToken_spec (start : Option Nat) (level : Nat) :
    (listToken start level).nesting = .opening ∧
      (listToken start level).kind.isBlockPair = true ∧
      (listToken start level).children = [] ∧
      (listToken start level).hidden = false ∧ (listToken start level).level = level := by
  unfold listToken
  split <;> exact ⟨rfl, rfl, rfl, rfl, rfl⟩

/-- The start of a tag that is no inline container adds no inline token. -/
theorem blockSteps_start (a : Assembly) {tag : Tag} (h : tag.isInline = false) :
    BlockSteps a (a.start tag) := by
  cases tag with
  | paragraph => exact a.blockSteps_openRun rfl rfl rfl rfl
  | heading n => exact a.blockSteps_openRun rfl rfl rfl rfl
  | blockquote => exact .single (.openBlock a rfl rfl rfl rfl)
  | codeBlock info =>
    refine .tail (.single (.flush a)) (.capture a.flush fun _ fence hf => ?_)
    simp only [Option.some.injEq, Capture.code.injEq] at hf
    subst hf
    exact ⟨rfl, rfl, rfl⟩
  | htmlBlock => exact .tail (.single (.flush a)) (.capture a.flush fun _ fence hf => by simp at hf)
  | metadataBlock => exact .single (.capture a fun _ fence hf => by simp at hf)
  | list start =>
    obtain ⟨hn, hk, hc, hh, -⟩ := listToken_spec start a.level
    exact .single (.openBlock a hn hk hc hh)
  | item => exact .single (.openBlock a rfl rfl rfl rfl)
  | footnoteDefinition label => exact .refl
  | definitionList => exact .single (.openBlock a rfl rfl rfl rfl)
  | definitionTerm => exact .single (.openBlock a rfl rfl rfl rfl)
  | definitionDetails => exact .single (.openBlock a rfl rfl rfl rfl)
  | table alignments =>
    have hnote : BlockStep a { a with alignments, inBody := false } := .note rfl rfl rfl rfl
    exact hnote.openBlock_trans rfl rfl rfl rfl
  | tableHead =>
    have hnote : BlockStep a { a with inHead := true, column := 0 } := .note rfl rfl rfl rfl
    exact .tail (hnote.openBlock_trans rfl rfl rfl rfl) (.openBlock _ rfl rfl rfl rfl)
  | tableRow =>
    -- A row begins in the same way whether the body of the table has just been opened or not.
    have hrow : ∀ b : Assembly, BlockSteps b
        ({ b with column := 0 }.openBlock (.opening .tableRow b.level)) := fun b =>
      have hnote : BlockStep b { b with column := 0 } := .note rfl rfl rfl rfl
      hnote.openBlock_trans rfl rfl rfl rfl
    have hbody : BlockStep a { a with inBody := true } := .note rfl rfl rfl rfl
    by_cases hb : a.inBody = true
    · simp only [start]
      rw [if_pos hb]
      exact hrow a
    · simp only [start]
      rw [if_neg hb]
      exact .trans (hbody.openBlock_trans rfl rfl rfl rfl) (hrow _)
  | tableCell =>
    simp only [start]
    refine a.blockSteps_openRun ?_ ?_ ?_ ?_
    · split <;> rfl
    · by_cases hh : a.inHead = true <;>
        (split <;> simp [Token.setAttr, Token.opening, hh, Kind.isBlockPair])
    · split <;> rfl
    · split <;> rfl
  | emphasis | strong | strikethrough | superscript | subscript | link _ | image _ =>
    simp [Tag.isInline] at h

/-- The end of a tag that is no inline container adds no inline token. -/
theorem blockSteps_finishTag (a : Assembly) {tag : Tag} (h : tag.isInline = false) :
    BlockSteps a (a.finishTag tag.toEnd) := by
  cases tag with
  | codeBlock _ | htmlBlock | metadataBlock => exact .single (.endCapture a)
  | footnoteDefinition label => exact .refl
  | tableHead => exact BlockSteps.closeBlock_note (.single (.closeBlock a)) rfl rfl rfl rfl
  | tableCell => exact BlockSteps.closeBlock_note .refl rfl rfl rfl rfl
  | table _ =>
    simp only [Tag.toEnd, finishTag]
    by_cases hb : a.inBody = true
    · rw [if_pos hb]
      have hbody : BlockSteps a { a.closeBlock with inBody := false } :=
        BlockSteps.closeBlock_note .refl rfl rfl rfl rfl
      exact .tail hbody (.closeBlock _)
    · rw [if_neg hb]
      exact .single (.closeBlock a)
  | paragraph | heading _ | blockquote | list _ | item | definitionList | definitionTerm
  | definitionDetails | tableRow => exact .single (.closeBlock a)
  | emphasis | strong | strikethrough | superscript | subscript | link _ | image _ =>
    simp [Tag.isInline] at h

theorem targetToken_spec (kind : Kind) (name : String) (target : Target) :
    (targetToken kind name target).kind = kind ∧
      (targetToken kind name target).nesting = .opening ∧
      (targetToken kind name target).children = [] ∧
      ∀ n ∈ (targetToken kind name target).attrs.map Prod.fst, n = name ∨ n = "title" := by
  unfold targetToken
  dsimp only
  split
  · refine ⟨rfl, rfl, rfl, ?_⟩
    simp [Token.setAttr, Token.mark, Attributes.set]
  · refine ⟨rfl, rfl, rfl, ?_⟩
    by_cases hname : name = "title" <;> simp [Token.setAttr, Token.mark, Attributes.set, hname]

/-- A link or an image begins with an inline token of the source. -/
theorem isSource_targetToken {kind : Kind} (hk : kind.isInlinePair = true) {name : String}
    (hname : name ∈ sourceNames) (target : Target) : (targetToken kind name target).IsSource := by
  obtain ⟨hkind, hn, hc, hnames⟩ := targetToken_spec kind name target
  refine ⟨Token.isInline_of_pair (by simp [hn]) (by rw [hkind]; exact hk) hc, fun n hmem => ?_⟩
  rcases hnames n hmem with rfl | rfl
  · exact hname
  · decide

/-- The two ends of an inline container each add one token. -/
theorem exists_mark_of_isInline {tag : Tag} (h : tag.isInline = true) :
    ∃ t : Token, t.nesting = .opening ∧ t.IsSource ∧
      (∀ a : Assembly, a.start tag = a.pushInline t) ∧
      ∀ a : Assembly, a.finishTag tag.toEnd = a.pushInline (.mark t.kind .closing) := by
  have hmark : ∀ kind : Kind, kind.isInlinePair = true → (Token.mark kind .opening).IsSource :=
    fun kind hk => Token.isSource_mark hk nofun
  cases tag with
  | emphasis => exact ⟨_, rfl, hmark .emphasis rfl, fun _ => rfl, fun _ => rfl⟩
  | strong => exact ⟨_, rfl, hmark .strong rfl, fun _ => rfl, fun _ => rfl⟩
  | strikethrough => exact ⟨_, rfl, hmark .strikethrough rfl, fun _ => rfl, fun _ => rfl⟩
  | superscript => exact ⟨_, rfl, hmark .superscript rfl, fun _ => rfl, fun _ => rfl⟩
  | subscript => exact ⟨_, rfl, hmark .subscript rfl, fun _ => rfl, fun _ => rfl⟩
  | link target =>
    obtain ⟨hk, hn, -, -⟩ := targetToken_spec .link "href" target
    exact ⟨_, hn, isSource_targetToken rfl (by decide) target, fun _ => rfl,
      fun a => by rw [hk]; rfl⟩
  | image target =>
    obtain ⟨hk, hn, -, -⟩ := targetToken_spec .image "src" target
    exact ⟨_, hn, isSource_targetToken rfl (by decide) target, fun _ => rfl,
      fun a => by rw [hk]; rfl⟩
  | _ => simp [Tag.isInline] at h

theorem exists_toEnd_eq (e : TagEnd) : ∃ tag : Tag, tag.toEnd = e := by
  cases e with
  | list numbered =>
    cases numbered
    · exact ⟨.list none, rfl⟩
    · exact ⟨.list (some 1), rfl⟩
  | codeBlock => exact ⟨.codeBlock none, rfl⟩
  | footnoteDefinition => exact ⟨.footnoteDefinition "", rfl⟩
  | table => exact ⟨.table [], rfl⟩
  | link => exact ⟨.link default, rfl⟩
  | image => exact ⟨.image default, rfl⟩
  | heading n => exact ⟨.heading n, rfl⟩
  | paragraph => exact ⟨.paragraph, rfl⟩
  | blockquote => exact ⟨.blockquote, rfl⟩
  | htmlBlock => exact ⟨.htmlBlock, rfl⟩
  | metadataBlock => exact ⟨.metadataBlock, rfl⟩
  | item => exact ⟨.item, rfl⟩
  | definitionList => exact ⟨.definitionList, rfl⟩
  | definitionTerm => exact ⟨.definitionTerm, rfl⟩
  | definitionDetails => exact ⟨.definitionDetails, rfl⟩
  | tableHead => exact ⟨.tableHead, rfl⟩
  | tableRow => exact ⟨.tableRow, rfl⟩
  | tableCell => exact ⟨.tableCell, rfl⟩
  | emphasis => exact ⟨.emphasis, rfl⟩
  | strong => exact ⟨.strong, rfl⟩
  | strikethrough => exact ⟨.strikethrough, rfl⟩
  | superscript => exact ⟨.superscript, rfl⟩
  | subscript => exact ⟨.subscript, rfl⟩

/-- What is captured after an event, given what was captured before it. -/
structure Capture.Continues (c c' : Option Capture) : Prop where
  none : c = none → c' = none
  sound : Capture.Sound c → Capture.Sound c'

theorem Capture.Continues.refl (c : Option Capture) : Capture.Continues c c := ⟨id, id⟩

/-- Text is captured or added to the run. -/
theorem text_cases (a : Assembly) (s : String) :
    (∃ c, Capture.Continues a.capture c ∧ a.text s = { a with capture := c }) ∨
      a.text s = a.pushInline (.text s) := by
  unfold text
  cases h : a.capture with
  | none => exact .inr rfl
  | some c =>
    refine .inl ?_
    cases c with
    | code fence =>
      refine ⟨_, ⟨by simp, fun hs f hf => ?_⟩, rfl⟩
      simp only [Option.some.injEq, Capture.code.injEq] at hf
      subst hf
      exact hs fence rfl
    | html t => exact ⟨_, ⟨by simp, fun _ f hf => by simp at hf⟩, rfl⟩
    | metadata t => exact ⟨_, ⟨by simp, fun _ f hf => by simp at hf⟩, rfl⟩

/-- An inline leaf is captured, passed over or added to the run. -/
theorem event_inlineLeaf (a : Assembly) {e : Event} (he : e.isInlineLeaf = true) :
    (∃ c, Capture.Continues a.capture c ∧ a.event e = { a with capture := c }) ∨
      ∃ t : Token, t.nesting = .single ∧ t.BroughtBy e ∧ a.event e = a.pushInline t := by
  have htext : ∀ s, (∃ c, Capture.Continues a.capture c ∧ a.text s = { a with capture := c }) ∨
      ∃ t : Token, t.nesting = .single ∧ t.BroughtBy e ∧ a.text s = a.pushInline t := fun s =>
    (a.text_cases s).imp id fun h =>
      ⟨.text s, rfl, ⟨Token.isSource_of_single rfl rfl rfl rfl, nofun⟩, h⟩
  have hleaf : ∀ (kind : Kind) (s : String), kind.isInlineLeaf = true →
      (inlineLeaf kind s).IsSource := fun kind s hk => Token.isSource_of_single rfl hk rfl rfl
  have hmark : ∀ kind : Kind, kind.isInlineLeaf = true → (Token.mark kind .single).IsSource :=
    fun kind hk => Token.isSource_of_single rfl hk rfl rfl
  cases e with
  | text s | inlineMath s | displayMath s => exact htext s
  | code s => exact .inr ⟨_, rfl, ⟨hleaf .codeInline s rfl, nofun⟩, rfl⟩
  | inlineHtml s => exact .inr ⟨_, rfl, ⟨hleaf .htmlInline s rfl, fun _ => .inr rfl⟩, rfl⟩
  | softBreak => exact .inr ⟨_, rfl, ⟨hmark .softBreak rfl, nofun⟩, rfl⟩
  | hardBreak => exact .inr ⟨_, rfl, ⟨hmark .hardBreak rfl, nofun⟩, rfl⟩
  | taskMarker checked => exact .inr ⟨_, rfl, ⟨hmark (.taskMarker checked) rfl, nofun⟩, rfl⟩
  | footnoteReference label => exact .inl ⟨a.capture, .refl _, rfl⟩
  | html s =>
    -- HTML is captured by an HTML block only.
    have hpush : ∀ b : Assembly, b = a.pushInline (inlineLeaf .htmlInline s) →
        ∃ t : Token, t.nesting = .single ∧ t.BroughtBy (.html s) ∧ b = a.pushInline t :=
      fun b hb => ⟨_, rfl, ⟨hleaf .htmlInline s rfl, fun _ => .inl rfl⟩, hb⟩
    unfold event
    cases h : a.capture with
    | none => exact .inr (hpush _ rfl)
    | some c =>
      cases c with
      | html t => exact .inl ⟨_, ⟨by simp, fun _ f hf => by simp at hf⟩, rfl⟩
      | code fence => exact .inr (hpush _ rfl)
      | metadata t => exact .inr (hpush _ rfl)
  | start _ | finish _ | rule => simp [Event.isInlineLeaf] at he

/-! ### What all steps preserve -/

section Preserves

variable {I : Assembly → Prop} (hblock : ∀ {a b}, BlockStep a b → I a → I b)

include hblock

theorem event_preserves {e : Event}
    (hinline : ∀ {a : Assembly} {t : Token}, t.BroughtBy e → I a → I (a.pushInline t))
    {a : Assembly} (ha : I a) : I (a.event e) := by
  by_cases he : e.isInlineLeaf = true
  · rcases a.event_inlineLeaf he with ⟨c, hc, h⟩ | ⟨t, -, ht, h⟩
    · rw [h]
      exact hblock (.capture a hc.sound) ha
    · rw [h]
      exact hinline ht ha
  cases e with
  | start tag =>
    by_cases htag : tag.isInline = true
    · obtain ⟨t, hn, ht, hstart, -⟩ := exists_mark_of_isInline htag
      rw [event, hstart]
      exact hinline (.of_pair ht (by simp [hn])) ha
    · exact (a.blockSteps_start (by simpa using htag)).preserves hblock ha
  | finish tag =>
    -- An end without a start does what the end of some tag does.
    obtain ⟨tag, rfl⟩ := exists_toEnd_eq tag
    by_cases htag : tag.isInline = true
    · obtain ⟨t, hn, ht, -, hfinish⟩ := exists_mark_of_isInline htag
      rw [event, hfinish]
      exact hinline (.of_pair (Token.isSource_mark (ht.pair (by simp [hn])) nofun) nofun) ha
    · exact (a.blockSteps_finishTag (by simpa using htag)).preserves hblock ha
  | rule => exact hblock (.rule _ _) (hblock (.flush a) ha)
  | _ => simp [Event.isInlineLeaf] at he

theorem foldl_preserves
    (hinline : ∀ {a : Assembly} {t : Token}, t.IsSource → I a → I (a.pushInline t))
    (events : List Event) : ∀ {a : Assembly}, I a → I (events.foldl event a) := by
  induction events with
  | nil => exact fun ha => ha
  | cons e events ih =>
    exact fun ha => ih (event_preserves hblock (fun ht => hinline ht.toIsSource) ha)

theorem closeAll_preserves (fuel : Nat) : ∀ {a : Assembly}, I a → I (closeAll fuel a) := by
  induction fuel with
  | zero => exact fun ha => ha
  | succ fuel ih =>
    intro a ha
    rw [closeAll]
    split
    · exact ha
    · exact ih (hblock (.closeBlock a) ha)

theorem finish_preserves {a : Assembly} (ha : I a) : I a.finish :=
  closeAll_preserves hblock _ (hblock (.flush a) ha)

end Preserves

/-! ### The parts of a step -/

section Parts

variable {a : Assembly}

theorem flush_of_none (h : a.run = none) : a.flush = a := by
  rw [flush, h]

theorem flush_of_explicit {children : List Token} (h : a.run = some ⟨children, false⟩) :
    a.flush = { a with run := none }.push (.inlineRun children.reverse a.level) := by
  rw [flush, h]
  rfl

theorem flush_of_implicit {children : List Token} (h : a.run = some ⟨children, true⟩) :
    a.flush = ({ a with run := none, stack := a.stack.tail }.push
      (.inlineRun children.reverse a.level)).push
        { Token.closing .paragraph (a.level - 1) with hidden := true } := by
  rw [flush, h]
  rfl

theorem closeBlock_of_nil (h : a.flush.stack = []) : a.closeBlock = a.flush := by
  simp only [closeBlock, h]

theorem closeBlock_of_cons {kind : Kind} {outer : List Kind} (h : a.flush.stack = kind :: outer) :
    a.closeBlock = { a.flush with stack := outer }.push (.closing kind outer.length) := by
  simp only [closeBlock, h]

theorem pushInline_of_some {run : InlineRun} (h : a.run = some run) (t : Token) :
    a.pushInline t = { a with run := some { run with children := addInline run.children t } } := by
  rw [pushInline, h]

theorem pushInline_of_none (h : a.run = none) (t : Token) :
    a.pushInline t = { a with stack := .paragraph :: a.stack, run := some ⟨[t], true⟩ }.push
      { Token.opening .paragraph a.level with hidden := true } := by
  rw [pushInline, h]

end Parts

/-! ### The tokens that are put together -/

/-- All tokens so far are blocks, and so are the open ones.  The run holds inline tokens with
their texts joined. -/
structure Sound (a : Assembly) : Prop where
  tokens : ∀ t ∈ a.tokens, t.IsAssembled
  stack : ∀ k ∈ a.stack, k.isBlockPair = true
  inlines : ∀ run, a.run = some run → ∀ c ∈ run.children, c.IsSource
  separated : ∀ run, a.run = some run → Separated run.children
  capture : Capture.Sound a.capture

theorem separated_reverse {ts : List Token} : Separated ts.reverse ↔ Separated ts := by
  rw [Separated, List.isChain_reverse, Separated]
  simp only [and_comm]

theorem isSource_addInline {children : List Token} {t : Token} (ht : t.IsSource)
    (h : ∀ c ∈ children, c.IsSource) : ∀ c ∈ addInline children t, c.IsSource := by
  cases children with
  | nil => simpa [addInline] using ht
  | cons last before =>
    rw [addInline]
    have hlast : last.IsSource := h last List.mem_cons_self
    have hbefore : ∀ c ∈ before, c.IsSource := fun c hc => h c (List.mem_cons_of_mem last hc)
    split
    · intro c hc
      rcases List.mem_cons.mp hc with rfl | hc
      · exact ⟨⟨hlast.pair, hlast.leaf, hlast.children⟩, hlast.names⟩
      · exact hbefore c hc
    · intro c hc
      rcases List.mem_cons.mp hc with rfl | hc
      · exact ht
      · exact h c hc

theorem separated_addInline {children : List Token} {t : Token} (h : Separated children) :
    Separated (addInline children t) := by
  cases children with
  | nil => exact List.isChain_singleton t
  | cons last before =>
    rw [addInline]
    split
    · next htext =>
      -- The joined text has the kind of the last one.
      cases before with
      | nil => exact List.isChain_singleton _
      | cons u us =>
        rw [Separated, List.isChain_cons_cons] at h ⊢
        exact h
    · next htext =>
      rw [Separated, List.isChain_cons_cons]
      exact ⟨by simpa using htext, h⟩

theorem Sound.push {a : Assembly} (h : a.Sound) {t : Token} (ht : t.IsAssembled) :
    (a.push t).Sound := by
  refine ⟨fun u hu => ?_, h.stack, h.inlines, h.separated, h.capture⟩
  rcases List.mem_cons.mp hu with rfl | hu
  · exact ht
  · exact h.tokens u hu

theorem Sound.withStack {a : Assembly} (h : a.Sound) {stack : List Kind}
    (hs : ∀ k ∈ stack, k.isBlockPair = true) : Sound { a with stack } :=
  ⟨h.tokens, hs, h.inlines, h.separated, h.capture⟩

theorem Sound.withoutRun {a : Assembly} (h : a.Sound) : Sound { a with run := none } :=
  ⟨h.tokens, h.stack, nofun, nofun, h.capture⟩

theorem Sound.flush {a : Assembly} (h : a.Sound) : a.flush.Sound := by
  cases hr : a.run with
  | none => rwa [flush_of_none hr]
  | some run =>
    obtain ⟨children, implicit⟩ := run
    have hrun : (Token.inlineRun children.reverse a.level).IsAssembled := by
      refine Token.isAssembled_inlineRun _ (fun c hc => ?_) ?_
      · exact h.inlines _ hr c (List.mem_reverse.mp hc)
      · exact separated_reverse.mpr (h.separated _ hr)
    cases implicit with
    | false =>
      rw [flush_of_explicit hr]
      exact h.withoutRun.push hrun
    | true =>
      rw [flush_of_implicit hr]
      -- The paragraph of the run is taken off the stack without a look at it.
      have htail : ∀ k ∈ a.stack.tail, k.isBlockPair = true :=
        fun k hk => h.stack k (List.mem_of_mem_tail hk)
      refine Sound.push ((h.withoutRun.withStack htail).push hrun) ?_
      exact Token.isAssembled_of_pair nofun rfl rfl

theorem Sound.openBlock {a : Assembly} (h : a.Sound) {t : Token} (hn : t.nesting = .opening)
    (hk : t.kind.isBlockPair = true) (hc : t.children = []) : (a.openBlock t).Sound := by
  have ht : t.IsAssembled := Token.isAssembled_of_pair (by simp [hn]) hk hc
  refine Sound.push (h.flush.withStack fun k hk' => ?_) ht
  rcases List.mem_cons.mp hk' with rfl | hk'
  · exact hk
  · exact h.flush.stack k hk'

theorem Sound.closeBlock {a : Assembly} (h : a.Sound) : a.closeBlock.Sound := by
  cases hs : a.flush.stack with
  | nil =>
    rw [closeBlock_of_nil hs]
    exact h.flush
  | cons kind outer =>
    rw [closeBlock_of_cons hs]
    have hstack : ∀ k ∈ kind :: outer, k.isBlockPair = true := hs ▸ h.flush.stack
    refine Sound.push (h.flush.withStack fun k hk => hstack k (List.mem_cons_of_mem kind hk)) ?_
    exact Token.isAssembled_of_pair nofun (hstack kind List.mem_cons_self) rfl

theorem Sound.endCapture {a : Assembly} (h : a.Sound) : a.endCapture.Sound := by
  have hnone : Sound { a with capture := none } :=
    ⟨h.tokens, h.stack, h.inlines, h.separated, Capture.sound_none⟩
  unfold Assembly.endCapture
  split
  · next fence hc =>
    obtain ⟨hn, hk, hbare⟩ := h.capture fence hc
    exact hnone.push (Token.isAssembled_of_leaf hn (by rw [hk]; rfl) (by simp [hk]) hbare)
  · exact hnone.push (Token.isAssembled_of_leaf rfl rfl nofun rfl)
  · exact ⟨h.tokens, h.stack, h.inlines, h.separated, Capture.sound_none⟩
  · exact h

theorem Sound.blockStep {a b : Assembly} (hstep : BlockStep a b) (h : a.Sound) : b.Sound := by
  cases hstep with
  | flush => exact h.flush
  | openBlock hn hk hc hh => exact h.openBlock hn hk hc
  | closeBlock => exact h.closeBlock
  | startRun =>
    refine ⟨h.tokens, h.stack, fun run hr => ?_, fun run hr => ?_, h.capture⟩ <;>
      (simp only [startRun, Option.some.injEq] at hr; subst hr)
    · nofun
    · exact List.isChain_nil
  | rule level => exact h.push (Token.isAssembled_of_leaf rfl rfl nofun rfl)
  | capture hc => exact ⟨h.tokens, h.stack, h.inlines, h.separated, hc h.capture⟩
  | endCapture => exact h.endCapture
  | note ht hs hr hc =>
    exact ⟨ht ▸ h.tokens, hs ▸ h.stack, hr ▸ h.inlines, hr ▸ h.separated, hc ▸ h.capture⟩

theorem Sound.pushInline {a : Assembly} {t : Token} (ht : t.IsSource) (h : a.Sound) :
    (a.pushInline t).Sound := by
  cases hr : a.run with
  | some run =>
    rw [pushInline_of_some hr]
    refine ⟨h.tokens, h.stack, fun run' hr' => ?_, fun run' hr' => ?_, h.capture⟩ <;>
      (simp only [Option.some.injEq] at hr'; subst hr')
    · exact isSource_addInline ht (h.inlines run hr)
    · exact separated_addInline (h.separated run hr)
  | none =>
    rw [pushInline_of_none hr]
    have hopen : Sound { a with stack := .paragraph :: a.stack, run := some ⟨[t], true⟩ } := by
      refine ⟨h.tokens, fun k hk => ?_, fun run hr' => ?_, fun run hr' => ?_, h.capture⟩
      · rcases List.mem_cons.mp hk with rfl | hk
        · rfl
        · exact h.stack k hk
      · simp only [Option.some.injEq] at hr'
        subst hr'
        simpa using ht
      · simp only [Option.some.injEq] at hr'
        subst hr'
        exact List.isChain_singleton t
    refine hopen.push ?_
    exact Token.isAssembled_of_pair nofun rfl rfl

theorem sound_foldl (events : List Event) : (events.foldl event {}).Sound :=
  foldl_preserves Sound.blockStep Sound.pushInline events
    ⟨List.forall_mem_nil _, List.forall_mem_nil _, nofun, nofun, Capture.sound_none⟩

end Assembly

/-- **Every run separates its texts and caches the text of its children**, whatever the events
are. -/
theorem isAssembled_of_mem_assemble (events : List Event) :
    ∀ t ∈ (assemble events).1, t.IsAssembled := by
  have h := Assembly.finish_preserves Assembly.Sound.blockStep (Assembly.sound_foldl events)
  exact fun t ht => h.tokens t (List.mem_reverse.mp ht)

end Markdown

end Folio
