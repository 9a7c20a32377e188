import Folio.Proofs.NormalForm

/-!
# Reading tokens

The tokens of a document are read back as events.  A run is read as its children, a code or an HTML
block as a block with its text.  Three kinds of tokens stand for no event of their own and are
passed over: hidden paragraphs, the bodies of tables and the row in the head of a table.

The alignments of a table are not in its own token, so they are read from the cells of its head.

## Main definitions

* `Token.inlineEvent?`, `Token.events?` — what a token is read as.
* `readTokens` — what a list of tokens is read as.
* `Reads` — what tokens are read as, whatever follows them.

## Main results

* `readAs_addInline` — joining texts in a run reads as joining texts.
* `reads_table` — the tokens of a table are read as the table.
-/

namespace Folio

open Markdown

/-! ### Reading one token -/

/-- What a link or an image refers to, with the address under `name`. -/
def Token.target? (t : Token) (name : String) : Option Target :=
  (t.attr? name).map fun destination => ⟨destination, (t.attr? "title").getD ""⟩

/-- The inline container that a token begins. -/
def Token.inlineTag? (t : Token) : Option Tag :=
  match t.kind with
  | .emphasis => some .emphasis
  | .strong => some .strong
  | .strikethrough => some .strikethrough
  | .superscript => some .superscript
  | .subscript => some .subscript
  | .link => (t.target? "href").map .link
  | .image => (t.target? "src").map .image
  | _ => none

/-- The end of an inline container. -/
def Kind.inlineEnd? : Kind → Option TagEnd
  | .emphasis => some .emphasis
  | .strong => some .strong
  | .strikethrough => some .strikethrough
  | .superscript => some .superscript
  | .subscript => some .subscript
  | .link => some .link
  | .image => some .image
  | _ => none

/-- What an inline token that stands alone is read as. -/
def Token.inlineLeaf? (t : Token) : Option Event :=
  match t.kind with
  | .text => some (.text t.content)
  | .codeInline => some (.code t.content)
  | .htmlInline => some (.inlineHtml t.content)
  | .softBreak => some .softBreak
  | .hardBreak => some .hardBreak
  | .taskMarker checked => some (.taskMarker checked)
  | _ => none

/-- What an inline token is read as. -/
def Token.inlineEvent? (t : Token) : Option Event :=
  match t.nesting with
  | .opening => t.inlineTag?.map .start
  | .closing => t.kind.inlineEnd?.map .finish
  | .single => t.inlineLeaf?

/-- The alignment that the style of a cell stands for. -/
def Token.alignment? (t : Token) : Option Markdown.Alignment :=
  match t.attr? "style" with
  | none => some .none
  | some style => [.left, .center, .right].find? fun alignment => alignment.style? == some style

/-- The alignments of the cells up to the end of the head of a table. -/
def columns? : List Token → Option (List Markdown.Alignment)
  | [] => some []
  | t :: ts =>
    if t.kind == .tableHead && t.isClosing then some []
    else if t.kind == .tableHeaderCell && t.isOpening then
      t.alignment?.bind fun alignment => (columns? ts).map (alignment :: ·)
    else columns? ts

/-- The number that is written in digits. -/
def readNumber? (s : String) : Option Nat :=
  if s.toList.all Char.isDigit then some (Nat.ofDigitChars 10 s.toList 0) else none

theorem readNumber?_toString (n : Nat) : readNumber? (toString n) = some n := by
  have hdigits : (toString n).toList = Nat.toDigits 10 n := Nat.toList_repr
  have hall : (Nat.toDigits 10 n).all Char.isDigit = true :=
    List.all_eq_true.mpr fun _ hc => Nat.isDigit_of_mem_toDigits (by decide) (by decide) hc
  rw [readNumber?, hdigits, if_pos hall, Nat.ofDigitChars_ten_toDigits]

/-- The first number of a numbered list. -/
def Token.firstNumber? (t : Token) : Option Nat :=
  match t.attr? "start" with
  | none => some 1
  | some digits => readNumber? digits

/-- The block that a token begins, with these tokens behind it. -/
def Token.blockTag? (t : Token) (ahead : List Token) : Option Tag :=
  match t.kind with
  | .paragraph => some .paragraph
  | .heading n => some (.heading n)
  | .blockquote => some .blockquote
  | .bulletList => some (.list none)
  | .orderedList => t.firstNumber?.map fun n => .list (some n)
  | .listItem => some .item
  | .definitionList => some .definitionList
  | .definitionTerm => some .definitionTerm
  | .definitionDetails => some .definitionDetails
  | .table => (columns? ahead).map .table
  | .tableHead => some .tableHead
  | .tableRow => some .tableRow
  | .tableHeaderCell | .tableDataCell => some .tableCell
  | _ => none

/-- The end of a block. -/
def Kind.blockEnd? : Kind → Option TagEnd
  | .paragraph => some .paragraph
  | .heading n => some (.heading n)
  | .blockquote => some .blockquote
  | .bulletList => some (.list false)
  | .orderedList => some (.list true)
  | .listItem => some .item
  | .definitionList => some .definitionList
  | .definitionTerm => some .definitionTerm
  | .definitionDetails => some .definitionDetails
  | .table => some .table
  | .tableHead => some .tableHead
  | .tableRow => some .tableRow
  | .tableHeaderCell | .tableDataCell => some .tableCell
  | _ => none

/-- What a block that is one token is read as. -/
def Token.blockLeaf? (t : Token) : Option (List Event) :=
  match t.kind with
  | .inline => t.children.mapM Token.inlineEvent?
  | .fence => some [.start (.codeBlock (some t.info)), .text t.content, .finish .codeBlock]
  | .htmlBlock => some [.start .htmlBlock, .text t.content, .finish .htmlBlock]
  | .rule => some [.rule]
  | _ => none

/-- The token stands for no event of its own. -/
def Token.isAdded (inHead : Bool) (t : Token) : Bool :=
  (t.kind == .paragraph && t.hidden) || t.kind == .tableBody || (inHead && t.kind == .tableRow)

/-- What a token is read as, in or outside of the head of a table and with these tokens behind
it. -/
def Token.events? (inHead : Bool) (ahead : List Token) (t : Token) : Option (List Event) :=
  if t.isAdded inHead then some []
  else match t.nesting with
    | .opening => (t.blockTag? ahead).map fun tag => [.start tag]
    | .closing => t.kind.blockEnd?.map fun tag => [.finish tag]
    | .single => t.blockLeaf?

/-- Whether what stands behind a token is in the head of a table. -/
def Token.headBehind (inHead : Bool) (t : Token) : Bool :=
  if t.kind == .tableHead then t.isOpening else inHead

/-- What tokens are read as, in or outside of the head of a table. -/
def readFrom : Bool → List Token → Option (List Event)
  | _, [] => some []
  | inHead, t :: ts =>
    (t.events? inHead ts).bind fun es => (readFrom (t.headBehind inHead) ts).map (es ++ ·)

/-- What the tokens of a document are read as. -/
def readTokens (ts : List Token) : Option (List Event) := readFrom false ts

namespace Markdown

/-! ### Runs -/

/-- An inline token is read as an event. -/
def ReadAs (t : Token) (e : Event) : Prop := t.inlineEvent? = some e

theorem mapM_of_readAs {ts : List Token} {es : List Event} (h : List.Forall₂ ReadAs ts es) :
    ts.mapM Token.inlineEvent? = some es := by
  induction h with
  | nil => rfl
  | cons hhead _ ih => simp [List.mapM_cons, show _ = _ from hhead, ih]

/-- Texts are read as texts, and all else as something else. -/
theorem ReadAs.text_or {t : Token} {e : Event} (h : ReadAs t e) :
    (t.kind = .text ∧ t.nesting = .single ∧ e = .text t.content) ∨
      t.kind ≠ .text ∧ e.isText = false := by
  unfold ReadAs Token.inlineEvent? at h
  cases hn : t.nesting with
  | opening =>
    simp only [hn, Option.map_eq_some_iff] at h
    obtain ⟨tag, htag, rfl⟩ := h
    exact .inr ⟨fun hk => by simp [Token.inlineTag?, hk] at htag, rfl⟩
  | closing =>
    simp only [hn, Option.map_eq_some_iff] at h
    obtain ⟨tag, htag, rfl⟩ := h
    exact .inr ⟨fun hk => by simp [Kind.inlineEnd?, hk] at htag, rfl⟩
  | single =>
    simp only [hn, Token.inlineLeaf?] at h
    cases hk : t.kind <;> simp only [hk, Option.some.injEq, reduceCtorEq] at h
    case text => exact .inl ⟨rfl, rfl, h.symm⟩
    all_goals exact .inr ⟨nofun, h ▸ rfl⟩

/-- Joining texts in a run reads as joining texts. -/
theorem readAs_addInline {children : List Token} {told : List Event} {t : Token} {e : Event}
    (h : List.Forall₂ ReadAs children told) (ht : ReadAs t e) :
    List.Forall₂ ReadAs (Assembly.addInline children t) (joinEvent told e) := by
  cases h with
  | nil => exact .cons ht .nil
  | @cons last e' before told hlast hbefore =>
    rw [Assembly.addInline]
    rcases ht.text_or with ⟨hk, -, rfl⟩ | ⟨hk, he⟩
    · rcases hlast.text_or with ⟨hk', hn', rfl⟩ | ⟨hk', he'⟩
      · rw [if_pos (by simp [hk, hk'])]
        refine .cons ?_ hbefore
        simp [ReadAs, Token.inlineEvent?, Token.inlineLeaf?, hn', hk']
      · rw [if_neg (by simp [hk']), joinEvent_cons_of_not_text he']
        exact .cons ht (.cons hlast hbefore)
    · rw [if_neg (by simp [hk]), joinEvent_of_not_text he]
      exact .cons ht (.cons hlast hbefore)

theorem target?_targetToken (kind : Kind) {name : String} (hname : name ≠ "title")
    (target : Target) : (Assembly.targetToken kind name target).target? name = some target := by
  obtain ⟨destination, title⟩ := target
  have hne : ("title" == name) = false := beq_eq_false_iff_ne.mpr hname.symm
  by_cases htitle : title = ""
  · simp [Assembly.targetToken, htitle, Token.target?, Token.attr?, Token.setAttr, Token.mark,
      Attributes.set, Attributes.get?, hname.symm]
  · simp [Assembly.targetToken, htitle, Token.target?, Token.attr?, Token.setAttr, Token.mark,
      Attributes.set, Attributes.get?, List.lookup_cons, hname, hne]

/-- The start of an inline container is read back, and so is its end. -/
theorem readAs_mark {tag : Tag} (htag : tag.isInline = true) :
    ∃ t u, (Event.start tag).inlineToken? = some t ∧
      (Event.finish tag.toEnd).inlineToken? = some u ∧
      (Event.start tag).restated? = some (.start tag) ∧
      (Event.finish tag.toEnd).restated? = some (.finish tag.toEnd) ∧
      ReadAs t (.start tag) ∧ ReadAs u (.finish tag.toEnd) := by
  have htarget : ∀ (kind : Kind) (name : String) (target : Target),
      (Assembly.targetToken kind name target).nesting = .opening ∧
        (Assembly.targetToken kind name target).kind = kind := fun kind name target => by
    unfold Assembly.targetToken
    dsimp only
    split <;> exact ⟨rfl, rfl⟩
  cases tag with
  | emphasis | strong | strikethrough | superscript | subscript =>
    exact ⟨_, _, rfl, rfl, rfl, rfl, rfl, rfl⟩
  | link target =>
    refine ⟨_, _, rfl, rfl, rfl, rfl, ?_, rfl⟩
    simp [ReadAs, Token.inlineEvent?, Token.inlineTag?, (htarget _ _ _).1, (htarget _ _ _).2,
      target?_targetToken .link (show "href" ≠ "title" by decide)]
  | image target =>
    refine ⟨_, _, rfl, rfl, rfl, rfl, ?_, rfl⟩
    simp [ReadAs, Token.inlineEvent?, Token.inlineTag?, (htarget _ _ _).1, (htarget _ _ _).2,
      target?_targetToken .image (show "src" ≠ "title" by decide)]
  | _ => simp [Tag.isInline] at htag

/-- The tokens that inline events add are read as the events, restated. -/
theorem readAs_inlineOnly {es : List Event} (hes : InlineOnly es) : List.Forall₂ ReadAs
    (es.filterMap Event.inlineToken?) (es.filterMap Event.restated?) := by
  induction hes with
  | nil => exact .nil
  | @leaf e es he _ ih =>
    cases e with
    | start _ | finish _ | rule => simp [Event.isInlineLeaf] at he
    | footnoteReference _ => exact ih
    | _ => exact .cons rfl ih
  | @span tag body es htag _ _ ihbody ih =>
    obtain ⟨t, u, ht, hu, hstart, hfinish, hread, hread'⟩ := readAs_mark htag
    simp only [within, List.cons_append, List.append_assoc, List.nil_append, List.filterMap_append,
      List.filterMap_cons, ht, hu, hstart, hfinish]
    exact .cons hread (List.rel_append ihbody (.cons hread' ih))

theorem readAs_foldl {ts : List Token} {es : List Event} (h : List.Forall₂ ReadAs ts es) :
    ∀ {children : List Token} {told : List Event}, List.Forall₂ ReadAs children told →
      List.Forall₂ ReadAs (ts.foldl Assembly.addInline children) (es.foldl joinEvent told) := by
  induction h with
  | nil => exact fun h => h
  | cons ht _ ih => exact fun h => ih (readAs_addInline h ht)

/-- The normal form of the events of a run. -/
def runEvents (es : List Event) : List Event := joinAdjacent (es.filterMap Event.restated?)

/-- **A run is read as the events of the run.** -/
theorem readAs_runTokens {es : List Event} (hes : InlineOnly es) :
    List.Forall₂ ReadAs (runTokens es) (runEvents es) :=
  List.rel_reverse (readAs_foldl (readAs_inlineOnly hes) .nil)

/-! ### Reading a stretch of tokens -/

/-- The tokens are read as these events, whatever follows them.  The flags tell whether they begin
and end in the head of a table. -/
def Reads (inHead inHead' : Bool) (ts : List Token) (es : List Event) : Prop :=
  ∀ rest, readFrom inHead (ts ++ rest) = (readFrom inHead' rest).map (es ++ ·)

variable {b b' b'' : Bool} {ts ts' : List Token} {es es' : List Event} {t : Token}

theorem Reads.readTokens (h : Reads false false ts es) : readTokens ts = some es := by
  have h := h []
  rwa [List.append_nil, readFrom, Option.map_some, List.append_nil] at h

theorem Reads.nil (b : Bool) : Reads b b [] [] := fun rest => by simp

theorem Reads.append (h : Reads b b' ts es) (h' : Reads b' b'' ts' es') :
    Reads b b'' (ts ++ ts') (es ++ es') := fun rest => by
  rw [List.append_assoc, h, h', Option.map_map]
  congr 1
  funext tail
  exact (List.append_assoc es es' tail).symm

/-- A token that is read the same whatever follows it. -/
theorem Reads.token (h : ∀ ahead, t.events? b ahead = some es) :
    Reads b (t.headBehind b) [t] es := fun rest => by
  rw [List.singleton_append, readFrom, h, Option.bind_some]

/-- A token that stands for no event of its own. -/
theorem Reads.added (h : t.isAdded b = true) (hk : t.kind ≠ .tableHead) : Reads b b [t] [] := by
  have hread : Reads b (t.headBehind b) [t] [] := .token fun ahead => by
    rw [Token.events?, if_pos h]
  rwa [Token.headBehind, if_neg (by simpa using hk)] at hread

theorem Reads.opening {tag : Tag} (hn : t.nesting = .opening) (hadded : t.isAdded b = false)
    (htag : ∀ ahead, t.blockTag? ahead = some tag) :
    Reads b (t.headBehind b) [t] [.start tag] :=
  .token fun ahead => by simp [Token.events?, hadded, hn, htag]

theorem Reads.closing {tag : TagEnd} (hn : t.nesting = .closing) (hadded : t.isAdded b = false)
    (htag : t.kind.blockEnd? = some tag) : Reads b (t.headBehind b) [t] [.finish tag] :=
  .token fun ahead => by simp [Token.events?, hadded, hn, htag]

/-- A run is read as its children. -/
theorem Reads.run {children : List Token} (h : List.Forall₂ ReadAs children es) (l : Nat) :
    Reads b b [.inlineRun children l] es := by
  refine .token fun ahead => ?_
  have hadded : (Token.inlineRun children l).isAdded b = false := by
    simp [Token.isAdded, Token.inlineRun]
  rw [Token.events?, if_neg (by simp [hadded])]
  exact mapM_of_readAs h

/-! ### Tables -/

theorem headBehind_of_ne (hk : t.kind ≠ .tableHead) : t.headBehind b = b := by
  rw [Token.headBehind, if_neg (by simpa using hk)]

/-- A block that is read the same wherever it stands. -/
theorem Reads.element {kind : Kind} {attrs : Attributes} {tag : Tag}
    (h : IsElement kind attrs ts' ts) (hkind : kind ≠ .tableHead)
    (hadded : ∀ t : Token, t.kind = kind → t.hidden = false → t.isAdded b = false)
    (htag : ∀ (t : Token) ahead, t.kind = kind → t.blockTag? ahead = some tag)
    (hend : kind.blockEnd? = some tag.toEnd) (hinside : Reads b b ts' es) :
    Reads b b ts (within tag es) := by
  obtain ⟨start, stop, rfl, rfl, hn, hh, -, hk', hn', hh'⟩ := h
  have hstart := Reads.opening hn (hadded start rfl hh) fun ahead => htag start ahead rfl
  have hstop := Reads.closing hn' (hadded stop hk' hh') (by rw [hk', hend])
  rw [headBehind_of_ne hkind] at hstart
  rw [headBehind_of_ne (by rwa [hk'])] at hstop
  exact hstart.append (hinside.append hstop)

/-- A block that stands for no event of its own. -/
theorem Reads.addedElement {kind : Kind} {attrs : Attributes} (h : IsElement kind attrs ts' ts)
    (hkind : kind ≠ .tableHead) (hadded : ∀ t : Token, t.kind = kind → t.isAdded b = true)
    (hinside : Reads b b ts' es) : Reads b b ts es := by
  obtain ⟨start, stop, rfl, rfl, -, -, -, hk', -, -⟩ := h
  have hstart := Reads.added (hadded start rfl) hkind
  have hstop := Reads.added (hadded stop hk') (by rwa [hk'])
  simpa using hstart.append (hinside.append hstop)

theorem Reads.cell {kind : Kind} {alignment : Option Alignment} {children cell : List Token}
    (hkind : kind = .tableHeaderCell ∨ kind = .tableDataCell)
    (h : IsCell kind alignment children cell) (hread : List.Forall₂ ReadAs children es) :
    Reads b b cell (within .tableCell es) := by
  obtain ⟨l, h⟩ := h
  rcases hkind with rfl | rfl
  all_goals
    exact .element h nofun (fun t hk hh => by simp [Token.isAdded, hk])
      (fun t ahead hk => by simp [Token.blockTag?, hk]) rfl (.run hread l)

theorem Reads.cells {kind : Kind} {alignments : List Alignment} {column : Nat}
    {inside cells : List (List Token)} {bodies : List (List Event)}
    (hkind : kind = .tableHeaderCell ∨ kind = .tableDataCell)
    (h : AreCells kind alignments column inside cells)
    (hread : List.Forall₂ (List.Forall₂ ReadAs) inside bodies) :
    Reads b b cells.flatten (cellsOf bodies) := by
  induction h generalizing bodies with
  | nil =>
    cases hread
    exact .nil b
  | cons hcell _ ih =>
    cases hread with
    | cons hbody hbodies => exact (Reads.cell hkind hcell hbody).append (ih hbodies)

/-- A row of the body is read as a row. -/
theorem Reads.row {alignments : List Alignment} {inside : List (List Token)}
    {bodies : List (List Event)} (h : IsRow .tableDataCell alignments inside ts)
    (hread : List.Forall₂ (List.Forall₂ ReadAs) inside bodies) :
    Reads false false ts (rowOf bodies) := by
  obtain ⟨cells, hcells, h⟩ := h
  exact .element h nofun (fun t hk hh => by simp [Token.isAdded, hk])
    (fun t ahead hk => by simp [Token.blockTag?, hk]) rfl (.cells (.inr rfl) hcells hread)

theorem Reads.rows {alignments : List Alignment} {insides : List (List (List Token))}
    {rows : List (List Token)} (h : List.Forall₂ (IsRow .tableDataCell alignments) insides rows) :
    ∀ {bodies : List (List (List Event))},
      List.Forall₂ (List.Forall₂ (List.Forall₂ ReadAs)) insides bodies →
        Reads false false rows.flatten (bodies.flatMap rowOf) := by
  induction h with
  | nil =>
    intro bodies hread
    cases hread
    exact .nil false
  | cons hrow _ ih =>
    intro bodies hread
    cases hread with
    | cons hbody hbodies => exact (Reads.row hrow hbody).append (ih hbodies)

/-- The head of a table is read as the head, without the row in it. -/
theorem Reads.head {alignments : List Alignment} {inside : List (List Token)}
    {bodies : List (List Event)} (h : IsHead alignments inside ts)
    (hread : List.Forall₂ (List.Forall₂ ReadAs) inside bodies) :
    Reads false false ts (within .tableHead (cellsOf bodies)) := by
  obtain ⟨row, ⟨cells, hcells, hrow⟩, start, stop, rfl, hk, hn, hh, -, hk', hn', hh'⟩ := h
  have hstart : Reads false (start.headBehind false) [start] [.start .tableHead] :=
    .opening hn (by simp [Token.isAdded, hk]) fun ahead => by simp [Token.blockTag?, hk]
  have hstop : Reads true (stop.headBehind true) [stop] [.finish .tableHead] :=
    .closing hn' (by simp [Token.isAdded, hk']) (by simp [Kind.blockEnd?, hk'])
  have hinside : Reads true true row (cellsOf bodies) :=
    .addedElement hrow nofun (fun t hk => by simp [Token.isAdded, hk])
      (.cells (.inl rfl) hcells hread)
  rw [Token.headBehind, if_pos (by simp [hk]), Token.isOpening, hn] at hstart
  rw [Token.headBehind, if_pos (by simp [hk']), Token.isOpening, hn'] at hstop
  exact hstart.append (hinside.append hstop)

theorem Reads.body {alignments : List Alignment} {insides : List (List (List Token))}
    {bodies : List (List (List Event))} (h : IsBody alignments insides ts)
    (hread : List.Forall₂ (List.Forall₂ (List.Forall₂ ReadAs)) insides bodies) :
    Reads false false ts (bodies.flatMap rowOf) := by
  unfold IsBody at h
  split at h
  · next hnil =>
    subst hnil h
    cases hread
    exact .nil false
  · obtain ⟨rows, hrows, h⟩ := h
    exact .addedElement h nofun (fun t hk => by simp [Token.isAdded, hk]) (.rows hrows hread)

/-! ### The alignments of a table -/

/-- The style of a cell stands for the alignment of its column. -/
theorem alignment?_of_attrs {alignment : Option Alignment}
    (h : t.attrs = cellAttributes alignment) : t.alignment? = some (alignment.getD .none) := by
  rcases alignment with _ | _ | _ | _ | _ <;>
    simp [Token.alignment?, Token.attr?, h, cellAttributes, Attributes.get?, Alignment.style?]

theorem columns_drop_succ (alignments : List Alignment) (column n : Nat) :
    columns (alignments.drop column) (n + 1)
      = alignments[column]?.getD .none :: columns (alignments.drop (column + 1)) n := by
  rw [columns, List.head?_drop, List.tail_drop]

theorem columns?_cells {alignments : List Alignment} {column : Nat}
    {inside cells : List (List Token)}
    (h : AreCells .tableHeaderCell alignments column inside cells) (rest : List Token) :
    columns? (cells.flatten ++ rest)
      = (columns? rest).map (columns (alignments.drop column) inside.length ++ ·) := by
  induction h with
  | nil => simp [columns]
  | @cons column children cell inside cells hcell _ ih =>
    obtain ⟨l, start, stop, rfl, hk, hn, -, hattrs, hk', hn', -⟩ := hcell
    have halignment := alignment?_of_attrs hattrs
    rw [List.length_cons, columns_drop_succ]
    simp [columns?, hk, hk', hn, hn', Token.isClosing, Token.isOpening, halignment, ih,
      Token.inlineRun, Option.map_map, Function.comp_def]

/-- **The alignments of a table are read from the cells of its head.** -/
theorem columns?_head {alignments : List Alignment} {inside : List (List Token)}
    (h : IsHead alignments inside ts) (rest : List Token) :
    columns? (ts ++ rest) = some (columns alignments inside.length) := by
  obtain ⟨row, ⟨cells, hcells, hrow⟩, start, stop, rfl, hk, hn, -, -, hk', hn', -⟩ := h
  obtain ⟨first, last, rfl, hfirst, -, -, -, hlast, -, -⟩ := hrow
  have h := columns?_cells hcells (last :: stop :: rest)
  rw [List.drop_zero] at h
  simpa [columns?, hk, hn, hk', hn', hfirst, hlast, Token.isClosing] using h

/-- **The tokens of a table are read as the table**, with the alignments of the columns of its
head. -/
theorem reads_table {alignments : List Alignment} {inHead : List (List Token)}
    {inRows : List (List (List Token))} {head : List (List Event)}
    {rows : List (List (List Event))} (h : IsTable alignments inHead inRows ts)
    (hhead : List.Forall₂ (List.Forall₂ ReadAs) inHead head)
    (hrows : List.Forall₂ (List.Forall₂ (List.Forall₂ ReadAs)) inRows rows) :
    Reads false false ts (tableOf (columns alignments head.length) head rows) := by
  obtain ⟨headTokens, body, hheadTokens, hbody, start, stop, rfl, hk, hn, hh, -, hk', hn', hh'⟩ := h
  have hinside : Reads false false (headTokens ++ (body ++ [stop]))
      (within .tableHead (cellsOf head) ++ (rows.flatMap rowOf ++ [Event.finish .table])) := by
    have hstop : Reads false (stop.headBehind false) [stop] [.finish .table] :=
      .closing hn' (by simp [Token.isAdded, hk']) (by simp [Kind.blockEnd?, hk'])
    rw [headBehind_of_ne (by simp [hk'])] at hstop
    exact (Reads.head hheadTokens hhead).append ((Reads.body hbody hrows).append hstop)
  intro rest
  -- The token of the table is read with the cells of its head in view.
  have hevents : start.events? false (headTokens ++ (body ++ (stop :: rest)))
      = some [.start (.table (columns alignments head.length))] := by
    simp [Token.events?, Token.isAdded, hk, hn, Token.blockTag?, columns?_head hheadTokens,
      hhead.length_eq]
  have hread := hinside rest
  simp only [List.cons_append, List.append_assoc, List.nil_append] at hread ⊢
  rw [readFrom, hevents, Option.bind_some, headBehind_of_ne (by simp [hk]), hread, Option.map_map]
  simp [tableOf, within, Tag.toEnd, Function.comp_def]

end Markdown

end Folio
