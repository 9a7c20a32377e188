import Folio.Proofs.Levels
import Folio.Proofs.RunTokens

/-!
# The tokens of a table

The start of a table, of its head and of a row each set what the cells behind them depend on: the
alignments, whether the cells belong to the head, and the column.  So what a table becomes depends
on nothing that came before it, and no table shows in the next.

## Main definitions

* `rowOf`, `tableOf` — the events of a row and of a table with given cells.
* `IsElement` — the tokens of a block with what stands in it.
* `IsCell`, `IsRow`, `IsHead`, `IsBody`, `IsTable` — the tokens of a table and of its parts.

## Main results

* `Assembly.foldl_row` — a row becomes the tokens of a row.
* `Assembly.foldl_table` — a table becomes the tokens of a table, whatever the assembly was like.
* `isTable_assemble` — **every table of a sequence of events becomes a table**, with a body if it
  has rows and with the alignments of its columns in every row.
-/

namespace Folio

namespace Markdown

/-! ### The events of a table -/

/-- The events of the cells of a row. -/
def cellsOf (cells : List (List Event)) : List Event := cells.flatMap (within .tableCell)

/-- The events of a row of the body. -/
def rowOf (cells : List (List Event)) : List Event := within .tableRow (cellsOf cells)

/-- The events of a table: a head, then the rows of its body. -/
def tableOf (alignments : List Alignment) (head : List (List Event))
    (rows : List (List (List Event))) : List Event :=
  within (.table alignments) (within .tableHead (cellsOf head) ++ rows.flatMap rowOf)

/-- The cells hold inline events. -/
def HoldInlines (cells : List (List Event)) : Prop := ∀ cell ∈ cells, InlineOnly cell

theorem CellsOnly.exists_eq {es : List Event} (h : CellsOnly es) :
    ∃ cells, HoldInlines cells ∧ es = cellsOf cells := by
  induction h with
  | nil => exact ⟨[], List.forall_mem_nil _, rfl⟩
  | @cons body _ hbody _ ih =>
    obtain ⟨cells, hcells, rfl⟩ := ih
    exact ⟨body :: cells, List.forall_mem_cons.mpr ⟨hbody, hcells⟩, rfl⟩

theorem RowsOnly.exists_eq {es : List Event} (h : RowsOnly es) :
    ∃ rows : List (List (List Event)),
      (∀ cells ∈ rows, HoldInlines cells) ∧ es = rows.flatMap rowOf := by
  induction h with
  | nil => exact ⟨[], List.forall_mem_nil _, rfl⟩
  | @cons body _ hbody _ ih =>
    obtain ⟨rows, hrows, rfl⟩ := ih
    obtain ⟨cells, hcells, rfl⟩ := hbody.exists_eq
    exact ⟨cells :: rows, List.forall_mem_cons.mpr ⟨hcells, hrows⟩, rfl⟩

/-! ### The tokens of a table -/

/-- A block with these attributes, and what stands in it. -/
def IsElement (kind : Kind) (attrs : Attributes) (inside ts : List Token) : Prop :=
  ∃ start stop : Token, ts = start :: (inside ++ [stop]) ∧
    start.kind = kind ∧ start.nesting = .opening ∧ start.hidden = false ∧ start.attrs = attrs ∧
    stop.kind = kind ∧ stop.nesting = .closing ∧ stop.hidden = false

/-- The attributes of a cell in a column: the style of the alignment, if the column has one that
shows. -/
def cellAttributes (alignment : Option Alignment) : Attributes :=
  match alignment.bind Alignment.style? with
  | some style => [("style", style)]
  | none => []

/-- The tokens of a cell: a block with one run in it. -/
def IsCell (kind : Kind) (alignment : Option Alignment) (children ts : List Token) : Prop :=
  ∃ l, IsElement kind (cellAttributes alignment) [.inlineRun children l] ts

/-- The tokens of cells, which hold these tokens, from a column on. -/
inductive AreCells (kind : Kind) (alignments : List Alignment) :
    (column : Nat) → (inside cells : List (List Token)) → Prop
  | nil (column : Nat) : AreCells kind alignments column [] []
  | cons {column : Nat} {children cell : List Token} {inside cells : List (List Token)}
      (hcell : IsCell kind alignments[column]? children cell)
      (hcells : AreCells kind alignments (column + 1) inside cells) :
      AreCells kind alignments column (children :: inside) (cell :: cells)

/-- The tokens of a row of cells that hold `inside`. -/
def IsRow (kind : Kind) (alignments : List Alignment) (inside : List (List Token))
    (ts : List Token) : Prop :=
  ∃ cells, AreCells kind alignments 0 inside cells ∧ IsElement .tableRow [] cells.flatten ts

/-- The tokens of the head of a table: one row of header cells. -/
def IsHead (alignments : List Alignment) (inside : List (List Token)) (ts : List Token) : Prop :=
  ∃ row, IsRow .tableHeaderCell alignments inside row ∧ IsElement .tableHead [] row ts

/-- The tokens of the body of a table: rows of data cells.  Without rows there is no body. -/
def IsBody (alignments : List Alignment) (insides : List (List (List Token)))
    (ts : List Token) : Prop :=
  if insides = [] then ts = []
  else ∃ rows, List.Forall₂ (IsRow .tableDataCell alignments) insides rows ∧
    IsElement .tableBody [] rows.flatten ts

/-- The tokens of a table whose cells hold these tokens. -/
def IsTable (alignments : List Alignment) (inHead : List (List Token))
    (inRows : List (List (List Token))) (ts : List Token) : Prop :=
  ∃ head body, IsHead alignments inHead head ∧ IsBody alignments inRows body ∧
    IsElement .table [] (head ++ body) ts

theorem isElement_of_ends (kind : Kind) (l l' : Nat) (inside : List Token) :
    IsElement kind [] inside (.opening kind l :: (inside ++ [Token.closing kind l'])) :=
  ⟨_, _, rfl, rfl, rfl, rfl, rfl, rfl, rfl, rfl⟩

/-! ### What the cells hold -/

/-- The cells hold the tokens of these events, unless something is captured before them. -/
def HoldTokens (before after : Option Capture) (bodies : List (List Event))
    (inside : List (List Token)) : Prop :=
  inside.length = bodies.length ∧ (before = none → after = none ∧ inside = bodies.map runTokens)

/-- The cells of the rows hold the tokens of these events, unless something is captured before
them. -/
def RowsHoldTokens (before after : Option Capture) (rows : List (List (List Event)))
    (insides : List (List (List Token))) : Prop :=
  insides.map List.length = rows.map List.length ∧
    (before = none → after = none ∧ insides = rows.map (List.map runTokens))

theorem HoldTokens.cons {c c' c'' : Option Capture} {body : List Event}
    {bodies : List (List Event)} {children : List Token} {inside : List (List Token)}
    (h : c = none → c' = none ∧ children = runTokens body) (hs : HoldTokens c' c'' bodies inside) :
    HoldTokens c c'' (body :: bodies) (children :: inside) := by
  refine ⟨by simp [hs.1], fun hc => ?_⟩
  obtain ⟨hc', rfl⟩ := h hc
  obtain ⟨hc'', rfl⟩ := hs.2 hc'
  exact ⟨hc'', rfl⟩

theorem RowsHoldTokens.cons {c c' c'' : Option Capture} {cells : List (List Event)}
    {rows : List (List (List Event))} {inside : List (List Token)}
    {insides : List (List (List Token))} (h : HoldTokens c c' cells inside)
    (hs : RowsHoldTokens c' c'' rows insides) :
    RowsHoldTokens c c'' (cells :: rows) (inside :: insides) := by
  refine ⟨by simp [h.1, hs.1], fun hc => ?_⟩
  obtain ⟨hc', rfl⟩ := h.2 hc
  obtain ⟨hc'', rfl⟩ := hs.2 hc'
  exact ⟨hc'', rfl⟩

namespace Assembly

variable {a : Assembly}

/-! ### Cells -/

theorem openBlock_of_none (h : a.run = none) (t : Token) :
    a.openBlock t = { a with stack := t.kind :: a.stack, tokens := t :: a.tokens } := by
  rw [openBlock, flush_of_none h]
  rfl

/-- The kind of the cells. -/
def cellKind (a : Assembly) : Kind := if a.inHead then .tableHeaderCell else .tableDataCell

/-- The token that begins a cell. -/
def cellToken (a : Assembly) : Token :=
  { Token.opening a.cellKind a.level with attrs := cellAttributes a.alignments[a.column]? }

theorem start_tableCell (a : Assembly) :
    a.start .tableCell = (a.openBlock a.cellToken).startRun := by
  have hcell : (match a.alignments[a.column]?.bind Alignment.style? with
      | some style => (Token.opening a.cellKind a.level).setAttr "style" style
      | none => Token.opening a.cellKind a.level) = a.cellToken := by
    unfold cellToken cellAttributes
    split <;> rfl
  rw [← hcell]
  rfl

/-- A cell becomes the tokens of a cell, and the next one stands in the next column. -/
theorem foldl_cell {body : List Event} (hbody : InlineOnly body) (h : a.run = none) :
    ∃ children cell capture, (within .tableCell body).foldl event a
        = { a with tokens := cell.reverse ++ a.tokens, column := a.column + 1, capture } ∧
      IsCell a.cellKind a.alignments[a.column]? children cell ∧
      (a.capture = none → capture = none ∧ children = runTokens body) := by
  obtain ⟨children, capture, hfold, hchildren⟩ :=
    foldl_run hbody (a := (a.openBlock a.cellToken).startRun) rfl
  rw [startRun, openBlock_of_none h] at hchildren
  refine ⟨children, [a.cellToken, .inlineRun children (a.level + 1), .closing a.cellKind a.level],
    capture, ?_, ⟨a.level + 1, _, _, rfl, rfl, rfl, rfl, rfl, rfl, rfl, rfl⟩, hchildren⟩
  rw [foldl_within_eq, start_tableCell, hfold, openBlock_of_none h]
  obtain ⟨⟩ := a
  cases h
  simp [Tag.toEnd, finishTag, closeBlock, flush, startRun, push, level, cellToken, Token.opening]

/-- Cells become the tokens of cells. -/
theorem foldl_cells (bodies : List (List Event)) : ∀ {a : Assembly}, HoldInlines bodies →
    a.run = none → ∃ inside cells capture, (cellsOf bodies).foldl event a
        = { a with tokens := cells.flatten.reverse ++ a.tokens
                   column := a.column + bodies.length, capture } ∧
      AreCells a.cellKind a.alignments a.column inside cells ∧
      HoldTokens a.capture capture bodies inside := by
  induction bodies with
  | nil => exact fun {a} _ _ => ⟨[], [], a.capture, rfl, .nil _, rfl, fun h => ⟨h, rfl⟩⟩
  | cons body bodies ih =>
    intro a hbodies h
    obtain ⟨children, cell, c, hcell, hspec, hchildren⟩ :=
      foldl_cell (hbodies body List.mem_cons_self) h
    obtain ⟨inside, cells, c', hcells, hspecs, hinside⟩ :=
      ih (a := { a with tokens := cell.reverse ++ a.tokens, column := a.column + 1, capture := c })
        (fun cell hc => hbodies cell (List.mem_cons_of_mem body hc)) h
    refine ⟨children :: inside, cell :: cells, c', ?_, .cons hspec hspecs, .cons hchildren hinside⟩
    rw [cellsOf, List.flatMap_cons, List.foldl_append, hcell]
    refine hcells.trans ?_
    simp [Nat.add_assoc, Nat.add_comm 1]

/-! ### Rows -/

/-- The cells of a row and the end of the row, behind its beginning. -/
theorem foldl_row_from {cells : List (List Event)} (hcells : HoldInlines cells)
    (hrun : a.run = none) (hcolumn : a.column = 0) (l : Nat) :
    ∃ inside row capture,
      ((cellsOf cells).foldl event (a.openBlock (.opening .tableRow l))).closeBlock
        = { a with tokens := row.reverse ++ a.tokens, column := cells.length, capture } ∧
      IsRow a.cellKind a.alignments inside row ∧ HoldTokens a.capture capture cells inside := by
  obtain ⟨tokens, stack, _, capture₀, als, _, head, body, metadata⟩ := a
  cases hrun
  cases hcolumn
  rw [openBlock_of_none rfl]
  obtain ⟨inside, ts, capture, hfold, hspec, hinside⟩ := foldl_cells cells
    (a := ⟨.opening .tableRow l :: tokens, .tableRow :: stack, none, capture₀, als, 0, head, body,
      metadata⟩) hcells rfl
  refine ⟨inside, .opening .tableRow l :: (ts.flatten ++ [Token.closing .tableRow stack.length]),
    capture, ?_, ⟨ts, hspec, isElement_of_ends _ _ _ _⟩, hinside⟩
  refine (congrArg closeBlock hfold).trans ?_
  simp [closeBlock, flush, push]

/-- A row becomes the tokens of a row, once the body of the table is open. -/
theorem foldl_row {cells : List (List Event)} (hcells : HoldInlines cells) (hrun : a.run = none)
    (hhead : a.inHead = false) (hbody : a.inBody = true) :
    ∃ inside row capture, (rowOf cells).foldl event a
        = { a with tokens := row.reverse ++ a.tokens, column := cells.length, capture } ∧
      IsRow .tableDataCell a.alignments inside row ∧
      HoldTokens a.capture capture cells inside := by
  obtain ⟨inside, row, capture, hfold, hspec, hinside⟩ :=
    foldl_row_from (a := { a with column := 0 }) hcells hrun rfl a.level
  rw [cellKind, hhead] at hspec
  refine ⟨inside, row, capture, ?_, hspec, hinside⟩
  rw [rowOf, foldl_within_eq, start_tableRow, rowBase_of_true hbody]
  exact hfold

/-- Rows become the tokens of rows. -/
theorem foldl_rows (rows : List (List (List Event))) : ∀ {a : Assembly},
    (∀ cells ∈ rows, HoldInlines cells) → a.run = none → a.inHead = false → a.inBody = true →
    ∃ insides tokens column capture, (rows.flatMap rowOf).foldl event a
        = { a with tokens := tokens.flatten.reverse ++ a.tokens, column, capture } ∧
      List.Forall₂ (IsRow .tableDataCell a.alignments) insides tokens ∧
      RowsHoldTokens a.capture capture rows insides := by
  induction rows with
  | nil =>
    exact fun {a} _ _ _ _ =>
      ⟨[], [], a.column, a.capture, rfl, .nil, rfl, fun h => ⟨h, rfl⟩⟩
  | cons cells rows ih =>
    intro a hrows hrun hhead hbody
    obtain ⟨inside, row, c, hrow, hspec, hinside⟩ :=
      foldl_row (hrows cells List.mem_cons_self) hrun hhead hbody
    obtain ⟨insides, tokens, column, c', hfold, hspecs, hinsides⟩ :=
      ih (a := { a with tokens := row.reverse ++ a.tokens, column := cells.length, capture := c })
        (fun cells hc => hrows cells (List.mem_cons_of_mem _ hc)) hrun hhead hbody
    refine ⟨inside :: insides, row :: tokens, column, c', ?_, .cons hspec hspecs,
      .cons hinside hinsides⟩
    rw [List.flatMap_cons, List.foldl_append, hrow]
    refine hfold.trans ?_
    simp

/-- The assembly with the body of the table open. -/
def openBody (a : Assembly) : Assembly :=
  { a with inBody := true }.openBlock (.opening .tableBody a.level)

/-- The first row opens the body of the table. -/
theorem foldl_rows_of_closed (h : a.inBody = false) (cells : List (List Event))
    (rows : List (List (List Event))) :
    ((cells :: rows).flatMap rowOf).foldl event a
      = ((cells :: rows).flatMap rowOf).foldl event a.openBody := by
  have hstart : a.start .tableRow = a.openBody.start .tableRow := by
    have hopen : a.openBody.inBody = true := inBody_openBlock { a with inBody := true } _
    rw [start_tableRow, start_tableRow, rowBase_of_true hopen,
      rowBase_of_false (by rw [h]; exact Bool.false_ne_true)]
    rfl
  rw [List.flatMap_cons, rowOf, foldl_within, foldl_within, hstart]

/-! ### Tables -/

/-- The head of a table becomes the tokens of a head. -/
theorem foldl_head {cells : List (List Event)} (hcells : HoldInlines cells) (hrun : a.run = none) :
    ∃ inside head capture, (within .tableHead (cellsOf cells)).foldl event a
        = { a with tokens := head.reverse ++ a.tokens, column := cells.length, inHead := false
                   capture } ∧
      IsHead a.alignments inside head ∧ HoldTokens a.capture capture cells inside := by
  have hbase : a.headBase = { a with
      inHead := true, column := 0, stack := .tableHead :: a.stack
      tokens := .opening .tableHead a.level :: a.tokens } :=
    openBlock_of_none (a := { a with inHead := true, column := 0 }) hrun _
  obtain ⟨inside, row, capture, hfold, hspec, hinside⟩ :=
    foldl_row_from (a := a.headBase) hcells (by rw [hbase]; exact hrun) (by rw [hbase])
      a.headBase.level
  rw [hbase] at hspec hinside
  refine ⟨inside, .opening .tableHead a.level :: (row ++ [Token.closing .tableHead a.stack.length]),
    capture, ?_, ⟨row, hspec, isElement_of_ends _ _ _ _⟩, hinside⟩
  rw [foldl_within_eq, start_tableHead, Tag.toEnd, finishTag, hfold, hbase]
  obtain ⟨⟩ := a
  cases hrun
  simp [closeBlock, flush, push, Token.closing]

/-- The rows of a table and its end, behind its head. -/
theorem foldl_body {rows : List (List (List Event))} (hrows : ∀ cells ∈ rows, HoldInlines cells)
    {kind : Kind} {outer : List Kind} (hrun : a.run = none) (hstack : a.stack = kind :: outer)
    (hhead : a.inHead = false) (hbody : a.inBody = false) :
    ∃ insides body column capture, ((rows.flatMap rowOf).foldl event a).finishTag .table
        = { a with stack := outer
                   tokens := .closing kind outer.length :: (body.reverse ++ a.tokens)
                   column, capture } ∧
      IsBody a.alignments insides body ∧ RowsHoldTokens a.capture capture rows insides := by
  obtain ⟨atokens, astack, arun, acapture, aal, acolumn, ainHead, ainBody, ametadata⟩ := a
  dsimp only at hrun hstack hhead hbody
  subst hrun hstack hhead hbody
  cases rows with
  | nil => exact ⟨[], [], acolumn, acapture, rfl, rfl, rfl, fun h => ⟨h, rfl⟩⟩
  | cons cells rows =>
    rw [foldl_rows_of_closed rfl]
    obtain ⟨insides, tokens, column, capture, hfold, hspec, hinsides⟩ :=
      foldl_rows (cells :: rows) (a := openBody
        { tokens := atokens, stack := kind :: outer, run := none, capture := acapture
          alignments := aal, column := acolumn, inHead := false, inBody := false
          metadata := ametadata }) hrows rfl rfl rfl
    refine ⟨insides, .opening .tableBody (outer.length + 1) ::
      (tokens.flatten ++ [Token.closing .tableBody (outer.length + 1)]), column, capture, ?_, ?_,
      hinsides⟩
    · rw [hfold]
      simp [finishTag, openBody, openBlock, closeBlock, flush, push, Token.opening, level]
    · have hne : insides ≠ [] := fun h => by simpa [h] using hinsides.1
      rw [IsBody, if_neg hne]
      exact ⟨tokens, hspec, isElement_of_ends _ _ _ _⟩

/-- **A table becomes the tokens of a table**, behind what completes the run before it, whatever the
assembly was like. -/
theorem foldl_table (alignments : List Alignment) {head : List (List Event)}
    {rows : List (List (List Event))} (hhead : HoldInlines head)
    (hrows : ∀ cells ∈ rows, HoldInlines cells) (a : Assembly) :
    ∃ inHead inRows table column middle capture, (tableOf alignments head rows).foldl event a
        = { a.flush with tokens := table.reverse ++ a.flush.tokens, alignments, column
                         inHead := false, inBody := false, capture } ∧
      IsTable alignments inHead inRows table ∧
      HoldTokens a.capture middle head inHead ∧ RowsHoldTokens middle capture rows inRows := by
  have hflush : { a with alignments, inBody := false }.flush
      = { a.flush with alignments, inBody := false } := by
    obtain ⟨_, _, run⟩ := a
    rcases run with _ | ⟨children, _ | _⟩ <;> rfl
  have hstart : a.start (.table alignments) = { a.flush with
      alignments, inBody := false, stack := .table :: a.flush.stack
      tokens := .opening .table a.level :: a.flush.tokens } := by
    rw [start, openBlock, hflush]
    rfl
  obtain ⟨inHead, ts, c, hheadFold, hheadSpec, hinHead⟩ :=
    foldl_head (a := a.start (.table alignments)) hhead (by rw [hstart]; exact a.run_flush)
  rw [hstart] at hheadFold hheadSpec hinHead
  obtain ⟨inRows, body, column, capture, hbodyFold, hbodySpec, hinRows⟩ := foldl_body
    (a := { a.flush with
      alignments, inBody := false, stack := .table :: a.flush.stack, inHead := false
      tokens := ts.reverse ++ .opening .table a.level :: a.flush.tokens
      column := head.length, capture := c }) hrows a.run_flush rfl rfl rfl
  refine ⟨inHead, inRows,
    .opening .table a.level :: (ts ++ body ++ [Token.closing .table a.flush.stack.length]),
    column, c, capture, ?_, ⟨ts, body, hheadSpec, hbodySpec, isElement_of_ends _ _ _ _⟩,
    a.capture_flush ▸ hinHead, hinRows⟩
  rw [tableOf, foldl_within_eq, List.foldl_append, hstart, hheadFold]
  refine hbodyFold.trans ?_
  simp

end Assembly

/-! ### Tables in a sequence of events -/

/-- **Every table of a sequence of events becomes a table.**  Wherever it stands, its tokens follow
what completes the run before it: a head with one row of header cells, a body with the rows of data
cells if there are rows, and no body otherwise.  The cell in a column has the style of the
alignment that its table gives to that column, and no attribute if the table gives none.  If the
table does not stand where text is captured, the cells hold the tokens of their events. -/
theorem isTable_assemble (before after : List Event) (alignments : List Alignment)
    {head : List (List Event)} {rows : List (List (List Event))} (hhead : HoldInlines head)
    (hrows : ∀ cells ∈ rows, HoldInlines cells) :
    ∃ inHead inRows ready table more,
      inHead.length = head.length ∧ inRows.map List.length = rows.map List.length ∧
      ((before.foldl Assembly.event {}).capture = none →
        inHead = head.map runTokens ∧ inRows = rows.map (List.map runTokens)) ∧
      IsTable alignments inHead inRows table ∧ (∀ t ∈ ready, t.nesting ≠ .opening) ∧
      assembledSoFar (before ++ tableOf alignments head rows)
        = assembledSoFar before ++ ready ++ table ∧
      (assemble (before ++ tableOf alignments head rows ++ after)).1
        = assembledSoFar before ++ ready ++ table ++ more := by
  obtain ⟨inHead, inRows, table, column, c, capture, hfold, htable, hinHead, hinRows⟩ :=
    Assembly.foldl_table alignments hhead hrows (before.foldl Assembly.event {})
  obtain ⟨ready, hready, hclosing⟩ := (before.foldl Assembly.event {}).tokens_flush
  obtain ⟨more, hmore⟩ := assembledSoFar_prefix (before ++ tableOf alignments head rows) after
  have hso : assembledSoFar (before ++ tableOf alignments head rows)
      = assembledSoFar before ++ ready ++ table := by
    rw [assembledSoFar, List.foldl_append, hfold, hready]
    simp [assembledSoFar]
  refine ⟨inHead, inRows, ready, table, more, hinHead.1, hinRows.1, fun hc => ?_, htable, hclosing,
    hso, by rw [← hmore, hso]⟩
  obtain ⟨hc', hheads⟩ := hinHead.2 hc
  exact ⟨hheads, (hinRows.2 hc').2⟩

/-- The beginning of an item with text and a table. -/
def itemWithTable : List Event :=
  [Event.start (.list none), Event.start .item, Event.text "a"] ++
    tableOf [.center] [[.text "b"]] [[[.code "c"]]]

/-- Behind a table with a body stands a table without one. -/
theorem isTable_assemble_behind_table : ∃ ready table more,
    IsTable [.right] [[.text "d"], [.mark .strong .opening, .text "e", .mark .strong .closing]] []
      table ∧
    (assemble (itemWithTable ++ tableOf [.right] [[.text "d"], within .strong [.text "e"]] [] ++
        [Event.finish .item, Event.finish (.list false)])).1
      = assembledSoFar itemWithTable ++ ready ++ table ++ more := by
  have hhead : HoldInlines [[.text "d"], within .strong [.text "e"]] :=
    List.forall_mem_cons.mpr ⟨.singleton rfl,
      List.forall_mem_singleton.mpr (.within rfl (.singleton rfl))⟩
  have hrows : ∀ cells ∈ ([] : List (List (List Event))), HoldInlines cells :=
    List.forall_mem_nil _
  obtain ⟨_, _, ready, table, more, -, -, hcells, htable, -, -, hall⟩ :=
    isTable_assemble itemWithTable [.finish .item, .finish (.list false)] [.right] hhead hrows
  obtain ⟨rfl, rfl⟩ := hcells rfl
  exact ⟨ready, table, more, htable, hall⟩

example : (assemble (tableOf [.right] [[.text "a"], []] [[[.text "b"], []]])).1.map
    (fun t => (t.kind, t.nesting, t.attrs)) =
    [(.table, .opening, []), (.tableHead, .opening, []), (.tableRow, .opening, []),
      (.tableHeaderCell, .opening, [("style", "text-align:right")]), (.inline, .single, []),
      (.tableHeaderCell, .closing, []), (.tableHeaderCell, .opening, []), (.inline, .single, []),
      (.tableHeaderCell, .closing, []), (.tableRow, .closing, []), (.tableHead, .closing, []),
      (.tableBody, .opening, []), (.tableRow, .opening, []),
      (.tableDataCell, .opening, [("style", "text-align:right")]), (.inline, .single, []),
      (.tableDataCell, .closing, []), (.tableDataCell, .opening, []), (.inline, .single, []),
      (.tableDataCell, .closing, []), (.tableRow, .closing, []), (.tableBody, .closing, []),
      (.table, .closing, [])] := by
  decide

end Markdown

end Folio
