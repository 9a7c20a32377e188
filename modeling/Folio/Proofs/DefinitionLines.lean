import Folio.Markdown.Blocks
import Folio.Proofs.AddressOpenings

/-!
# Lines that define a key

The line `[*key]: text` has the shape of a link definition, and Markdown reads it first: what it
takes for a link definition is no paragraph, and leaves nothing behind.  A link definition needs a
target of one word and a label that is not too long.  With more than one word in the text the line
is a paragraph, in which neither the bracket nor the star finds a partner, so it consists of texts.

## Main definitions

* `IsWord`, `spaced` — words of letters, with one blank between them.
* `definitionLine` — the line that defines a key.
* `isPlain` — the characters that begin nothing but text.

## Main results

* `readDocument_bracket` — a line that begins with a bracket: nothing, or a paragraph.
* `isSome_definition?_iff` — **which of the lines are link definitions.**
* `readDocument_definitionLine` — **what Markdown makes of such a line.**
-/

namespace Folio.Markdown

/-- At least one letter, and letters only. -/
structure IsWord (cs : List Char) : Prop where
  nonempty : cs ≠ []
  letters : ∀ c ∈ cs, c.isAlpha = true

instance : DecidablePred IsWord := fun cs =>
  decidable_of_iff (cs ≠ [] ∧ cs.all Char.isAlpha = true)
    ⟨fun h => ⟨h.1, List.all_eq_true.mp h.2⟩, fun h => ⟨h.1, List.all_eq_true.mpr h.2⟩⟩

/-- Words with one blank between each two of them. -/
def spaced (words : List (List Char)) : List Char := [' '].intercalate words

/-- What stands behind the bracket of the line that defines a key. -/
def definitionTail (key : List Char) (words : List (List Char)) : List Char :=
  '*' :: (key ++ ']' :: ':' :: ' ' :: spaced words)

/-- The line that defines a key. -/
def definitionLine (key : List Char) (words : List (List Char)) : List Char :=
  '[' :: definitionTail key words

/-! ### Letters -/

theorem ne_of_isAlpha {c d : Char} (hc : c.isAlpha = true) (hd : d.isAlpha = false) : c ≠ d := by
  rintro rfl
  rw [hc] at hd
  cases hd

theorem isLineSpace_of_isAlpha {c : Char} (hc : c.isAlpha = true) : isLineSpace c = false := by
  simp [isLineSpace, ne_of_isAlpha hc (d := ' ') (by decide),
    ne_of_isAlpha hc (d := '\t') (by decide), ne_of_isAlpha hc (d := '\x0b') (by decide),
    ne_of_isAlpha hc (d := '\x0c') (by decide)]

theorem toNat_lt_of_isAlpha {c : Char} (hc : c.isAlpha = true) : c.toNat < 0x80 :=
  Nat.lt_of_le_of_lt (Text.toNat_of_isAlpha hc).2 (by decide)

theorem lt_toNat_of_isAlpha {c : Char} (hc : c.isAlpha = true) : 0x20 < c.toNat :=
  Nat.lt_of_lt_of_le (by decide) (Text.toNat_of_isAlpha hc).1

theorem isBlank_of_isAlpha {c : Char} (hc : c.isAlpha = true) : Text.isBlank c = false :=
  Text.isBlank_of_lt (lt_toNat_of_isAlpha hc) (toNat_lt_of_isAlpha hc)

/-! ### Words -/

theorem IsWord.exists_cons {w : List Char} (h : IsWord w) :
    ∃ c cs, w = c :: cs ∧ c.isAlpha = true := by
  obtain ⟨c, cs, rfl⟩ := List.exists_cons_of_ne_nil h.nonempty
  exact ⟨c, cs, rfl, h.letters c List.mem_cons_self⟩

theorem spaced_singleton (w : List Char) : spaced [w] = w := List.intercalate_singleton

theorem spaced_cons (w : List Char) {ws : List (List Char)} (hws : ws ≠ []) :
    spaced (w :: ws) = w ++ ' ' :: spaced ws := by
  obtain ⟨v, vs, rfl⟩ := List.exists_cons_of_ne_nil hws
  rw [spaced, List.intercalate_cons_cons, List.append_assoc, List.singleton_append, spaced]

theorem isAlpha_or_of_mem_spaced {words : List (List Char)} (h : ∀ w ∈ words, IsWord w) :
    ∀ c ∈ spaced words, c.isAlpha = true ∨ c = ' ' := by
  induction words with
  | nil => simp [spaced]
  | cons w ws ih =>
    obtain ⟨hw, hws⟩ := List.forall_mem_cons.mp h
    intro c hc
    by_cases hnil : ws = []
    · rw [hnil, spaced_singleton] at hc
      exact .inl (hw.letters c hc)
    · rw [spaced_cons w hnil] at hc
      rcases List.mem_append.mp hc with hc | hc
      · exact .inl (hw.letters c hc)
      · exact (List.mem_cons.mp hc).elim .inr (ih hws c)

/-- The first and the last character of words in a row are letters. -/
theorem exists_spaced_eq_cons {words : List (List Char)} (hne : words ≠ [])
    (h : ∀ w ∈ words, IsWord w) : ∃ c cs, spaced words = c :: cs ∧ c.isAlpha = true := by
  obtain ⟨w, ws, rfl⟩ := List.exists_cons_of_ne_nil hne
  obtain ⟨c, cs, rfl, hc⟩ := (h w List.mem_cons_self).exists_cons
  by_cases hnil : ws = []
  · exact ⟨c, cs, by rw [hnil, spaced_singleton], hc⟩
  · exact ⟨c, _, by rw [spaced_cons _ hnil]; rfl, hc⟩

theorem exists_spaced_eq_concat {words : List (List Char)} (hne : words ≠ [])
    (h : ∀ w ∈ words, IsWord w) :
    ∃ (cs : List Char) (c : Char), spaced words = cs ++ [c] ∧ c.isAlpha = true := by
  induction words with
  | nil => exact absurd rfl hne
  | cons w ws ih =>
    obtain ⟨hw, hws⟩ := List.forall_mem_cons.mp h
    by_cases hnil : ws = []
    · have hlast := w.dropLast_concat_getLast hw.nonempty
      exact ⟨w.dropLast, w.getLast hw.nonempty, by rw [hnil, spaced_singleton, hlast],
        hw.letters _ (List.getLast_mem hw.nonempty)⟩
    · obtain ⟨cs, c, hcs, hc⟩ := ih hnil hws
      exact ⟨w ++ ' ' :: cs, c, by rw [spaced_cons w hnil, hcs]; simp, hc⟩

/-! ### A line that begins with a bracket -/

theorem splitLinesFrom_of_line (cs : List Char) (h : ∀ c ∈ cs, c ≠ '\n' ∧ c ≠ '\r') :
    ∀ text : List Char, text ++ cs ≠ [] →
      splitLinesFrom text cs = [⟨text.reverse ++ cs, .none⟩] := by
  induction cs with
  | nil =>
    intro text hne
    have htext : text ≠ [] := by simpa using hne
    simp [splitLinesFrom, htext]
  | cons c cs ih =>
    intro text _
    obtain ⟨hn, hr⟩ := h c List.mem_cons_self
    have ih := ih (fun d hd => h d (List.mem_cons_of_mem c hd)) (c :: text) (by simp)
    rw [splitLinesFrom, ih]
    · simp
    all_goals simp_all

theorem step_bracket (cs : List Char) :
    ({} : BlockReader).step ⟨'[' :: cs, .none⟩ []
      = BlockReader.definitionsOrParagraph 1 {} ('[' :: cs) [] := by
  rfl

theorem joinLines_singleton (cs : List Char) : BlockReader.joinLines [cs] = cs := by
  simp [BlockReader.joinLines, List.intercalate]

theorem definitionsOrParagraph_of_some {cs label rest : List Char} {target : Target}
    (h : definition? cs = some (label, target, rest)) :
    BlockReader.definitionsOrParagraph 1 {} ('[' :: cs) []
      = ({ definitions := Definitions.add [] label target }, []) := by
  simp only [BlockReader.definitionsOrParagraph, BlockReader.paragraphLines, joinLines_singleton, h,
    Option.map_some, List.drop_nil]

theorem paragraph_of_line (cs : List Char) : ({} : BlockReader).paragraph cs []
    = ({ base := [.paragraph ⟨cs, none, false⟩] }, []) := by
  have hhead : ({} : BlockReader).tableHead? cs [] = none := by
    unfold BlockReader.tableHead?
    split <;> simp_all
  simp only [BlockReader.paragraph, hhead, BlockReader.paragraphLines, joinLines_singleton,
    BlockReader.add]

theorem definitionsOrParagraph_of_none {cs : List Char} (h : definition? cs = none) :
    BlockReader.definitionsOrParagraph 1 {} ('[' :: cs) []
      = ({ base := [.paragraph ⟨'[' :: cs, none, false⟩] }, []) := by
  simp only [BlockReader.definitionsOrParagraph, BlockReader.paragraphLines, joinLines_singleton, h,
    Option.map_none]
  exact paragraph_of_line ('[' :: cs)

/-- A single line that begins with a bracket is a link definition or a paragraph. -/
theorem readDocument_bracket {cs : List Char} (h : ∀ c ∈ cs, c ≠ '\n' ∧ c ≠ '\r') :
    readDocument ('[' :: cs) = match definition? cs with
      | some _ => []
      | none => [.paragraph (readInlines { definitions := [] } ('[' :: cs))] := by
  have hlines : splitLines ('[' :: cs) = [⟨'[' :: cs, .none⟩] :=
    splitLinesFrom_of_line _ (List.forall_mem_cons.mpr ⟨by decide, h⟩) [] (by simp)
  have hread : BlockReader.readLines 1 {} [⟨'[' :: cs, .none⟩]
      = (BlockReader.definitionsOrParagraph 1 {} ('[' :: cs) []).1 := by
    rw [← step_bracket]
    rfl
  rw [readDocument, hlines]
  simp only [List.length_singleton, hread]
  cases hd : definition? cs with
  | none => rw [definitionsOrParagraph_of_none hd]; rfl
  | some found => rw [definitionsOrParagraph_of_some hd]; rfl

/-! ### Reading text -/

section Inlines

variable {ctx : InlineContext}

/-- The character begins nothing but text. -/
def isPlain (c : Char) : Bool :=
  !(['\n', '\\', '\x60', '<', '!', '[', ']', '&', '*', '_', '~'].contains c)

theorem isPlain_of_isAlpha {c : Char} (hc : c.isAlpha = true) : isPlain c = true := by
  rw [isPlain, Bool.not_eq_true', ← Bool.not_eq_true, List.contains_iff_mem]
  intro hmem
  have hnone : ∀ d ∈ ['\n', '\\', '\x60', '<', '!', '[', ']', '&', '*', '_', '~'],
      d.isAlpha = false := by simp
  exact ne_of_isAlpha hc (hnone c hmem) rfl

theorem step_of_isPlain {c : Char} (hc : isPlain c = true) (r : InlineReader) (rest : List Char) :
    r.step ctx c rest = (r.literal c, rest) := by
  simp only [isPlain, List.contains_cons, List.contains_nil, Bool.or_false, Bool.not_eq_true',
    Bool.or_eq_false_iff] at hc
  simp [InlineReader.step, hc]

/-- Characters that begin nothing are read as text, one after the other. -/
theorem readPieces_append {cs : List Char} (hcs : ∀ c ∈ cs, isPlain c = true) (rest : List Char) :
    ∀ (r : InlineReader) (fuel : Nat), readPieces ctx (cs.length + fuel) r (cs ++ rest)
      = readPieces ctx fuel (r.literals cs) rest := by
  induction cs with
  | nil => exact fun r fuel => by rw [List.length_nil, Nat.zero_add]; rfl
  | cons c cs ih =>
    obtain ⟨hc, hcs⟩ := List.forall_mem_cons.mp hcs
    intro r fuel
    rw [List.length_cons, Nat.succ_add, List.cons_append, readPieces, step_of_isPlain hc]
    exact ih hcs (r.literal c) fuel

theorem readPieces_of_isPlain {cs : List Char} (hcs : ∀ c ∈ cs, isPlain c = true)
    (r : InlineReader) : readPieces ctx cs.length r cs = (r.literals cs).finish := by
  have happend : readPieces ctx (cs.length + 0) r (cs ++ [])
      = readPieces ctx 0 (r.literals cs) [] := readPieces_append hcs [] r 0
  rwa [List.append_nil, Nat.add_zero, readPieces] at happend

@[simp] theorem pieces_literals (cs : List Char) (r : InlineReader) :
    (r.literals cs).pieces = r.pieces := by
  induction cs generalizing r with
  | nil => rfl
  | cons c cs ih => exact ih (r.literal c)

@[simp] theorem pending_literals (cs : List Char) (r : InlineReader) :
    (r.literals cs).pending = cs.reverse ++ r.pending := by
  induction cs generalizing r with
  | nil => rfl
  | cons c cs ih =>
    rw [List.reverse_cons, List.append_assoc]
    exact ih (r.literal c)

theorem flush_of_pending {r : InlineReader} {cs : List Char} (hcs : cs ≠ [])
    (h : r.pending = cs.reverse) :
    r.flush = { r with pieces := .node (.text (String.ofList cs)) :: r.pieces, pending := [] } := by
  have hpending : r.pending.isEmpty = false := by simp [h, hcs]
  rw [InlineReader.flush, hpending, h, List.reverse_reverse]
  rfl

/-- A text that ends with a letter has no blanks at its end. -/
theorem finish_of_pending {r : InlineReader} {cs : List Char} {c : Char} (hc : c.isAlpha = true)
    (h : r.pending = (cs ++ [c]).reverse) :
    r.finish = r.pieces.reverse ++ [Piece.node (.text (String.ofList (cs ++ [c])))] := by
  have hdrop : r.pending.dropWhile isLineSpace = (cs ++ [c]).reverse := by
    rw [h, List.reverse_append]
    exact List.dropWhile_cons_of_neg (by simp [isLineSpace_of_isAlpha hc])
  rw [InlineReader.finish, hdrop, flush_of_pending (by simp) rfl, List.reverse_cons]

/-- A star between a bracket and a letter may open emphasis, and not close any. -/
theorem step_star {c : Char} (hc : c.isAlpha = true) {r : InlineReader}
    (hprevious : r.previous = some '[') (cs : List Char) :
    r.step ctx '*' (c :: cs) = (r.add (.run '*' 1 true false) '*', c :: cs) := by
  have hblank := isBlank_of_isAlpha hc
  have hpunctuation : Text.isPunctuation c = false := by
    simp [Text.isPunctuation, toNat_lt_of_isAlpha hc, Char.isAlphanum, hc]
  have hopen : canOpen '*' 1 (some '[') (some c) = true := by
    simp [canOpen, hblank, hpunctuation]
  have hclose : canClose '*' 1 (some '[') (some c) = false := by
    have hbracket : Text.isPunctuation '[' = true := by decide
    simp [canClose, hblank, hpunctuation, hbracket]
  have hrun : ('*' :: c :: cs).takeWhile (· == '*') = ['*'] := by
    simp [ne_of_isAlpha hc (d := '*') (by decide)]
  simp [InlineReader.step, hrun, hprevious, hopen, hclose]

/-- Without definitions a bracket has no target, unless one follows it. -/
theorem targetAfter?_colon (hctx : ctx.definitions = []) (source cs : List Char) :
    targetAfter? ctx source (':' :: cs) = none := by
  cases hlabel : linkLabel? ctx.inTable source with
  | none => simp [targetAfter?, hlabel]
  | some found => simp [targetAfter?, hlabel, hctx, Definitions.find?]

/-- A bracket without a target is text, and so is the one that opened it. -/
theorem closeBracket_of_none {r : InlineReader} {rest source : List Char}
    {inside before : List Piece} {image enabled : Bool}
    (hpieces : splitAtBracket r.flush.pieces = some (inside, (image, enabled, source), before))
    (htarget : targetAfter? ctx source rest = none) :
    let opener := Piece.node (.text (if image then "![" else "["))
    r.closeBracket ctx rest
      = ({ r.flush with pieces := inside ++ opener :: before }.literal ']', rest) := by
  unfold InlineReader.closeBracket
  simp only [hpieces, htarget, ite_self]

/-- What has been read of `[*key]`. -/
def afterKey (key : List Char) : InlineReader where
  pieces := [.node (.text (String.ofList key)), .run '*' 1 true false, .node (.text "[")]
  pending := [']']
  previous := some ']'

/-- The bracket waits for its partner and the star for another: when the first comes, neither
bracket has a target. -/
theorem readPieces_key {key : List Char} (hkey : IsWord key) (hctx : ctx.definitions = [])
    (fuel : Nat) (text : List Char) :
    readPieces ctx (key.length + (fuel + 1) + 1 + 1) {}
        ('[' :: '*' :: (key ++ ']' :: ':' :: text))
      = readPieces ctx fuel (afterKey key) (':' :: text) := by
  obtain ⟨c, cs, hcons, hc⟩ := hkey.exists_cons
  let opened : InlineReader :=
    ({} : InlineReader).add (.bracket false true ('*' :: (key ++ ']' :: ':' :: text))) '['
  let starred := opened.add (.run '*' 1 true false) '*'
  have hstar : opened.step ctx '*' (key ++ ']' :: ':' :: text)
      = (starred, key ++ ']' :: ':' :: text) := by
    rw [hcons]
    exact step_star hc rfl _
  have hflush : (starred.literals key).flush = { starred.literals key with
      pieces := .node (.text (String.ofList key)) :: starred.pieces, pending := [] } := by
    rw [flush_of_pending hkey.nonempty ((pending_literals key starred).trans (List.append_nil _)),
      pieces_literals]
  have hclose : (starred.literals key).step ctx ']' (':' :: text)
      = (afterKey key, ':' :: text) := by
    have hsplit : splitAtBracket (starred.literals key).flush.pieces
        = some ([.node (.text (String.ofList key)), .run '*' 1 true false],
            (false, true, '*' :: (key ++ ']' :: ':' :: text)), []) := by
      rw [hflush]
      rfl
    refine (closeBracket_of_none hsplit (targetAfter?_colon hctx _ text)).trans ?_
    rw [hflush]
    rfl
  calc readPieces ctx (key.length + (fuel + 1) + 1 + 1) {}
        ('[' :: '*' :: (key ++ ']' :: ':' :: text))
      = readPieces ctx (key.length + (fuel + 1) + 1) opened
          ('*' :: (key ++ ']' :: ':' :: text)) := rfl
    _ = readPieces ctx (key.length + (fuel + 1)) starred (key ++ ']' :: ':' :: text) := by
      rw [readPieces, hstar]
    _ = readPieces ctx (fuel + 1) (starred.literals key) (']' :: ':' :: text) :=
      readPieces_append (fun d hd => isPlain_of_isAlpha (hkey.letters d hd)) _ _ _
    _ = readPieces ctx fuel (afterKey key) (':' :: text) := by rw [readPieces, hclose]

end Inlines

/-! ### Reading a link definition -/

theorem labelText?_cons {c : Char} (hopened : c ≠ '[') (hclosed : c ≠ ']') (hescape : c ≠ '\\')
    (limit : Nat) (cs : List Char) :
    labelText? (limit + 1) (c :: cs) = (labelText? limit cs).map fun (l, r) => (c :: l, r) := by
  rw [labelText?.eq_def]
  simp only [beq_iff_eq, hopened, hclosed, hescape, if_false]

theorem labelText?_closing (limit : Nat) (cs : List Char) :
    labelText? (limit + 1) (']' :: cs) = some ([], cs) := by
  rw [labelText?.eq_def]
  rfl

/-- A text without brackets and backslashes is a label if it has fewer than `limit` characters. -/
theorem labelText?_append {label : List Char} (h : ∀ c ∈ label, c ≠ '[' ∧ c ≠ ']' ∧ c ≠ '\\')
    (rest : List Char) : ∀ limit, labelText? limit (label ++ ']' :: rest)
      = if label.length < limit then some (label, rest) else none := by
  induction label with
  | nil =>
    rintro (_ | limit)
    · rfl
    · exact labelText?_closing limit rest
  | cons c label ih =>
    obtain ⟨⟨hopened, hclosed, hescape⟩, hlabel⟩ := List.forall_mem_cons.mp h
    rintro (_ | limit)
    · rfl
    · rw [List.cons_append, labelText?_cons hopened hclosed hescape, ih hlabel, List.length_cons]
      split <;> simp_all

/-- A word up to a blank or the end of the text is a destination. -/
theorem bareDestination?_append {w : List Char} (hw : ∀ c ∈ w, c.isAlpha = true)
    {rest : List Char} (hrest : rest = [] ∨ ∃ cs, rest = ' ' :: cs) (limit : Nat) :
    bareDestination? limit 0 (w ++ rest) = some (w, rest) := by
  induction w with
  | nil => rcases hrest with rfl | ⟨cs, rfl⟩ <;> simp [bareDestination?]
  | cons c w ih =>
    obtain ⟨hc, hw⟩ := List.forall_mem_cons.mp hw
    have hlarge : ¬ c.toNat ≤ 0x20 := Nat.not_le_of_lt (lt_toNat_of_isAlpha hc)
    rw [List.cons_append, bareDestination?]
    · simp only [hlarge, beq_iff_eq, ne_of_isAlpha hc (d := '(') (by decide),
        ne_of_isAlpha hc (d := ')') (by decide), if_false, ih hw, Option.map_some]
    · rintro d ds rfl
      exact absurd hc (by decide)

theorem dropLineSpace_cons {c : Char} (hc : isLineSpace c = false) (cs : List Char) :
    dropLineSpace (c :: cs) = c :: cs :=
  List.dropWhile_cons_of_neg (by simp [hc])

/-- The space in front of a letter, within one line. -/
theorem definitionSpace?_letter {c : Char} (hc : c.isAlpha = true) (cs : List Char) :
    definitionSpace? (' ' :: c :: cs) = some (c :: cs, false) := by
  have hdrop : dropLineSpace (' ' :: c :: cs) = c :: cs := by
    rw [dropLineSpace, List.dropWhile_cons_of_pos rfl]
    exact dropLineSpace_cons (isLineSpace_of_isAlpha hc) cs
  have hne := ne_of_isAlpha hc (d := '\n') (by decide)
  simp only [definitionSpace?, hdrop]
  split <;> simp_all

/-- A letter begins no title. -/
theorem definitionTitle?_letter {c : Char} (hc : c.isAlpha = true) (cs : List Char) :
    definitionTitle? (' ' :: c :: cs) = none := by
  have htitle : linkTitle? (c :: cs) = none := by
    have hne : ∀ {d : Char} {ds : List Char}, c :: cs = d :: ds → d.isAlpha = true := fun h =>
      (List.cons.inj h).1 ▸ hc
    unfold linkTitle?
    split
    any_goals rfl
    all_goals exact absurd (hne ‹_›) (by decide)
  simp [definitionTitle?, definitionSpace?_letter hc, htitle]

theorem linkDestination?_append {w : List Char} (hw : IsWord w) {rest : List Char}
    (hrest : rest = [] ∨ ∃ cs, rest = ' ' :: cs) (limit : Nat) :
    linkDestination? limit (w ++ rest) = some (w, rest) := by
  rw [← bareDestination?_append hw.letters hrest limit]
  obtain ⟨c, cs, rfl, hc⟩ := hw.exists_cons
  unfold linkDestination?
  split
  · next heq =>
    cases heq
    exact absurd hc (by decide)
  · rfl

/-! ### The line -/

section Line

variable {key : List Char} {words : List (List Char)}

/-- **The content of a line that is no link definition**, as long as no label has a target. -/
theorem readPieces_definitionLine (hkey : IsWord key) (hne : words ≠ [])
    (hwords : ∀ w ∈ words, IsWord w) {ctx : InlineContext} (hctx : ctx.definitions = []) :
    readPieces ctx (definitionLine key words).length {} (definitionLine key words)
      = [.node (.text "["), .run '*' 1 true false, .node (.text (String.ofList key)),
          .node (.text (String.ofList (']' :: ':' :: ' ' :: spaced words)))] := by
  obtain ⟨front, last, hlast, hletter⟩ := exists_spaced_eq_concat hne hwords
  have htext : ∀ d ∈ ':' :: ' ' :: spaced words, isPlain d = true :=
    List.forall_mem_cons.mpr ⟨rfl, List.forall_mem_cons.mpr ⟨rfl, fun d hd =>
      (isAlpha_or_of_mem_spaced hwords d hd).elim isPlain_of_isAlpha fun h => h ▸ rfl⟩⟩
  have hlength : (definitionLine key words).length
      = key.length + ((':' :: ' ' :: spaced words).length + 1) + 1 + 1 := by
    simp only [definitionLine, definitionTail, List.length_cons, List.length_append]
  have hpending : ((afterKey key).literals (':' :: ' ' :: spaced words)).pending
      = ((']' :: ':' :: ' ' :: front) ++ [last]).reverse := by
    rw [pending_literals, hlast]
    simp [afterKey]
  rw [hlength, definitionLine, definitionTail, readPieces_key hkey hctx,
    readPieces_of_isPlain htext, finish_of_pending hletter hpending, pieces_literals, hlast]
  rfl

/-- The star opens no emphasis, as no other follows. -/
theorem readInlines_definitionLine (hkey : IsWord key) (hne : words ≠ [])
    (hwords : ∀ w ∈ words, IsWord w) : readInlines { definitions := [] } (definitionLine key words)
      = [.text "[", .text "*", .text (String.ofList key),
          .text (String.ofList (']' :: ':' :: ' ' :: spaced words))] := by
  rw [readInlines, readPieces_definitionLine hkey hne hwords rfl]
  rfl

theorem linkLabel?_definitionTail (hkey : IsWord key) (words : List (List Char)) :
    linkLabel? false (definitionTail key words)
      = if key.length ≤ 998 then some ('*' :: key, ':' :: ' ' :: spaced words) else none := by
  have hlabel : ∀ c ∈ '*' :: key, c ≠ '[' ∧ c ≠ ']' ∧ c ≠ '\\' :=
    List.forall_mem_cons.mpr ⟨by decide, fun c hc =>
      have hc := hkey.letters c hc
      ⟨ne_of_isAlpha hc (by decide), ne_of_isAlpha hc (by decide), ne_of_isAlpha hc (by decide)⟩⟩
  have hlength : ('*' :: key).length < 1000 ↔ key.length ≤ 998 := by
    rw [List.length_cons]
    omega
  have htail : definitionTail key words = '*' :: key ++ ']' :: ':' :: ' ' :: spaced words := rfl
  rw [linkLabel?, htail, labelText?_append hlabel]
  by_cases h : key.length ≤ 998
  · rw [if_pos (hlength.mpr h), if_pos h]
    rfl
  · rw [if_neg (h ∘ hlength.mp), if_neg h]

/-- With a label of the right length it is what follows the first word that decides. -/
theorem definition?_of_le (hkey : IsWord key) (hle : key.length ≤ 998) {w rest : List Char}
    (hw : IsWord w) (hwords : spaced words = w ++ rest)
    (hrest : rest = [] ∨ ∃ cs, rest = ' ' :: cs) :
    (definition? (definitionTail key words)).isSome = (definitionTitle? rest).isSome := by
  obtain ⟨c, cs, hcons, hc⟩ := hw.exists_cons
  have hspace : definitionSpace? (' ' :: spaced words) = some (spaced words, false) := by
    rw [hwords, hcons]
    exact definitionSpace?_letter hc _
  have hlength : (rest.length == (spaced words).length) = false := by
    rw [hwords, hcons, beq_eq_false_iff_ne]
    simp only [List.length_append, List.length_cons]
    omega
  rw [definition?, linkLabel?_definitionTail hkey, if_pos hle]
  simp only [hspace, hwords ▸ linkDestination?_append hw hrest 1, hlength, Bool.false_eq_true,
    if_false, Option.isSome_map]

/-- **Which of the lines are link definitions**: those of a single word, unless the key is too
long for a label. -/
theorem isSome_definition?_iff (hkey : IsWord key) (hne : words ≠ [])
    (hwords : ∀ w ∈ words, IsWord w) : (definition? (definitionTail key words)).isSome = true ↔
      words.length = 1 ∧ key.length ≤ 998 := by
  by_cases hle : key.length ≤ 998
  · obtain ⟨w, ws, rfl⟩ := List.exists_cons_of_ne_nil hne
    obtain ⟨hw, hws⟩ := List.forall_mem_cons.mp hwords
    by_cases hnil : ws = []
    · have hspaced : spaced (w :: ws) = w ++ [] := by rw [hnil, spaced_singleton, List.append_nil]
      rw [definition?_of_le hkey hle hw hspaced (.inl rfl)]
      simp [hnil, hle, definitionTitle?, definitionSpace?, dropLineSpace]
    · -- The second word is in the place of a title, and is none.
      obtain ⟨c, cs, hcs, hc⟩ := exists_spaced_eq_cons hnil hws
      rw [definition?_of_le hkey hle hw (spaced_cons w hnil) (.inr ⟨_, rfl⟩), hcs,
        definitionTitle?_letter hc]
      simp [hnil]
  · simp [definition?, linkLabel?_definitionTail hkey, hle]

theorem ne_ending_of_mem_definitionTail (hkey : IsWord key) (hwords : ∀ w ∈ words, IsWord w) :
    ∀ c ∈ definitionTail key words, c ≠ '\n' ∧ c ≠ '\r' := by
  have hletter : ∀ c : Char, c.isAlpha = true → c ≠ '\n' ∧ c ≠ '\r' :=
    fun c hc => ⟨ne_of_isAlpha hc (by decide), ne_of_isAlpha hc (by decide)⟩
  intro c hc
  simp only [definitionTail, List.mem_cons, List.mem_append] at hc
  rcases hc with rfl | hc | rfl | rfl | rfl | hc
  · decide
  · exact hletter c (hkey.letters c hc)
  · decide
  · decide
  · decide
  · rcases isAlpha_or_of_mem_spaced hwords c hc with hc | rfl
    · exact hletter c hc
    · decide

/-- **What Markdown makes of the line**: nothing, or a paragraph of texts. -/
theorem readDocument_definitionLine (hkey : IsWord key) (hne : words ≠ [])
    (hwords : ∀ w ∈ words, IsWord w) : readDocument (definitionLine key words)
      = if words.length = 1 ∧ key.length ≤ 998 then []
        else [.paragraph [.text "[", .text "*", .text (String.ofList key),
          .text (String.ofList (']' :: ':' :: ' ' :: spaced words))]] := by
  have hsome := isSome_definition?_iff hkey hne hwords
  rw [← readInlines_definitionLine hkey hne hwords, definitionLine,
    readDocument_bracket (ne_ending_of_mem_definitionTail hkey hwords)]
  cases hdefinition : definition? (definitionTail key words) with
  | some found => rw [if_pos (hsome.mp (hdefinition ▸ rfl))]
  | none =>
    rw [if_neg fun h => ?_]
    have h := hsome.mpr h
    rw [hdefinition] at h
    cases h

end Line

end Folio.Markdown
