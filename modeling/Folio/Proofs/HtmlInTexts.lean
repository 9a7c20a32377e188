import Folio.Markdown.Blocks
import Folio.Proofs.EventShape

/-!
# HTML in the texts of a document

A piece of HTML that stands in a text ends with its bracket, of whichever kind it is: each reader
stops behind one.  Emphasis, links and images are put around such pieces and never cut them.  So
among the events of a document there is raw HTML of two sorts: in the texts a piece that ends with
its bracket, and in a block of its own whatever stands in the lines of the block.

## Main definitions

* `Event.EndsTag` — the event is no raw HTML, or a piece that ends with its bracket.
* `EndsTags` — all HTML but that of blocks is such a piece.
* `Inline.EndsTags`, `Piece.EndsTags` — the same of what is being read.

## Main results

* `inlineHtml?_suffix` — **a piece of HTML in a text ends with its bracket.**
* `endsTags_readInlines` — so does all HTML in a text that has been read.
* `endsTags_readDocument` — **all HTML of a document ends with its bracket or stands in a block.**
-/

namespace Folio.Markdown

/-! ### Pieces of HTML -/

/-- What follows the first occurrence of a text stands behind an occurrence of it. -/
theorem afterFirst?_suffix {pattern after : List Char} : ∀ {cs : List Char},
    afterFirst? pattern cs = some after → pattern ++ after <:+ cs
  | [], h => by
    rw [afterFirst?] at h
    split at h
    · next hempty =>
      obtain rfl := Option.some.inj h
      rw [List.isEmpty_iff.mp hempty]
      exact List.suffix_rfl
    · cases h
  | c :: cs, h => by
    rw [afterFirst?] at h
    split at h
    · next hbegins =>
      obtain ⟨rest, hrest⟩ := List.isPrefixOf_iff_prefix.mp hbegins
      rw [← hrest, List.drop_left] at h
      obtain rfl := Option.some.inj h
      exact hrest ▸ List.suffix_rfl
    · exact (afterFirst?_suffix h).trans (List.suffix_cons c cs)

/-- The last character of the text that is looked for stands before what follows. -/
theorem afterFirst?_last {front after : List Char} {last : Char} {cs : List Char}
    (h : afterFirst? (front ++ [last]) cs = some after) : last :: after <:+ cs := by
  have hfound := afterFirst?_suffix h
  rw [List.append_assoc, List.singleton_append] at hfound
  exact (List.suffix_append front (last :: after)).trans hfound

theorem attributeValue?_suffix {cs after : List Char} (h : attributeValue? cs = some after) :
    after <:+ cs := by
  cases cs with
  | nil => cases h
  | cons c cs =>
    rw [attributeValue?] at h
    split at h
    · have hquoted := (List.suffix_append [c] after).trans (afterFirst?_suffix h)
      exact hquoted.trans (List.suffix_cons c cs)
    split at h
    · obtain rfl := Option.some.inj h
      exact (List.dropWhile_suffix _).trans (List.suffix_cons c cs)
    · cases h

theorem attribute?_suffix {cs after : List Char} (h : attribute? cs = some after) :
    after <:+ cs := by
  cases cs with
  | nil => cases h
  | cons c cs =>
    rw [attribute?] at h
    split at h
    · have hname : cs.dropWhile isAttributeChar <:+ c :: cs :=
        (List.dropWhile_suffix _).trans (List.suffix_cons c cs)
      dsimp only at h
      split at h
      · next value hequals =>
        have hvalue : value <:+ cs.dropWhile isAttributeChar :=
          (List.suffix_cons '=' value).trans (hequals ▸ List.dropWhile_suffix _)
        have hafter := (attributeValue?_suffix h).trans (List.dropWhile_suffix _)
        exact (hafter.trans hvalue).trans hname
      · obtain rfl := Option.some.inj h
        exact hname
    · cases h

theorem attributes?_suffix {after : List Char} : ∀ {fuel : Nat} {cs : List Char},
    attributes? fuel cs = some after → after <:+ cs
  | 0, cs, h => by cases h
  | fuel + 1, cs, h => by
    have hrest : cs.dropWhile isTagSpace <:+ cs := List.dropWhile_suffix _
    rw [attributes?] at h
    split at h
    · cases h
    · next c rest hdrop =>
      rw [hdrop] at hrest
      split at h
      · obtain rfl := Option.some.inj h
        exact hrest
      split at h
      · split at h
        · obtain ⟨behind, hattribute, h⟩ := Option.bind_eq_some_iff.mp h
          exact ((attributes?_suffix h).trans (attribute?_suffix hattribute)).trans hrest
        · cases h
      · cases h

/-- A tag ends with its bracket. -/
theorem htmlTag?_suffix {cs after : List Char} (h : htmlTag? cs = some after) :
    '>' :: after <:+ cs := by
  unfold htmlTag? at h
  split at h
  · next c rest =>
    -- In an end tag there are only blanks between the name and the bracket.
    split at h
    · have hname : (rest.dropWhile isTagNameChar).dropWhile isLineSpace <:+ '/' :: c :: rest :=
        ((List.dropWhile_suffix _).trans (List.dropWhile_suffix _)).trans
          ((List.suffix_cons c rest).trans (List.suffix_cons '/' (c :: rest)))
      split at h
      · next hbracket =>
        obtain rfl := Option.some.inj h
        exact hbracket ▸ hname
      · cases h
    · cases h
  · next c rest _ =>
    -- A start tag has attributes there, and perhaps a slash.
    split at h
    · have hname : rest.dropWhile isTagNameChar <:+ c :: rest :=
        (List.dropWhile_suffix _).trans (List.suffix_cons c rest)
      dsimp only at h
      split at h
      · next behind hattributes =>
        obtain rfl := Option.some.inj h
        have hend := (List.suffix_cons '/' _).trans (attributes?_suffix hattributes)
        exact hend.trans hname
      · next behind hattributes =>
        obtain rfl := Option.some.inj h
        exact (attributes?_suffix hattributes).trans hname
      · cases h
    · cases h
  · cases h

theorem comment?_suffix {cs after : List Char} (h : comment? cs = some after) :
    '>' :: after <:+ cs := by
  unfold comment? at h
  split at h
  · obtain rfl := Option.some.inj h
    exact List.suffix_rfl
  · obtain rfl := Option.some.inj h
    exact List.suffix_cons '-' _
  · -- What is looked for has its bracket at the end.
    have hfound : afterFirst? (['-', '-'] ++ ['>']) cs = some after := h
    exact afterFirst?_last hfound

theorem characterData?_suffix {cs after : List Char} (h : characterData? cs = some after) :
    '>' :: after <:+ cs := by
  unfold characterData? at h
  split at h
  · cases h
  · split at h
    · next hbracket =>
      obtain rfl := Option.some.inj h
      exact hbracket ▸ (List.dropWhile_suffix _).trans (List.dropWhile_suffix _)
    · cases h

/-- **A piece of HTML in a text ends with its bracket.** -/
theorem inlineHtml?_suffix {cs after : List Char} (h : inlineHtml? cs = some after) :
    '>' :: after <:+ cs := by
  unfold inlineHtml? at h
  split at h
  · next rest => exact (comment?_suffix h).trans (List.suffix_append ['!', '-', '-'] rest)
  · next rest =>
    exact (characterData?_suffix h).trans
      (List.suffix_append ['!', '[', 'C', 'D', 'A', 'T', 'A', '['] rest)
  · next c rest _ _ =>
    split at h
    · exact (afterFirst?_suffix h).trans (List.suffix_append ['!', c] rest)
    · cases h
  · next rest =>
    have hfound : afterFirst? (['?'] ++ ['>']) rest = some after := h
    exact (afterFirst?_last hfound).trans (List.suffix_cons '?' rest)
  · exact htmlTag?_suffix h

/-! ### Events -/

/-- The event is no raw HTML, or a piece that ends with its bracket. -/
def Event.EndsTag : Event → Prop
  | .inlineHtml s => s.toList.getLast? = some '>'
  | .html _ => False
  | _ => True

/-- All HTML among the events ends with its bracket, but for the lines of HTML blocks. -/
inductive EndsTags : List Event → Prop
  | nil : EndsTags []
  | cons {e : Event} {es : List Event} (he : e.EndsTag) (hes : EndsTags es) : EndsTags (e :: es)
  | block (source : String) {es : List Event} (hes : EndsTags es) :
      EndsTags (within .htmlBlock [.html source] ++ es)

namespace EndsTags

variable {xs ys : List Event}

theorem append (hx : EndsTags xs) (hy : EndsTags ys) : EndsTags (xs ++ ys) := by
  induction hx with
  | nil => exact hy
  | cons he _ ih => exact .cons he ih
  | block source _ ih =>
    rw [List.append_assoc]
    exact .block source ih

theorem of_forall (h : ∀ e ∈ xs, e.EndsTag) : EndsTags xs := by
  induction xs with
  | nil => exact .nil
  | cons e xs ih =>
    obtain ⟨he, hxs⟩ := List.forall_mem_cons.mp h
    exact .cons he (ih hxs)

theorem within (tag : Tag) (h : EndsTags xs) : EndsTags (within tag xs) := by
  rw [Markdown.within, List.cons_append]
  exact .cons trivial (h.append (.cons trivial .nil))

end EndsTags

/-! ### Inline content -/

/-- All HTML in the content ends with its bracket. -/
def Inline.EndsTags (i : Inline) : Prop := ∀ e ∈ i.events, e.EndsTag

namespace Inline.EndsTags

variable {body : List Inline}

theorem of_leaf {i : Inline} (e : Event) (hi : i.events = [e]) (he : e.EndsTag) :
    i.EndsTags := by
  rw [EndsTags, hi]
  exact List.forall_mem_singleton.mpr he

theorem text (s : String) : (Inline.text s).EndsTags :=
  .of_leaf (.text s) (by rw [Inline.events]) trivial

theorem events (h : ∀ i ∈ body, i.EndsTags) : ∀ e ∈ inlineEvents body, e.EndsTag := by
  induction body with
  | nil =>
    rw [inlineEvents]
    exact List.forall_mem_nil _
  | cons i body ih =>
    obtain ⟨hi, hbody⟩ := List.forall_mem_cons.mp h
    rw [inlineEvents]
    exact List.forall_mem_append.mpr ⟨hi, ih hbody⟩

/-- What is put around content brings no HTML. -/
theorem of_within {i : Inline} {tag : Tag} (hi : i.events = Markdown.within tag (inlineEvents body))
    (h : ∀ i ∈ body, i.EndsTags) : i.EndsTags := by
  rw [EndsTags, hi, Markdown.within, List.cons_append]
  exact List.forall_mem_cons.mpr ⟨trivial, List.forall_mem_append.mpr
    ⟨events h, List.forall_mem_singleton.mpr trivial⟩⟩

end Inline.EndsTags

/-! ### Emphasis -/

theorem endsTags_wrapMarks (mark : Char) : ∀ (n : Nat) {body : List Inline},
    (∀ i ∈ body, i.EndsTags) → ∀ i ∈ wrapMarks mark body n, i.EndsTags
  | 0, _, h => h
  | 1, body, h => by
    rw [wrapMarks]
    split
    · exact List.forall_mem_singleton.mpr (.of_within (by rw [Inline.events]) h)
    · exact List.forall_mem_singleton.mpr (.of_within (by rw [Inline.events]) h)
  | n + 2, body, h => by
    rw [wrapMarks]
    split
    · exact List.forall_mem_singleton.mpr (.of_within (by rw [Inline.events]) h)
    · exact endsTags_wrapMarks mark n
        (List.forall_mem_singleton.mpr (.of_within (by rw [Inline.events]) h))

theorem endsTags_flattenOpeners {os : List Opener} (h : ∀ o ∈ os, ∀ i ∈ o.body, i.EndsTags) :
    ∀ i ∈ flattenOpeners os, i.EndsTags := by
  induction os with
  | nil => exact List.forall_mem_nil _
  | cons o os ih =>
    obtain ⟨ho, hos⟩ := List.forall_mem_cons.mp h
    rw [flattenOpeners]
    exact List.forall_mem_append.mpr ⟨ho, List.forall_mem_cons.mpr ⟨.text _, ih hos⟩⟩

namespace EmphasisStack

/-- All HTML on the stack ends with its bracket. -/
structure EndsTags (s : EmphasisStack) : Prop where
  base : ∀ i ∈ s.base, i.EndsTags
  openers : ∀ o ∈ s.openers, ∀ i ∈ o.body, i.EndsTags

/-- The run that matches stands between those above it and those below it. -/
theorem splitAtMatch_eq_some {mark : Char} {length : Nat} {both : Bool} {floor : Nat}
    {above below : List Opener} {o : Opener} : ∀ {os : List Opener},
    splitAtMatch mark length both floor os = some (above, o, below) → os = above ++ o :: below
  | [], h => by cases h
  | p :: os, h => by
    rw [splitAtMatch] at h
    split at h
    · cases h
    split at h
    · cases h
      rfl
    · obtain ⟨⟨above', o', below'⟩, hfound, heq⟩ := Option.map_eq_some_iff.mp h
      cases heq
      rw [splitAtMatch_eq_some hfound, List.cons_append]

namespace EndsTags

variable {s : EmphasisStack}

theorem push (h : s.EndsTags) {content : List Inline} (hcontent : ∀ i ∈ content, i.EndsTags) :
    (s.push content).EndsTags := by
  have hreverse : ∀ i ∈ content.reverse, i.EndsTags :=
    fun i hi => hcontent i (List.mem_reverse.mp hi)
  unfold EmphasisStack.push
  split
  · exact ⟨List.forall_mem_append.mpr ⟨hreverse, h.base⟩, h.openers⟩
  · next o os hopeners =>
    obtain ⟨ho, hos⟩ := List.forall_mem_cons.mp (hopeners ▸ h.openers)
    exact ⟨h.base, List.forall_mem_cons.mpr ⟨List.forall_mem_append.mpr ⟨hreverse, ho⟩, hos⟩⟩

/-- Marks that belong together are put around what stands between them. -/
theorem close {mark : Char} {length : Nat} {both : Bool} (fuel : Nat) :
    ∀ {s : EmphasisStack} {left : Nat}, s.EndsTags →
      (EmphasisStack.close mark length both fuel s left).1.EndsTags := by
  induction fuel with
  | zero => exact fun h => h
  | succ fuel ih =>
    intro s left h
    rw [EmphasisStack.close]
    split
    · exact h
    split
    · split
      · exact ⟨h.base, h.openers⟩
      · exact h
    · next above o below hfound =>
      have hopeners := h.openers
      rw [splitAtMatch_eq_some hfound, List.forall_mem_append, List.forall_mem_cons] at hopeners
      obtain ⟨habove, ho, hbelow⟩ := hopeners
      -- Marks between the two that have found no partner are text of the new element.
      have hinner : ∀ i ∈ (flattenOpeners above ++ o.body).reverse, i.EndsTags := fun i hi =>
        List.forall_mem_append.mpr ⟨endsTags_flattenOpeners habove, ho⟩ i (List.mem_reverse.mp hi)
      have hcontent := endsTags_wrapMarks mark (min left o.left) hinner
      have hclosed : EndsTags { s with
          openers := below, tildeFloor := min s.tildeFloor below.length } := ⟨h.base, hbelow⟩
      refine ih ?_
      -- With marks left over the opening run stays open, around the new element.
      split
      · exact ⟨h.base, List.forall_mem_cons.mpr
          ⟨fun i hi => hcontent i (List.mem_reverse.mp hi), hbelow⟩⟩
      · exact hclosed.push hcontent

theorem run (h : s.EndsTags) (mark : Char) (length : Nat) (opens closes : Bool) :
    (s.run mark length opens closes).EndsTags := by
  have hclosed : (if closes then EmphasisStack.close mark length (opens && closes) length s length
      else (s, length)).1.EndsTags := by
    split
    · exact close length h
    · exact h
  unfold EmphasisStack.run
  dsimp only
  generalize (if closes then EmphasisStack.close mark length (opens && closes) length s length
    else (s, length)) = closed at hclosed ⊢
  split
  · exact hclosed
  split
  · exact ⟨hclosed.base, List.forall_mem_cons.mpr ⟨List.forall_mem_nil _, hclosed.openers⟩⟩
  · exact hclosed.push (List.forall_mem_singleton.mpr (.text _))

theorem finish (h : s.EndsTags) : ∀ i ∈ s.finish, i.EndsTags := fun i hi =>
  List.forall_mem_append.mpr ⟨endsTags_flattenOpeners h.openers, h.base⟩ i (List.mem_reverse.mp hi)

end EndsTags

end EmphasisStack

/-- All HTML in the piece ends with its bracket. -/
def Piece.EndsTags : Piece → Prop
  | .node content => content.EndsTags
  | .run .. | .bracket .. => True

theorem endsTags_resolveEmphasis {pieces : List Piece} (h : ∀ p ∈ pieces, p.EndsTags) :
    ∀ i ∈ resolveEmphasis pieces, i.EndsTags := by
  have hstack : (pieces.foldl EmphasisStack.step {}).EndsTags := by
    refine List.foldlRecOn pieces _ ⟨List.forall_mem_nil _, List.forall_mem_nil _⟩ ?_
    intro s hs p hp
    cases p with
    | node content => exact hs.push (List.forall_mem_singleton.mpr (h _ hp))
    | run mark length opens closes => exact hs.run mark length opens closes
    | bracket image enabled source => exact hs.push (List.forall_mem_singleton.mpr (.text _))
  exact hstack.finish

/-! ### Texts -/

namespace InlineReader

/-- All HTML that has been read ends with its bracket. -/
def EndsTags (r : InlineReader) : Prop := ∀ p ∈ r.pieces, p.EndsTags

namespace EndsTags

variable {r : InlineReader} (h : r.EndsTags)

include h

theorem flush : r.flush.EndsTags := by
  unfold InlineReader.flush
  split
  · exact h
  · exact List.forall_mem_cons.mpr ⟨.text _, h⟩

theorem add (piece : Piece) (hpiece : piece.EndsTags) (last : Char) :
    (r.add piece last).EndsTags :=
  List.forall_mem_cons.mpr ⟨hpiece, h.flush⟩

theorem addNode (content : Inline) (hcontent : content.EndsTags) (last : Char) :
    (r.add (.node content) last).EndsTags :=
  h.add (.node content) hcontent last

theorem literals (cs : List Char) : (r.literals cs).EndsTags :=
  List.foldlRecOn cs InlineReader.literal h fun _ hr _ _ => hr

theorem lineBreak (backslash : Bool) : (r.lineBreak backslash).EndsTags := by
  have hbreak : (if backslash ||
      (r.pending.dropWhile isLineSpace).length + 2 ≤ r.pending.length then Inline.hardBreak
        else .softBreak).EndsTags := by
    split
    · exact .of_leaf .hardBreak (by rw [Inline.events]) trivial
    · exact .of_leaf .softBreak (by rw [Inline.events]) trivial
  have hshorter : EndsTags { r with pending := r.pending.dropWhile isLineSpace } := h
  unfold InlineReader.lineBreak
  dsimp only
  split
  · exact h.addNode _ hbreak _
  · exact hshorter.addNode _ hbreak _

theorem finish : ∀ p ∈ r.finish, p.EndsTags := by
  have hshorter : EndsTags { r with pending := r.pending.dropWhile isLineSpace } := h
  exact fun p hp => hshorter.flush p (List.mem_reverse.mp hp)

end EndsTags

end InlineReader

/-- The pieces around and within a bracket are the pieces that there were. -/
theorem splitAtBracket_eq_some {inside before : List Piece} {image enabled : Bool}
    {source : List Char} : ∀ {pieces : List Piece},
    splitAtBracket pieces = some (inside, (image, enabled, source), before) →
      pieces = inside ++ .bracket image enabled source :: before
  | [], h => by cases h
  | .bracket .. :: pieces, h => by
    cases h
    rfl
  | .node _ :: pieces, h | .run .. :: pieces, h => by
    obtain ⟨⟨inside', bracket, before'⟩, hfound, heq⟩ := Option.map_eq_some_iff.mp h
    cases heq
    rw [splitAtBracket_eq_some hfound, List.cons_append]

theorem endsTags_disableLinks {pieces : List Piece} (h : ∀ p ∈ pieces, p.EndsTags) :
    ∀ p ∈ disableLinks pieces, p.EndsTags := by
  refine List.forall_mem_map.mpr fun p hp => ?_
  split
  · trivial
  · exact h p hp

namespace InlineReader.EndsTags

variable {r : InlineReader} (h : r.EndsTags)

include h

theorem closeBracket (ctx : InlineContext) (rest : List Char) :
    (r.closeBracket ctx rest).1.EndsTags := by
  unfold InlineReader.closeBracket
  dsimp only
  split
  · exact h.flush
  · next inside image enabled source before hsplit =>
    have hpieces := h.flush
    rw [InlineReader.EndsTags, splitAtBracket_eq_some hsplit, List.forall_mem_append,
      List.forall_mem_cons] at hpieces
    obtain ⟨hinside, -, hbefore⟩ := hpieces
    -- Without a target for it the bracket is text, and what it encloses is left as it is.
    split
    · next target after _ =>
      have hbody := endsTags_resolveEmphasis fun p hp => hinside p (List.mem_reverse.mp hp)
      have hnode : (Piece.node (if image then .image target (resolveEmphasis inside.reverse)
          else .link target (resolveEmphasis inside.reverse))).EndsTags := by
        split
        · exact .of_within (by rw [Inline.events]) hbody
        · exact .of_within (by rw [Inline.events]) hbody
      refine List.forall_mem_cons.mpr ⟨hnode, ?_⟩
      split
      · exact hbefore
      · exact endsTags_disableLinks hbefore
    · exact List.forall_mem_append.mpr ⟨hinside, List.forall_mem_cons.mpr ⟨.text _, hbefore⟩⟩

/-- **Behind an angle there is a link or a piece of HTML**, up to its bracket. -/
theorem angle (rest : List Char) : (r.angle rest).1.EndsTags := by
  unfold InlineReader.angle
  split
  · next address after _ =>
    exact h.addNode _ (.of_within (by rw [Inline.events])
      (List.forall_mem_singleton.mpr (.text _))) _
  split
  · next after hhtml =>
    obtain ⟨front, hfront⟩ := inlineHtml?_suffix hhtml
    -- The piece is cut out by the length of what follows it.
    have hsource : rest.take (rest.length - after.length) = front ++ ['>'] := by
      rw [← hfront, ← List.singleton_append, ← List.append_assoc, List.length_append,
        Nat.add_sub_cancel, List.take_left]
    refine h.addNode _ (.of_leaf _ (by rw [Inline.events]) ?_) _
    rw [Event.EndsTag, String.toList_ofList, hsource, ← List.cons_append, List.getLast?_concat]
  · exact h

theorem backslash (ctx : InlineContext) (rest : List Char) :
    (r.backslash ctx rest).1.EndsTags := by
  unfold InlineReader.backslash
  split
  · exact h
  · split
    · exact h.lineBreak true
    split
    · exact h
    · exact h
  · exact h

omit h in
/-- Each of the constructs that a step chooses from is read by itself. -/
theorem ite {p : Prop} [Decidable p] {x y : InlineReader × List Char} (hx : x.1.EndsTags)
    (hy : y.1.EndsTags) : (if p then x else y).1.EndsTags := by
  split
  · exact hx
  · exact hy

/-- **What one step keeps.** -/
theorem step (ctx : InlineContext) (c : Char) (rest : List Char) :
    (r.step ctx c rest).1.EndsTags := by
  unfold InlineReader.step
  refine ite (h.lineBreak false) <| ite (h.backslash ctx rest) <| ite ?code <|
    ite (h.angle rest) <| ite (h.add (.bracket ..) trivial _) <|
    ite (h.add (.bracket ..) trivial _) <| ite (h.closeBracket ctx rest) <| ite ?entity <|
    ite (ite (h.add (.run ..) trivial _) (h.literals _)) h
  case code =>
    dsimp only
    split
    · exact h.addNode _ (.of_leaf (.code _) (by rw [Inline.events]) trivial) _
    · exact h.literals _
  case entity =>
    split
    · exact h.addNode _ (.text _) _
    · exact h

end InlineReader.EndsTags

theorem endsTags_readPieces (ctx : InlineContext) (fuel : Nat) : ∀ {r : InlineReader},
    r.EndsTags → ∀ cs, ∀ p ∈ readPieces ctx fuel r cs, p.EndsTags := by
  induction fuel with
  | zero => exact fun h _ => h.finish
  | succ fuel ih =>
    intro r h cs
    cases cs with
    | nil => exact h.finish
    | cons c rest => exact ih (h.step ctx c rest) _

/-- **All HTML in a text that has been read ends with its bracket.** -/
theorem endsTags_readInlines (ctx : InlineContext) (cs : List Char) :
    ∀ i ∈ readInlines ctx cs, i.EndsTags := by
  have hstart : InlineReader.EndsTags {} := List.forall_mem_nil _
  exact endsTags_resolveEmphasis (endsTags_readPieces ctx cs.length hstart cs)

/-! ### Documents -/

section Blocks

variable {ι : Type} {f : ι → List Inline}

theorem endsTags_read (hf : ∀ body, ∀ i ∈ f body, i.EndsTags) (body : ι) :
    EndsTags (inlineEvents (f body)) :=
  .of_forall (Inline.EndsTags.events (hf body))

theorem endsTags_cellEvents (hf : ∀ body, ∀ i ∈ f body, i.EndsTags) (cells : List ι) :
    EndsTags (cellEvents (cells.map f)) := by
  induction cells with
  | nil => exact .nil
  | cons cell cells ih => exact ((endsTags_read hf cell).within .tableCell).append ih

theorem endsTags_rowEvents (hf : ∀ body, ∀ i ∈ f body, i.EndsTags) (rows : List (List ι)) :
    EndsTags (rowEvents (rows.map (·.map f))) := by
  induction rows with
  | nil => exact .nil
  | cons row rows ih => exact ((endsTags_cellEvents hf row).within .tableRow).append ih

mutual

theorem endsTags_events (hf : ∀ body, ∀ i ∈ f body, i.EndsTags) :
    ∀ b : Block ι, EndsTags (b.map f).events
  | .paragraph body => by
    rw [Block.map, Block.events]
    exact (endsTags_read hf body).within .paragraph
  | .plain body => by
    rw [Block.map, Block.events]
    exact endsTags_read hf body
  | .heading level body => by
    rw [Block.map, Block.events]
    exact (endsTags_read hf body).within (.heading level)
  | .blockquote body => by
    rw [Block.map, Block.events]
    exact (endsTags_blockEvents hf body).within .blockquote
  | .list start items => by
    rw [Block.map, Block.events]
    exact (endsTags_itemEvents hf items).within (.list start)
  | .code info source => by
    rw [Block.map, Block.events]
    have htext : EndsTags [.text source] := .cons trivial .nil
    exact htext.within (.codeBlock info)
  | .html source => by
    rw [Block.map, Block.events]
    exact .block source .nil
  | .rule => by
    rw [Block.map, Block.events]
    exact .cons trivial .nil
  | .table alignments head rows => by
    rw [Block.map, Block.events]
    exact (((endsTags_cellEvents hf head).within .tableHead).append
      (endsTags_rowEvents hf rows)).within (.table alignments)
  | .metadata source => by
    rw [Block.map, Block.events]
    have htext : EndsTags [.text source] := .cons trivial .nil
    exact htext.within .metadataBlock

theorem endsTags_blockEvents (hf : ∀ body, ∀ i ∈ f body, i.EndsTags) :
    ∀ bs : List (Block ι), EndsTags (blockEvents (Block.mapAll f bs))
  | [] => by
    rw [Block.mapAll, blockEvents]
    exact .nil
  | b :: bs => by
    rw [Block.mapAll, blockEvents]
    exact (endsTags_events hf b).append (endsTags_blockEvents hf bs)

theorem endsTags_itemEvents (hf : ∀ body, ∀ i ∈ f body, i.EndsTags) :
    ∀ items : List (List (Block ι)), EndsTags (itemEvents (Block.mapItems f items))
  | [] => by
    rw [Block.mapItems, itemEvents]
    exact .nil
  | item :: items => by
    rw [Block.mapItems, itemEvents]
    exact ((endsTags_blockEvents hf item).within .item).append (endsTags_itemEvents hf items)

end

end Blocks

/-- **All HTML of a document ends with its bracket or stands in a block.** -/
theorem endsTags_readDocument (text : List Char) : EndsTags (blockEvents (readDocument text)) := by
  refine endsTags_blockEvents (fun raw => ?_) _
  unfold RawText.read
  dsimp only
  split
  · exact List.forall_mem_cons.mpr
      ⟨.of_leaf (.taskMarker _) (by rw [Inline.events]) trivial, endsTags_readInlines _ _⟩
  · exact endsTags_readInlines _ _

end Folio.Markdown
