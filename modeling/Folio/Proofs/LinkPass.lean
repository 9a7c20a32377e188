import Folio.Proofs.AddressScan
import Folio.Proofs.TermPass

/-!
# Links in the text of a page

A text is cut into plain parts and addresses, and nothing of it is lost: the parts put together
are the text.  Every address becomes a link of three tokens, which are balanced.

## Main definitions

* `Linkify.Segment.chars` — the characters of a part.

## Main results

* `Linkify.flatMap_chars_segments` — **the parts of a text are the text.**
* `Linkify.linkChildren_spec` — **linking the addresses of a run keeps its balance and its text.**
-/

namespace Folio

open BracketOf (IsBalanced scan)

namespace Linkify

/-! ### The parts of a text -/

/-- The characters of a part. -/
def Segment.chars : Segment → List Char
  | .plain cs => cs
  | .link cs => cs

theorem flatMap_chars_plainBefore (pending : List Char) (rest : List Segment) :
    (plainBefore pending rest).flatMap Segment.chars
      = pending.reverse ++ rest.flatMap Segment.chars := by
  unfold plainBefore
  split
  · next h =>
    obtain rfl : pending = [] := by simpa using h
    rfl
  · rfl

theorem flatMap_chars_assemble (l : Linkify) (fs : List Find) : ∀ pending,
    (l.assemble pending fs).flatMap Segment.chars = pending.reverse ++ textOf fs := by
  induction fs with
  | nil =>
    intro pending
    rw [assemble, flatMap_chars_plainBefore]
    rfl
  | cons f fs ih =>
    intro pending
    cases f with
    | char c =>
      rw [assemble, ih, textOf_cons]
      simp [Find.chars]
    | address a =>
      rw [assemble, textOf_cons, Find.chars]
      split
      · -- The closers behind the link wait for the next part.
        rw [flatMap_chars_plainBefore, List.flatMap_cons, ih, List.reverse_reverse, Segment.chars,
          ← List.append_assoc (trimAddress _), trimAddress_append_trimmedOff]
      · rw [ih]
        simp

/-- **The parts of a text are the text.** -/
theorem flatMap_chars_segments (l : Linkify) (cs : List Char) :
    (l.segments cs).flatMap Segment.chars = cs := by
  obtain ⟨fs, rfl, hscans⟩ := exists_scans cs none
  rw [segments_textOf l hscans, flatMap_chars_assemble]
  rfl

/-! ### The tokens of a run -/

/-- The tokens of a part are texts, and those that open and close a link. -/
theorem mem_segmentTokens {segment : Segment} {t : Token} (ht : t ∈ segment.tokens) :
    (∃ s, t = .text s) ∨ (∃ s, t = openingToken s) ∨ t = .mark .link .closing := by
  cases segment with
  | plain cs => exact .inl ⟨_, List.mem_singleton.mp ht⟩
  | link cs =>
    simp only [Segment.tokens, List.mem_cons, List.not_mem_nil, or_false] at ht
    rcases ht with rfl | rfl | rfl
    · exact .inr (.inl ⟨_, rfl⟩)
    · exact .inl ⟨_, rfl⟩
    · exact .inr (.inr rfl)

/-- The tokens of a part are balanced and read as the part. -/
theorem segmentTokens_spec (segment : Segment) : InlineContent segment.tokens ∧
    plainText segment.tokens = String.ofList segment.chars := by
  have hparts : ∀ t ∈ segment.tokens, t.IsInlinePart := fun t ht => by
    rcases mem_segmentTokens ht with ⟨s, rfl⟩ | ⟨s, rfl⟩ | rfl
    · exact ⟨fun h => absurd rfl h, fun _ => rfl, rfl⟩
    · exact ⟨fun _ => .inl rfl, (fun h => by cases h), rfl⟩
    · exact ⟨fun _ => .inl rfl, (fun h => by cases h), rfl⟩
  have htext : ∀ s, (Token.text s).plainText = s := fun s => Token.plainText_text rfl
  cases segment with
  | plain cs => exact ⟨⟨rfl, hparts⟩, by simp [Segment.tokens, Segment.chars, htext]⟩
  | link cs =>
    have hopening : (openingToken (String.ofList cs)).plainText = "" :=
      Token.plainText_link (.inl rfl) rfl
    have hclosing : (Token.mark .link .closing).plainText = "" :=
      Token.plainText_link (.inl rfl) rfl
    refine ⟨⟨rfl, hparts⟩, ?_⟩
    simp only [Segment.tokens, Segment.chars, plainText_cons, hopening, hclosing, htext,
      plainText_nil, String.append_empty, String.empty_append]

/-- The tokens of the parts of a text are balanced and read as the text. -/
theorem segmentsTokens_spec (segments : List Segment) :
    InlineContent (segments.flatMap Segment.tokens) ∧
      plainText (segments.flatMap Segment.tokens)
        = String.ofList (segments.flatMap Segment.chars) := by
  induction segments with
  | nil => exact ⟨inlineContent_nil, rfl⟩
  | cons segment segments ih =>
    obtain ⟨hcontent, htext⟩ := segmentTokens_spec segment
    rw [List.flatMap_cons, List.flatMap_cons, plainText_append, htext, ih.2, String.ofList_append]
    exact ⟨hcontent.append ih.1, rfl⟩

/-- The number of links around what stands behind a token. -/
def depthBehind (depth : Nat) (t : Token) : Nat :=
  match t.kind, t.nesting with
  | .link, .opening => depth + 1
  | .link, .closing => depth - 1
  | _, _ => depth

theorem linkChildren_of_text (l : Linkify) {t : Token} (hk : t.kind = .text) (ts : List Token) :
    l.linkChildren 0 (t :: ts)
      = (l.segments t.content.toList).flatMap Segment.tokens ++ l.linkChildren 0 ts := by
  rw [linkChildren]
  simp [hk]

theorem linkChildren_of_kept (l : Linkify) {depth : Nat} {t : Token}
    (h : t.kind = .text → depth ≠ 0) (ts : List Token) :
    l.linkChildren depth (t :: ts) = t :: l.linkChildren (depthBehind depth t) ts := by
  rw [linkChildren, depthBehind]
  split
  · next hk hn => simp [hk, hn]
  · next hk hn => simp [hk, hn]
  · next hk => simp [hk, h hk]
  · next hopening hclosing =>
    split
    · next hk hn => exact (hopening hk hn).elim
    · next hk hn => exact (hclosing hk hn).elim
    · rfl

/-- A token is kept, or it is a text that is cut into parts. -/
theorem linkChildren_cons (l : Linkify) (depth : Nat) (t : Token) (ts : List Token) :
    ∃ depth', l.linkChildren depth (t :: ts) = t :: l.linkChildren depth' ts ∨
      (t.kind = .text ∧ l.linkChildren depth (t :: ts)
        = (l.segments t.content.toList).flatMap Segment.tokens ++ l.linkChildren depth' ts) := by
  by_cases h : t.kind = .text → depth ≠ 0
  · exact ⟨_, .inl (l.linkChildren_of_kept h ts)⟩
  · push Not at h
    obtain ⟨hk, rfl⟩ := h
    exact ⟨0, .inr ⟨hk, l.linkChildren_of_text hk ts⟩⟩

/-- **The tokens do to a stack what they did before**: a text stands alone, and the tokens in its
place are balanced. -/
theorem scan_linkChildren (l : Linkify) {ts : List Token}
    (htexts : ∀ t ∈ ts, t.kind = .text → t.nesting = .single) : ∀ depth stack,
      scan stack (brackets (l.linkChildren depth ts)) = scan stack (brackets ts) := by
  induction ts with
  | nil => exact fun _ _ => rfl
  | cons t ts ih =>
    intro depth stack
    have ih := ih fun u hu => htexts u (List.mem_cons_of_mem t hu)
    obtain ⟨depth', h | ⟨hk, h⟩⟩ := linkChildren_cons l depth t ts <;> rw [h]
    · rw [brackets, bracketsBy_cons, brackets, bracketsBy_cons, BracketOf.scan_append,
        BracketOf.scan_append]
      exact congrArg _ (funext (ih depth'))
    · have hbalanced : IsBalanced (bracketsBy Token.kind
          ((l.segments t.content.toList).flatMap Segment.tokens)) :=
        (segmentsTokens_spec (l.segments t.content.toList)).1.balanced
      rw [brackets, bracketsBy_append, hbalanced.scan_append, brackets,
        bracketsBy_cons_single _ (htexts t List.mem_cons_self hk)]
      exact ih depth' stack

/-- A token of the linked content was there before, or it is one of a part of a text. -/
theorem mem_linkChildren {l : Linkify} {ts : List Token} {t : Token} : ∀ {depth : Nat},
    t ∈ l.linkChildren depth ts → t ∈ ts ∨ ∃ segment : Segment, t ∈ segment.tokens := by
  induction ts with
  | nil => exact fun h => absurd h List.not_mem_nil
  | cons u ts ih =>
    intro depth h
    obtain ⟨depth', heq | ⟨-, heq⟩⟩ := l.linkChildren_cons depth u ts <;> rw [heq] at h
    · rcases List.mem_cons.mp h with rfl | h
      · exact .inl List.mem_cons_self
      · exact (ih h).imp (List.mem_cons_of_mem u) id
    · rcases List.mem_append.mp h with h | h
      · obtain ⟨segment, -, hmem⟩ := List.mem_flatMap.mp h
        exact .inr ⟨segment, hmem⟩
      · exact (ih h).imp (List.mem_cons_of_mem u) id

/-- Nothing of the text is lost. -/
theorem plainText_linkChildren (l : Linkify) (ts : List Token) :
    ∀ depth, plainText (l.linkChildren depth ts) = plainText ts := by
  induction ts with
  | nil => exact fun _ => rfl
  | cons t ts ih =>
    intro depth
    obtain ⟨depth', h | ⟨hk, h⟩⟩ := linkChildren_cons l depth t ts <;> rw [h]
    · rw [plainText_cons, plainText_cons, ih]
    · rw [plainText_append, (segmentsTokens_spec (l.segments t.content.toList)).2,
        flatMap_chars_segments, String.ofList_toList, ih, plainText_cons, Token.plainText_text hk]

/-- **Linking the addresses of a run keeps its balance and its text.** -/
theorem linkChildren_spec (l : Linkify) {ts : List Token} (h : InlineContent ts) (depth : Nat) :
    InlineContent (l.linkChildren depth ts) ∧
      plainText (l.linkChildren depth ts) = plainText ts := by
  have hscan := l.scan_linkChildren (fun t ht => (h.parts t ht).single_of_text) depth []
  refine ⟨⟨hscan.trans h.balanced, fun u hu => (mem_linkChildren hu).elim (h.parts u) ?_⟩,
    l.plainText_linkChildren ts depth⟩
  rintro ⟨segment, hmem⟩
  exact (segmentTokens_spec segment).1.parts u hmem

theorem apply_eq_mapRuns (l : Linkify) (ts : List Token) :
    l.apply ts = mapRuns (l.linkChildren 0) ts := rfl

/-- **Links in the text leave a page.** -/
theorem pageContent_apply (l : Linkify) {ts : List Token} (h : PageContent ts) :
    PageContent (l.apply ts) :=
  apply_eq_mapRuns l ts ▸ h.mapRuns fun _ hx => (linkChildren_spec l hx 0).1

end Linkify

end Folio
