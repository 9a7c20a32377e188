import Folio.Proofs.LinkPass
import Folio.Proofs.Nesting

/-!
# What link detection adds to a run

A text outside of links is replaced by its parts, which are texts and links of three tokens each;
all other tokens are kept.  A detected link is told from a link of the source by the mark that its
opening token carries.  Without the marked tokens and their partners the parts of a text are texts
in a row, which join to the text that was there.

Inside of a link of the source the number of links around is never zero: up to its partner at least
as many links are open for the detection as for the search of the partner.  So nothing is added
there.

## Main definitions

* `joinTexts` — a list of tokens without empty texts, in which texts in a row are joined.
* `Linkify.withoutDetected` — a list of tokens without the detected links, of which the texts stay.
* `Linkify.OnlyAddsLinks` — what detection adds to a list of tokens.

## Main results

* `Linkify.onlyAddsLinks_linkChildren` — **link detection only adds links.**
-/

namespace Folio

/-! ### Texts in a row -/

/-- A token before a list whose texts are joined. -/
def joinBefore (t : Token) (ts : List Token) : List Token :=
  if t.kind == .text then
    if t.content == "" then ts
    else match ts with
      | [] => [t]
      | u :: us => if u.kind == .text then { t with content := t.content ++ u.content } :: us
          else t :: u :: us
  else t :: ts

/-- The tokens without empty texts, with texts in a row joined. -/
def joinTexts (ts : List Token) : List Token := ts.foldr joinBefore []

theorem joinTexts_cons (t : Token) (ts : List Token) :
    joinTexts (t :: ts) = joinBefore t (joinTexts ts) := rfl

theorem joinBefore_empty (ts : List Token) : joinBefore (.text "") ts = ts := rfl

/-- Two texts in a row come to one text. -/
theorem joinBefore_joinBefore (a b : String) (ts : List Token) :
    joinBefore (.text a) (joinBefore (.text b) ts) = joinBefore (.text (a ++ b)) ts := by
  by_cases ha : a = ""
  · subst ha
    rw [joinBefore_empty, String.empty_append]
  · by_cases hb : b = ""
    · subst hb
      rw [joinBefore_empty, String.append_empty]
    · have hab : a ++ b ≠ "" := by simp [ha]
      cases ts with
      | nil => simp [joinBefore, Token.text, ha, hb, hab]
      | cons u us =>
        by_cases hu : u.kind = .text
        · simp [joinBefore, Token.text, ha, hb, hab, hu, String.append_assoc]
        · simp [joinBefore, Token.text, ha, hb, hab, hu]

namespace Linkify

/-! ### Detected links -/

/-- The tokens without the detected links: without the tokens that open them, and without their
partners. -/
def withoutDetected : List Token → List Token
  | [] => []
  | t :: ts =>
    if t.info == origin then
      match findClose? (t :: ts) 0 with
      | some j => withoutDetected (ts.eraseIdx (j - 1))
      | none => withoutDetected ts
    else t :: withoutDetected ts
termination_by ts => ts.length
decreasing_by
  · exact Nat.lt_succ_of_le (List.length_eraseIdx_le ts _)
  · exact Nat.lt_succ_self _
  · exact Nat.lt_succ_self _

theorem withoutDetected_cons {t : Token} (h : t.info ≠ origin) (ts : List Token) :
    withoutDetected (t :: ts) = t :: withoutDetected ts := by
  rw [withoutDetected, if_neg (by simpa using h)]

/-- The partner of the token that opens a detected link closes it. -/
theorem findClose?_openingToken (pre : List Token) (s : String) (rest : List Token) :
    findClose? (pre ++ openingToken s :: .text s :: .mark .link .closing :: rest) pre.length
      = some (pre.length + 2) := by
  have hnested : Nested [Token.text s] := .single rfl .nil
  exact findClose?_eq (o := openingToken s) (c := .mark .link .closing) rfl rfl rfl hnested pre rest

theorem withoutDetected_link (s : String) (ts : List Token) :
    withoutDetected (openingToken s :: .text s :: .mark .link .closing :: ts)
      = .text s :: withoutDetected ts := by
  have hinfo : (openingToken s).info = origin := rfl
  have htext : (Token.text s).info ≠ origin := (by decide : "" ≠ origin)
  have hclose := findClose?_openingToken [] s ts
  rw [List.nil_append, List.length_nil, Nat.zero_add] at hclose
  rw [withoutDetected, if_pos (beq_iff_eq.mpr hinfo), hclose]
  exact withoutDetected_cons htext ts

/-- A part of a text as a text of its own. -/
def Segment.text (segment : Segment) : Token := .text (String.ofList segment.chars)

/-- Without the detected links the parts of a text are texts. -/
theorem withoutDetected_tokens_append (segments : List Segment) (ts : List Token) :
    withoutDetected (segments.flatMap Segment.tokens ++ ts)
      = segments.map Segment.text ++ withoutDetected ts := by
  induction segments with
  | nil => rfl
  | cons segment segments ih =>
    rw [List.flatMap_cons, List.append_assoc, List.map_cons, List.cons_append, ← ih]
    cases segment with
    | plain cs =>
      have hinfo : (Token.text (String.ofList cs)).info ≠ origin := (by decide : "" ≠ origin)
      exact withoutDetected_cons hinfo _
    | link cs => exact withoutDetected_link (String.ofList cs) _

/-- The texts of the parts join to the text. -/
theorem joinTexts_parts_append (segments : List Segment) (ts : List Token) :
    joinTexts (segments.map Segment.text ++ ts)
      = joinBefore (.text (String.ofList (segments.flatMap Segment.chars))) (joinTexts ts) := by
  induction segments with
  | nil => exact (joinBefore_empty _).symm
  | cons segment segments ih =>
    rw [List.map_cons, List.cons_append, joinTexts_cons, ih, Segment.text, joinBefore_joinBefore,
      List.flatMap_cons, String.ofList_append]

/-- **Without the detected links the texts join to what they were.** -/
theorem joinTexts_withoutDetected (l : Linkify) {ts : List Token}
    (htexts : ∀ t ∈ ts, t.kind = .text → t = .text t.content)
    (hinfo : ∀ t ∈ ts, t.info ≠ origin) : ∀ depth,
      joinTexts (withoutDetected (l.linkChildren depth ts)) = joinTexts ts := by
  induction ts with
  | nil =>
    intro depth
    rw [linkChildren, withoutDetected]
  | cons t ts ih =>
    obtain ⟨htext, htexts⟩ := List.forall_mem_cons.mp htexts
    obtain ⟨ht, hinfo⟩ := List.forall_mem_cons.mp hinfo
    intro depth
    by_cases h : t.kind = .text → depth ≠ 0
    · rw [l.linkChildren_of_kept h, withoutDetected_cons ht, joinTexts_cons, ih htexts hinfo,
        joinTexts_cons]
    · push Not at h
      obtain ⟨hk, rfl⟩ := h
      rw [l.linkChildren_of_text hk, withoutDetected_tokens_append, joinTexts_parts_append,
        flatMap_chars_segments, String.ofList_toList, ih htexts hinfo, joinTexts_cons, ← htext hk]

/-! ### The tokens that are added -/

/-- The token opens a detected link, which the next two tokens complete. -/
def IsTriple (t : Token) (rest : List Token) : Prop :=
  ∃ s rest', t = openingToken s ∧ rest = .text s :: .mark .link .closing :: rest'

/-- A token of the parts of a text opens a detected link, or it is no opening token. -/
theorem isTriple_or_of_tokens {segments : List Segment} {ts rest : List Token} {t : Token} :
    ∀ {pre}, segments.flatMap Segment.tokens ++ ts = pre ++ t :: rest →
      IsTriple t rest ∨ (t.info ≠ origin ∧ t.nesting ≠ .opening) ∨
        ∃ pre', ts = pre' ++ t :: rest := by
  induction segments with
  | nil => exact fun {pre} h => .inr (.inr ⟨pre, h⟩)
  | cons segment segments ih =>
    intro pre h
    rw [List.flatMap_cons, List.append_assoc] at h
    cases segment with
    | plain cs =>
      cases pre with
      | nil =>
        obtain ⟨rfl, -⟩ := List.cons.inj h
        exact .inr (.inl ⟨(by decide : "" ≠ origin), by simp [Token.text]⟩)
      | cons u pre => exact ih (List.cons.inj h).2
    | link cs =>
      rcases pre with _ | ⟨u, _ | ⟨v, _ | ⟨w, pre⟩⟩⟩
      · obtain ⟨rfl, rfl⟩ := List.cons.inj h
        exact .inl ⟨String.ofList cs, _, rfl, rfl⟩
      · obtain ⟨rfl, -⟩ := List.cons.inj (List.cons.inj h).2
        exact .inr (.inl ⟨(by decide : "" ≠ origin), by simp [Token.text]⟩)
      · obtain ⟨rfl, -⟩ := List.cons.inj (List.cons.inj (List.cons.inj h).2).2
        exact .inr (.inl ⟨by decide, by decide⟩)
      · exact ih (List.cons.inj (List.cons.inj (List.cons.inj h).2).2).2

/-- **A token of the linked run opens a detected link, or it has no mark**; behind an opening token
without a mark the detection goes on as it did. -/
theorem isTriple_or_of_linkChildren (l : Linkify) {ts : List Token}
    (hinfo : ∀ t ∈ ts, t.info ≠ origin) {t : Token} {rest : List Token} : ∀ {depth pre},
      l.linkChildren depth ts = pre ++ t :: rest →
        IsTriple t rest ∨ t.info ≠ origin ∧ (t.nesting = .opening →
          ∃ d ts', ts' ⊆ ts ∧ rest = l.linkChildren (depthBehind d t) ts') := by
  induction ts with
  | nil =>
    intro depth pre h
    rw [linkChildren] at h
    cases pre <;> cases h
  | cons u ts ih =>
    obtain ⟨hu, hinfo⟩ := List.forall_mem_cons.mp hinfo
    have hrest : ∀ {depth pre}, l.linkChildren depth ts = pre ++ t :: rest →
        IsTriple t rest ∨ t.info ≠ origin ∧ (t.nesting = .opening →
          ∃ d ts', ts' ⊆ u :: ts ∧ rest = l.linkChildren (depthBehind d t) ts') := by
      intro depth pre h
      rcases ih hinfo h with htriple | ⟨ht, hopening⟩
      · exact .inl htriple
      · refine .inr ⟨ht, fun hn => ?_⟩
        obtain ⟨d, ts', hsubset, heq⟩ := hopening hn
        exact ⟨d, ts', List.subset_cons_of_subset u hsubset, heq⟩
    intro depth pre h
    by_cases hkept : u.kind = .text → depth ≠ 0
    · rw [l.linkChildren_of_kept hkept] at h
      cases pre with
      | nil =>
        obtain ⟨rfl, rfl⟩ := List.cons.inj h
        exact .inr ⟨hu, fun _ => ⟨depth, ts, List.subset_cons_self u ts, rfl⟩⟩
      | cons v pre => exact hrest (List.cons.inj h).2
    · push Not at hkept
      obtain ⟨hk, rfl⟩ := hkept
      rw [l.linkChildren_of_text hk] at h
      rcases isTriple_or_of_tokens h with htriple | ⟨ht, hn⟩ | ⟨pre', h⟩
      · exact .inl htriple
      · exact .inr ⟨ht, fun hopening => absurd hopening hn⟩
      · exact hrest h

/-! ### Inside of a link -/

/-- **Nothing is added inside of a link**: while the search of its partner counts `count` open
links, at least as many are open for the detection. -/
theorem info_ne_origin_inside (l : Linkify) {ts : List Token} (hinfo : ∀ t ∈ ts, t.info ≠ origin) :
    ∀ {count depth index}, 1 ≤ count → count ≤ depth → ∀ {k t},
      (l.linkChildren depth ts)[k]? = some t →
      (∀ j, closeAfter? .link count index (l.linkChildren depth ts) = some j → index + k < j) →
      t.info ≠ origin := by
  induction ts with
  | nil =>
    intro count depth index _ _ k t h
    rw [linkChildren] at h
    cases h
  | cons u ts ih =>
    obtain ⟨hu, hinfo⟩ := List.forall_mem_cons.mp hinfo
    intro count depth index hone hle k t h hbefore
    rw [l.linkChildren_of_kept fun _ => by omega] at h hbefore
    cases k with
    | zero =>
      obtain rfl : u = t := Option.some.inj h
      exact hu
    | succ k =>
      rw [List.getElem?_cons_succ] at h
      have ih : ∀ count', 1 ≤ count' → count' ≤ depthBehind depth u →
          (∀ j, closeAfter? .link count' (index + 1) (l.linkChildren (depthBehind depth u) ts)
            = some j → index + (k + 1) < j) → t.info ≠ origin := by
        intro count' hone hle hbefore
        have hbefore' : ∀ j, closeAfter? .link count' (index + 1)
            (l.linkChildren (depthBehind depth u) ts) = some j → index + 1 + k < j := by
          intro j hj
          have hlt := hbefore j hj
          omega
        exact ih hinfo hone hle h hbefore'
      rw [closeAfter?] at hbefore
      by_cases hk : u.kind = .link
      · rw [if_neg (by simp [hk])] at hbefore
        cases hn : u.nesting with
        | opening =>
          have hdepth : depthBehind depth u = depth + 1 := by simp [depthBehind, hk, hn]
          rw [hn] at hbefore
          exact ih (count + 1) (by omega) (by omega) hbefore
        | closing =>
          have hdepth : depthBehind depth u = depth - 1 := by simp [depthBehind, hk, hn]
          rw [hn] at hbefore
          dsimp only at hbefore
          split at hbefore
          · -- The partner is found, so `t` does not stand before it.
            have hlt := hbefore index rfl
            omega
          · exact ih (count - 1) (by omega) (by omega) hbefore
        | single =>
          have hdepth : depthBehind depth u = depth := by simp [depthBehind, hk, hn]
          rw [hn] at hbefore
          exact ih count hone (by omega) hbefore
      · have hdepth : depthBehind depth u = depth := by simp [depthBehind, hk]
        rw [if_pos (by simpa using hk)] at hbefore
        exact ih count hone (by omega) hbefore

/-! ### What is added to a run -/

/-- What link detection adds to the tokens `ts`, which leads to the tokens `us`. -/
structure OnlyAddsLinks (ts us : List Token) : Prop where
  /-- Without the detected links the texts join to what they were, and all else is as it was. -/
  restored : joinTexts (withoutDetected us) = joinTexts ts
  /-- A token with the mark opens a link of three tokens, of which the third is its partner. -/
  triples : ∀ (pre : List Token) (t : Token) (rest : List Token), us = pre ++ t :: rest →
    t.info = origin → IsTriple t rest ∧ findClose? us pre.length = some (pre.length + 2)
  /-- No token has the mark between a link of the source and its partner, or up to the end if that
  link has none. -/
  outside : ∀ (pre : List Token) (o : Token) (rest : List Token), us = pre ++ o :: rest →
    o.kind = .link → o.nesting = .opening → o.info ≠ origin → ∀ k t, rest[k]? = some t →
      (∀ j, findClose? us pre.length = some j → pre.length + 1 + k < j) → t.info ≠ origin
  /-- The run reads as it did. -/
  text : plainText us = plainText ts

/-- **Link detection only adds links.** -/
theorem onlyAddsLinks_linkChildren (l : Linkify) {ts : List Token}
    (htexts : ∀ t ∈ ts, t.kind = .text → t = .text t.content)
    (hinfo : ∀ t ∈ ts, t.info ≠ origin) : OnlyAddsLinks ts (l.linkChildren 0 ts) where
  restored := l.joinTexts_withoutDetected htexts hinfo 0
  triples := by
    intro pre t rest heq ht
    rcases l.isTriple_or_of_linkChildren hinfo heq with htriple | ⟨hnot, -⟩
    · refine ⟨htriple, ?_⟩
      obtain ⟨s, rest', rfl, rfl⟩ := htriple
      rw [heq]
      exact findClose?_openingToken pre s rest'
    · exact absurd ht hnot
  outside := by
    intro pre o rest heq hk hn ho k t ht hbefore
    obtain ⟨d, ts', hsubset, rfl⟩ : ∃ d ts', ts' ⊆ ts ∧
        rest = l.linkChildren (depthBehind d o) ts' := by
      rcases l.isTriple_or_of_linkChildren hinfo heq with ⟨s, rest', rfl, -⟩ | ⟨-, hbehind⟩
      · exact absurd rfl ho
      · exact hbehind hn
    have hdepth : depthBehind d o = d + 1 := by simp [depthBehind, hk, hn]
    have hclose : findClose? (pre ++ o :: l.linkChildren (d + 1) ts') pre.length
        = closeAfter? .link 1 (pre.length + 1) (l.linkChildren (d + 1) ts') := by
      simp [findClose?, closeAfter?, Token.isOpening, hk, hn]
    rw [hdepth] at ht heq
    rw [heq, hclose] at hbefore
    exact l.info_ne_origin_inside (fun t ht => hinfo t (hsubset ht)) (Nat.le_refl 1) (by omega)
      ht hbefore
  text := l.plainText_linkChildren ts 0

/-- A run with addresses in front of a link of the source, inside of it and behind it. -/
def runWithLink : List Token :=
  [.text "see b.com, or ", .text "", (Token.mark .link .opening).setAttr "href" "/c",
    .text "www.c.d", .mark .link .closing, .text " (http://e.f)."]

/-- Two links are added, and none inside of the link of the source. -/
theorem onlyAddsLinks_runWithLink :
    (∀ t ∈ runWithLink, t.kind = .text → t = .text t.content) ∧
      (∀ t ∈ runWithLink, t.info ≠ origin) ∧
      (({} : Linkify).linkChildren 0 runWithLink).countP (·.info == origin) = 2 ∧
      OnlyAddsLinks runWithLink (({} : Linkify).linkChildren 0 runWithLink) := by
  have htexts : ∀ t ∈ runWithLink, t.kind = .text → t = .text t.content := by
    simp [runWithLink, Token.text, Token.mark, Token.setAttr]
  have hinfo : ∀ t ∈ runWithLink, t.info ≠ origin := by decide
  exact ⟨htexts, hinfo, by decide +kernel, onlyAddsLinks_linkChildren {} htexts hinfo⟩

end Linkify

end Folio
