import Folio.Proofs.LinkPass

/-!
# Links that are detected again

The plain parts of a text are cut out of it at both ends of an address that becomes a link, and each
of them is searched by itself when links are detected again.  Behind such an address stand the
closers that were trimmed off it, which begin no address; in front of the next one the search of the
part finds what the search of the text found there (`Scans.cut`).  So nothing but addresses that
become no links is found in a plain part, and it is left as it is.  What stands inside of a link is
left alone, and the links of the first time are links for the second one.

## Main definitions

* `Linkify.Segment.IsSettled` — a plain part in which no link is found.

## Main results

* `Linkify.isSettled_segments` — **the parts of a text are settled.**
* `Linkify.linkChildren_linkChildren`, `Linkify.apply_apply` — **to detect links twice is to detect
  them once.**
-/

namespace Folio

namespace Linkify

variable {l : Linkify}

/-! ### Plain parts -/

/-- If the part is plain, then no link is found in it when it is searched by itself. -/
def Segment.IsSettled (l : Linkify) : Segment → Prop
  | .plain cs => l.segments cs = [.plain cs]
  | .link _ => True

/-- None of the addresses that are found becomes a link. -/
def FindsNoLink (l : Linkify) (fs : List Find) : Prop :=
  ∀ f ∈ fs, ∀ a ∈ f.address?, l.accepts a = false

theorem findsNoLink_nil (l : Linkify) : FindsNoLink l [] := List.forall_mem_nil _

theorem findsNoLink_chars (l : Linkify) (cs : List Char) : FindsNoLink l (cs.map .char) := by
  intro f hf a ha
  obtain ⟨c, -, rfl⟩ := List.mem_map.mp hf
  cases ha

theorem FindsNoLink.concat {fs : List Find} (h : FindsNoLink l fs) {f : Find}
    (hf : ∀ a ∈ f.address?, l.accepts a = false) : FindsNoLink l (fs ++ [f]) := by
  intro g hg
  rcases List.mem_append.mp hg with hg | hg
  · exact h g hg
  · obtain rfl := List.mem_singleton.mp hg
    exact hf

theorem FindsNoLink.assemble {fs : List Find} (h : FindsNoLink l fs) : ∀ pending,
    l.assemble pending fs = plainBefore ((textOf fs).reverse ++ pending) [] := by
  induction fs with
  | nil => exact fun _ => rfl
  | cons f fs ih =>
    intro pending
    obtain ⟨hf, hfs⟩ := List.forall_mem_cons.mp h
    cases f with
    | char c =>
      rw [Linkify.assemble, ih hfs, textOf_cons]
      simp [Find.chars]
    | address a =>
      rw [Linkify.assemble, if_neg (by simp [hf a rfl]), ih hfs, textOf_cons]
      simp [Find.chars]

/-- A plain part is settled if its own search finds no link. -/
theorem isSettled_plainBefore {done : List Find} (hscans : Scans none done [])
    (hdone : FindsNoLink l done) {segments : List Segment}
    (h : ∀ segment ∈ segments, segment.IsSettled l) :
    ∀ segment ∈ plainBefore (textOf done).reverse segments, segment.IsSettled l := by
  unfold plainBefore
  split
  · exact h
  · next hne =>
    rw [List.reverse_reverse]
    refine List.forall_mem_cons.mpr ⟨?_, h⟩
    have hpending : (textOf done).reverse.isEmpty = false := Bool.eq_false_iff.mpr hne
    rw [Segment.IsSettled, l.segments_textOf hscans, hdone.assemble, List.append_nil, plainBefore,
      hpending, List.reverse_reverse]
    rfl

/-- The parts are settled if the search goes on from the beginning of the pending part. -/
theorem isSettled_assemble {fs : List Find} : ∀ {done : List Find},
    Scans none (done ++ fs) [] → FindsNoLink l done →
      ∀ segment ∈ l.assemble (textOf done).reverse fs, segment.IsSettled l := by
  induction fs with
  | nil =>
    intro done hscans hdone
    rw [List.append_nil] at hscans
    exact isSettled_plainBefore hscans hdone (List.forall_mem_nil _)
  | cons f fs ih =>
    intro done hscans hdone
    have hgoOn : (∀ a ∈ f.address?, l.accepts a = false) →
        ∀ segment ∈ l.assemble (textOf (done ++ [f])).reverse fs, segment.IsSettled l := by
      intro hf
      refine ih ?_ (hdone.concat hf)
      rwa [List.append_assoc]
    rw [textOf_append, List.reverse_append, textOf_cons, textOf_nil, List.append_nil] at hgoOn
    cases f with
    | char c => exact hgoOn (by simp [Find.address?])
    | address a =>
      rw [assemble]
      split
      · -- The pending part ends in front of the address, and a new one begins behind it.
        obtain ⟨hbefore, hfound, hbehind⟩ := scans_append.mp hscans
        rw [List.append_nil] at hbefore hfound
        refine isSettled_plainBefore (hbefore.cut hfound) hdone
          (List.forall_mem_cons.mpr ⟨trivial, ?_⟩)
        have hnone : addressAt? (textOf fs ++ []) = none := by
          rw [List.append_nil]
          exact addressAt?_behind hfound
        have hscans := hbehind.closers_append hnone (isCloser_of_mem_trimmedOff a.chars) none
        have hsettled := ih hscans (findsNoLink_chars l _)
        rwa [textOf_chars] at hsettled
      · next hrejected =>
        refine hgoOn fun b hb => ?_
        obtain rfl : a = b := Option.some.inj hb
        exact Bool.eq_false_iff.mpr hrejected

/-- **The parts of a text are settled.** -/
theorem isSettled_segments (l : Linkify) (cs : List Char) :
    ∀ segment ∈ l.segments cs, segment.IsSettled l := by
  obtain ⟨fs, rfl, hscans⟩ := exists_scans cs none
  rw [l.segments_textOf hscans]
  have hbegin : Scans none ([] ++ fs) [] := hscans
  exact isSettled_assemble hbegin (findsNoLink_nil l)

/-! ### The tokens of a run -/

/-- The text of a detected link stands inside of it. -/
theorem linkChildren_link (l : Linkify) (s : String) (ts : List Token) :
    l.linkChildren 0 (openingToken s :: .text s :: .mark .link .closing :: ts)
      = openingToken s :: .text s :: .mark .link .closing :: l.linkChildren 0 ts := rfl

/-- The tokens of settled parts are left as they are. -/
theorem linkChildren_tokens_append {segments : List Segment}
    (h : ∀ segment ∈ segments, segment.IsSettled l) (ts : List Token) :
    l.linkChildren 0 (segments.flatMap Segment.tokens ++ ts)
      = segments.flatMap Segment.tokens ++ l.linkChildren 0 ts := by
  induction segments with
  | nil => rfl
  | cons segment segments ih =>
    obtain ⟨hsegment, hsegments⟩ := List.forall_mem_cons.mp h
    rw [List.flatMap_cons, List.append_assoc, List.append_assoc, ← ih hsegments]
    cases segment with
    | plain cs =>
      have hsame : l.segments (Token.text (String.ofList cs)).content.toList = [.plain cs] := by
        rw [Token.text, String.toList_ofList]
        exact hsegment
      rw [Segment.tokens, List.singleton_append, l.linkChildren_of_text rfl, hsame]
      rfl
    | link cs => exact l.linkChildren_link (String.ofList cs) _

/-- **To detect the links of a run twice is to detect them once.** -/
theorem linkChildren_linkChildren (l : Linkify) (ts : List Token) : ∀ depth,
    l.linkChildren depth (l.linkChildren depth ts) = l.linkChildren depth ts := by
  induction ts with
  | nil => exact fun _ => rfl
  | cons t ts ih =>
    intro depth
    by_cases h : t.kind = .text → depth ≠ 0
    · rw [l.linkChildren_of_kept h, l.linkChildren_of_kept h, ih]
    · push Not at h
      obtain ⟨hk, rfl⟩ := h
      rw [l.linkChildren_of_text hk, linkChildren_tokens_append (isSettled_segments l _), ih]

/-- **To detect the links of a page twice is to detect them once.** -/
theorem apply_apply (l : Linkify) (ts : List Token) : l.apply (l.apply ts) = l.apply ts := by
  rw [apply_eq_mapRuns, apply_eq_mapRuns, mapRuns_mapRuns]
  exact congrArg (mapRuns · ts) (funext fun children => l.linkChildren_linkChildren children 0)

end Linkify

end Folio
