import Folio.Proofs.Addresses

/-!
# What is left of an address that is trimmed

Only closers are trimmed off: punctuation marks and closing parentheses.  What stands up to the last
character that is no closer stays, so an address keeps its first character and is never trimmed to
nothing.

An address that is trimmed is still an address when it stands alone, except that an opening can lose
everything behind it, and `www.` its point.  The label and the top-level domain of a domain name end
with a letter, so only its path gets shorter, and the sign that begins the path stays.

## Main definitions

* `Linkify.isCloser` — a character that can be trimmed off.
* `Linkify.IsBareOpening` — an opening with nothing behind it, without the point of `www.`.

## Main results

* `Linkify.exists_trimAddress` — an address is what is left of it and the closers behind it.
* `Linkify.Address.Fits.trimAddress` — **what is left of an address is an address or a bare
  opening.**
* `Linkify.IsBareOpening.addressAt?` — **a bare opening is no address.**
-/

namespace Folio

namespace Linkify

/-! ### Closers -/

/-- A character that can be trimmed off an address. -/
def isCloser (c : Char) : Bool := isTrailingMark c || c == ')'

theorem isLabelEnd_of_isCloser {c : Char} (h : isCloser c = true) : isLabelEnd c = false := by
  simp only [isCloser, isTrailingMark, Bool.or_eq_true, beq_iff_eq] at h
  rcases h with (((((((rfl | rfl) | rfl) | rfl) | rfl) | rfl) | rfl) | rfl) | rfl <;> decide

theorem not_isCloser_of_isLabelEnd {c : Char} (h : isLabelEnd c = true) : isCloser c = false := by
  rw [← Bool.not_eq_true]
  intro hcloser
  rw [isLabelEnd_of_isCloser hcloser] at h
  cases h

theorem trimReversed_cons_of_not_isCloser {c : Char} (h : isCloser c = false) (cs : List Char) :
    trimReversed (c :: cs) = c :: cs := by
  rw [isCloser, Bool.or_eq_false_iff] at h
  simp [trimReversed, h.1, h.2]

theorem exists_trimReversed (cs : List Char) :
    ∃ off, cs = off ++ trimReversed cs ∧ ∀ c ∈ off, isCloser c = true := by
  induction cs with
  | nil => exact ⟨[], rfl, List.forall_mem_nil _⟩
  | cons c cs ih =>
    rw [trimReversed]
    split
    · next hc =>
      obtain ⟨off, heq, hoff⟩ := ih
      refine ⟨c :: off, by rw [List.cons_append, ← heq], List.forall_mem_cons.mpr ⟨?_, hoff⟩⟩
      rw [Bool.or_eq_true, Bool.and_eq_true] at hc
      rw [isCloser, Bool.or_eq_true]
      exact hc.imp_right And.left
    · exact ⟨[], rfl, List.forall_mem_nil _⟩

/-- **An address is what is left of it and the closers behind it.** -/
theorem exists_trimAddress (cs : List Char) :
    ∃ off, cs = trimAddress cs ++ off ∧ ∀ c ∈ off, isCloser c = true := by
  obtain ⟨off, heq, hoff⟩ := exists_trimReversed cs.reverse
  refine ⟨off.reverse, ?_, fun c hc => hoff c (List.mem_reverse.mp hc)⟩
  rw [trimAddress, ← List.reverse_append, ← heq, List.reverse_reverse]

/-- What stands in front of a character that is no closer stays. -/
theorem trimReversed_append {c : Char} (h : isCloser c = false) (xs cs : List Char) :
    ∃ xs', xs' <:+ xs ∧ trimReversed (xs ++ c :: cs) = xs' ++ c :: cs := by
  induction xs with
  | nil => exact ⟨[], List.suffix_refl [], trimReversed_cons_of_not_isCloser h cs⟩
  | cons x xs ih =>
    rw [List.cons_append, trimReversed]
    split
    · obtain ⟨xs', hsuffix, heq⟩ := ih
      exact ⟨xs', hsuffix.trans (List.suffix_cons x xs), heq⟩
    · exact ⟨x :: xs, List.suffix_refl _, rfl⟩

/-- **An address stays up to its last character that is no closer.** -/
theorem trimAddress_append {c : Char} (h : isCloser c = false) (cs xs : List Char) :
    ∃ xs', xs' <+: xs ∧ trimAddress (cs ++ c :: xs) = cs ++ c :: xs' := by
  obtain ⟨ys, hsuffix, heq⟩ := trimReversed_append h xs.reverse cs.reverse
  refine ⟨ys.reverse, ?_, ?_⟩
  · rw [← List.reverse_suffix, List.reverse_reverse]
    exact hsuffix
  · rw [trimAddress, List.reverse_append, List.reverse_cons, List.append_assoc,
      List.singleton_append, heq]
    simp

theorem trimAddress_concat {c : Char} (h : isCloser c = false) (cs : List Char) :
    trimAddress (cs ++ [c]) = cs ++ [c] := by
  obtain ⟨xs, hbegin, htrim⟩ := trimAddress_append h cs []
  rwa [List.prefix_nil.mp hbegin] at htrim

example : trimAddress "a.b/(c);).".toList = "a.b/(c)".toList := by decide +kernel

/-- Behind a text without parentheses all closers are trimmed off. -/
theorem trimAddress_append_closers {cs off : List Char} (hcs : '(' ∉ cs)
    (hoff : ∀ c ∈ off, isCloser c = true) : trimAddress (cs ++ off) = trimAddress cs := by
  have hreversed : ∀ xs : List Char, (∀ c ∈ xs, isCloser c = true) →
      trimReversed (xs ++ cs.reverse) = trimReversed cs.reverse := by
    intro xs hxs
    induction xs with
    | nil => rfl
    | cons c xs ih =>
      obtain ⟨hc, hxs⟩ := List.forall_mem_cons.mp hxs
      have hopen : '(' ∉ xs ++ cs.reverse := by
        intro hmem
        rcases List.mem_append.mp hmem with hmem | hmem
        · have hcloser := hxs _ hmem
          revert hcloser
          decide
        · exact hcs (List.mem_reverse.mp hmem)
      rw [List.cons_append, trimReversed, List.count_eq_zero.mpr hopen, if_pos, ih hxs]
      rw [isCloser, Bool.or_eq_true] at hc
      rw [Bool.or_eq_true, Bool.and_eq_true]
      exact hc.imp_right fun hc => ⟨hc, by simp⟩
  have hoff' : ∀ c ∈ off.reverse, isCloser c = true := fun c hc => hoff c (List.mem_reverse.mp hc)
  rw [trimAddress, List.reverse_append, hreversed off.reverse hoff']
  rfl

/-- **An address is never trimmed to nothing.** -/
theorem Address.Fits.trimAddress_ne_nil {a : Address} {rest : List Char} (h : a.Fits rest) :
    trimAddress a.chars ≠ [] := by
  obtain ⟨c, cs, heq, hc⟩ := h.exists_cons
  obtain ⟨xs, -, htrim⟩ := trimAddress_append (not_isCloser_of_isLabelEnd hc) [] cs
  rw [heq]
  intro hnil
  rw [List.nil_append, hnil] at htrim
  cases htrim

/-! ### Bare openings -/

/-- The openings with nothing behind them, and without the closers at their ends. -/
def bareOpenings : List String := ["https://", "http://", "www"]

/-- The text is a scheme or `www`, in either case, and nothing else. -/
def IsBareOpening (cs : List Char) : Prop :=
  ∃ opening ∈ bareOpenings, List.Forall₂ Agrees opening.toList cs

/-- A character of an opening that is no letter is one of the opening as it is written. -/
theorem IsBareOpening.mem {cs : List Char} (h : IsBareOpening cs) {c : Char} (hc : c ∈ cs)
    (hsign : isDomainLetter c = false) : c = ':' ∨ c = '/' := by
  obtain ⟨opening, hopening, hagrees⟩ := h
  obtain ⟨p, hp, hagrees⟩ := exists_agrees hagrees c hc
  have hchars : ∀ opening ∈ bareOpenings,
      opening.toList.all (fun p => p.isAlpha || p == ':' || p == '/') = true := by decide +kernel
  have hp := List.all_eq_true.mp (hchars opening hopening) p hp
  simp only [Bool.or_eq_true, beq_iff_eq] at hp
  obtain (hletter | rfl) | rfl := hp
  · rw [hagrees.isDomainLetter hletter] at hsign
    cases hsign
  · exact .inl (hagrees.eq rfl)
  · exact .inr (hagrees.eq rfl)

theorem IsBareOpening.trimAddress {cs : List Char} (h : IsBareOpening cs) :
    trimAddress cs = cs := by
  obtain ⟨opening, hopening, hagrees⟩ := h
  have hlast : ∃ ps p, opening.toList = ps ++ [p] ∧ (p = '/' ∨ p = 'w') := by
    simp only [bareOpenings, List.mem_cons, List.not_mem_nil, or_false] at hopening
    rcases hopening with rfl | rfl | rfl
    · exact ⟨"https:/".toList, '/', by decide +kernel⟩
    · exact ⟨"http:/".toList, '/', by decide +kernel⟩
    · exact ⟨"ww".toList, 'w', by decide +kernel⟩
  obtain ⟨ps, p, heq, hp⟩ := hlast
  rw [heq] at hagrees
  obtain ⟨xs, ys, rfl, -, hys⟩ := exists_append_of_agrees hagrees
  obtain ⟨c, ys, hc, hnil, rfl⟩ := List.forall₂_cons_left_iff.mp hys
  obtain rfl := List.forall₂_nil_left_iff.mp hnil
  have hcloser : isCloser c = false := by
    rcases hp with rfl | rfl
    · obtain rfl := hc.eq (by decide)
      decide
    · exact not_isCloser_of_isLabelEnd
        (isLabelEnd_of_isDomainLetter (hc.isDomainLetter (by decide)))
  exact trimAddress_concat hcloser xs

/-- **A bare opening is no address.** -/
theorem IsBareOpening.addressAt? {cs : List Char} (h : IsBareOpening cs) :
    addressAt? cs = none := by
  rw [Option.eq_none_iff_forall_ne_some]
  intro a ha
  obtain ⟨rest, rfl, hfits⟩ := addressAt?_eq_some_iff.mp ha
  cases hfits with
  | @opening start more _ hstart hmore =>
    -- The opening is as long as the bare one, so nothing could stand behind it.
    obtain ⟨b, hb, hagrees⟩ := h
    obtain ⟨p, hp, hstart⟩ := hstart
    have hascii : ∀ s ∈ bareOpenings ++ openings, isAscii s.toList = true := by decide +kernel
    have hle : ∀ b ∈ bareOpenings, ∀ p ∈ openings,
        b.toList <+: p.toList ∨ p.toList <+: b.toList → b.toList.length ≤ p.toList.length := by
      decide +kernel
    have hlength := hle b hb p hp (prefix_or_prefix_of_agrees
      (hascii b (List.mem_append_left _ hb)) (hascii p (List.mem_append_right _ hp)) hagrees hstart
      (by rw [List.append_nil, List.append_assoc]))
    rw [hagrees.length_eq, hstart.length_eq] at hlength
    have hpos := List.length_pos_iff.mpr hmore.1
    simp only [List.length_append] at hlength
    omega
  | @domain chars top path _ hdomain =>
    have hpoint : '.' ∈ chars := by
      cases hdomain <;> simp
    have hsign := h.mem (c := '.') (by simp [hpoint]) (by decide)
    revert hsign
    decide

/-! ### Trimmed addresses -/

/-- **Of an opening with closers behind it the bare opening is left.** -/
theorem IsOpening.trimAddress {start off : List Char} (h : IsOpening start)
    (hoff : ∀ c ∈ off, isCloser c = true) : IsBareOpening (trimAddress (start ++ off)) := by
  obtain ⟨opening, hopening, hagrees⟩ := h
  have hparts : ∃ b ∈ bareOpenings, ∃ n, opening.toList = b.toList ++ List.replicate n '.' := by
    simp only [openings, List.mem_cons, List.not_mem_nil, or_false] at hopening
    rcases hopening with rfl | rfl | rfl
    · exact ⟨"https://", by decide, 0, by decide +kernel⟩
    · exact ⟨"http://", by decide, 0, by decide +kernel⟩
    · exact ⟨"www", by decide, 1, by decide +kernel⟩
  obtain ⟨b, hb, n, heq⟩ := hparts
  rw [heq] at hagrees
  obtain ⟨xs, ys, rfl, hxs, hys⟩ := exists_append_of_agrees hagrees
  have hbare : IsBareOpening xs := ⟨b, hb, hxs⟩
  have hopen : '(' ∉ xs := by
    intro hmem
    have hsign := hbare.mem hmem (by decide)
    revert hsign
    decide
  have hclosers : ∀ c ∈ ys ++ off, isCloser c = true := by
    intro c hc
    rcases List.mem_append.mp hc with hc | hc
    · obtain ⟨m, hm, hagrees⟩ := exists_agrees hys c hc
      obtain rfl := List.eq_of_mem_replicate hm
      obtain rfl := hagrees.eq (by decide)
      decide
    · exact hoff c hc
  rw [List.append_assoc, trimAddress_append_closers hopen hclosers, hbare.trimAddress]
  exact hbare

theorem IsDomain.exists_top {chars top after : List Char} (h : IsDomain chars top after) :
    ∃ front, chars = front ++ top ∧ IsTopLevel top := by
  induction h with
  | @last label top _ _ htop => exact ⟨label ++ ['.'], by simp, htop⟩
  | @more label chars top _ _ _ ih =>
    obtain ⟨front, rfl, htop⟩ := ih
    exact ⟨label ++ '.' :: front, by simp, htop⟩

/-- No domain name begins where a top-level domain ends the text or stands before a path. -/
theorem domainAt?_top {top after : List Char} (htop : IsTopLevel top)
    (hafter : ∀ c ∈ after.head?, c = '/') : domainAt? (top ++ after) = none := by
  have hpoint : isDomainLetter '.' = false := by decide
  have hslash : isLabelChar '/' = false := by decide
  cases hfound : label? (top ++ after) with
  | none => rw [domainAt?_eq, hfound]; rfl
  | some found =>
    exfalso
    obtain ⟨label, rest⟩ := found
    obtain ⟨heq, hlabel⟩ := label?_eq_some_iff.mp hfound
    rcases List.append_eq_append_iff.mp heq with ⟨x, rfl, rfl⟩ | ⟨x, rfl, hx⟩
    · cases x with
      | nil => exact absurd (hafter '.' rfl) (by decide)
      | cons c x =>
        obtain rfl := hafter c rfl
        have hchar := hlabel.chars '/' (List.mem_append_right _ List.mem_cons_self)
        rw [hslash] at hchar
        cases hchar
    · cases x with
      | nil =>
        rw [List.nil_append] at hx
        rw [← hx] at hafter
        exact absurd (hafter '.' rfl) (by decide)
      | cons c x =>
        obtain ⟨rfl, -⟩ := List.cons.inj hx
        have hletter := htop.letters '.' (List.mem_append_right _ List.mem_cons_self)
        rw [hpoint] at hletter
        cases hletter

/-- A domain name stays one when its path gets shorter. -/
theorem IsDomain.of_path {chars top after after' : List Char} (h : IsDomain chars top after)
    (hafter : ∀ c ∈ after'.head?, c = '/') : IsDomain chars top after' := by
  induction h with
  | last hlabel htop _ _ =>
    refine .last hlabel htop ?_ (domainAt?_top htop hafter)
    intro c hc
    obtain rfl := hafter c hc
    decide
  | more hlabel _ ih => exact .more hlabel ih

/-- A domain name ends with a letter, so nothing of it is trimmed off. -/
theorem IsDomain.trimAddress {chars top after : List Char} (h : IsDomain chars top after) :
    trimAddress chars = chars := by
  obtain ⟨front, rfl, htop⟩ := h.exists_top
  have hne : top ≠ [] := by
    rintro rfl
    cases htop.two_le
  obtain ⟨letters, c, rfl⟩ := (List.eq_nil_or_concat' top).resolve_left hne
  have hcloser := not_isCloser_of_isLabelEnd
    (isLabelEnd_of_isDomainLetter (htop.letters c (by simp)))
  rw [← List.append_assoc]
  exact trimAddress_concat hcloser (front ++ letters)

theorem IsPath.head {path rest : List Char} (h : IsPath path rest) :
    ∀ c ∈ path.head?, c = '/' := by
  intro c hc
  cases h with
  | nil => cases hc
  | cons => exact (Option.some.inj hc).symm

/-- A path is trimmed to a path, since the sign that begins it is no closer. -/
theorem IsPath.exists_trimAddress {path rest chars : List Char} (h : IsPath path rest)
    (hchars : trimAddress chars = chars) : ∃ path', path' <+: path ∧
      trimAddress (chars ++ path) = chars ++ path' ∧ IsPath path' [] := by
  cases h with
  | nil => exact ⟨[], List.nil_prefix, by simpa using hchars, .nil (by simp)⟩
  | @cons path _ hpath _ =>
    obtain ⟨path', hbegin, htrim⟩ := trimAddress_append (c := '/') (by decide) chars path
    exact ⟨'/' :: path', List.cons_prefix_cons.mpr ⟨rfl, hbegin⟩, htrim,
      .cons (fun c hc => hpath c (hbegin.subset hc)) (Text.stopsAt_nil _)⟩

/-- **What is left of an address is an address or a bare opening.** -/
theorem Address.Fits.trimAddress {a : Address} {rest : List Char} (h : a.Fits rest) :
    IsBareOpening (trimAddress a.chars) ∨ Address.Fits ⟨trimAddress a.chars, a.domain⟩ [] := by
  cases h with
  | @opening start more _ hstart hmore =>
    by_cases hall : ∀ c ∈ more, isCloser c = true
    · exact .inl (hstart.trimAddress hall)
    · right
      push Not at hall
      obtain ⟨c, hc, hcloser⟩ := hall
      obtain ⟨u, v, rfl⟩ := List.append_of_mem hc
      obtain ⟨v', hbegin, htrim⟩ :=
        trimAddress_append (Bool.eq_false_iff.mpr hcloser) (start ++ u) v
      rw [List.append_assoc, List.append_assoc] at htrim
      rw [htrim]
      refine .opening hstart ⟨by simp, fun x hx => hmore.2 x ?_⟩ (Text.stopsAt_nil _)
      exact ((List.prefix_append_right_inj u).mpr
        (List.cons_prefix_cons.mpr ⟨rfl, hbegin⟩)).subset hx
  | @domain chars top path _ hdomain hpath hopening =>
    right
    obtain ⟨path', hbegin, htrim, hpath'⟩ := hpath.exists_trimAddress hdomain.trimAddress
    rw [htrim]
    refine .domain (hdomain.of_path (by simpa using hpath'.head)) hpath' ?_
    intro start more hstart hmore hbegins
    refine hopening start more hstart hmore (hbegins.trans ?_)
    rw [List.append_nil, List.append_assoc]
    exact (List.prefix_append_right_inj chars).mpr (hbegin.trans (List.prefix_append path rest))

end Linkify

end Folio
