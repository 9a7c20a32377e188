import Folio.Proofs.AddressOpenings

/-!
# The address that a text begins with

An address is an opening with what follows it, or a domain name with its path.  A domain name is as
long as it can be: it has as many labels as possible, and ends with a top-level domain behind which
the word ends.  Each reader finds exactly what its grammar describes, so two texts can be compared
without the readers.

A top-level domain and a label behind it would be a label together.  Hence no domain name stands
directly behind another one, and no address directly behind another one.

## Main definitions

* `Linkify.IsLabel`, `Linkify.IsTopLevel`, `Linkify.IsDomain` — the parts of a domain name, and a
  domain name with what follows it.
* `Linkify.Address.Fits` — what an address is, in front of what follows it.

## Main results

* `Linkify.domainAt?_eq` — **a domain name is a label, a point, and what follows them.**
* `Linkify.addressAt?_eq_some_iff` — **the address that a text begins with.**
* `Linkify.Address.Fits.addressAt?_rest` — **no address begins directly behind another one.**
-/

namespace Folio

namespace Linkify

open Text (StopsAt isWordChar)

/-! ### Labels and top-level domains -/

/-- A label of a domain name. -/
structure IsLabel (label : List Char) : Prop where
  /-- It consists of letters, numbers and hyphens. -/
  chars : ∀ c ∈ label, isLabelChar c = true
  /-- It does not begin with a hyphen. -/
  first : ∃ c ∈ label.head?, isLabelEnd c = true
  /-- It does not end with a hyphen. -/
  last : ∃ c ∈ label.getLast?, isLabelEnd c = true

/-- A character that is no part of a word. -/
def endsWord (c : Char) : Bool := !isWordChar c

/-- A top-level domain. -/
structure IsTopLevel (top : List Char) : Prop where
  letters : ∀ c ∈ top, isDomainLetter c = true
  two_le : 2 ≤ top.length
  le : top.length ≤ 63

theorem label?_eq_some_iff {cs label rest : List Char} :
    label? cs = some (label, rest) ↔ cs = label ++ '.' :: rest ∧ IsLabel label := by
  have hpoint : ∀ c, (c == '.') = true → isLabelChar c = false := by
    intro c hc
    obtain rfl := beq_iff_eq.mp hc
    decide
  have hends : ∀ c : Option Char,
      (c.map isLabelEnd).getD false = true ↔ ∃ x ∈ c, isLabelEnd x = true := by
    intro c
    cases c <;> simp
  constructor
  · intro h
    unfold label? at h
    dsimp only at h
    split at h
    · next hdrop =>
      split at h
      · next hcond =>
        obtain ⟨rfl, rfl⟩ := Prod.mk.inj (Option.some.inj h)
        obtain ⟨hfirst, hlast⟩ := Bool.and_eq_true_iff.mp hcond
        refine ⟨?_, fun c hc => List.mem_takeWhile_imp hc, (hends _).mp hfirst, (hends _).mp hlast⟩
        rw [← hdrop]
        exact (List.prefix_iff_eq_append.mp (List.takeWhile_prefix isLabelChar)).symm
      · cases h
    · cases h
  · rintro ⟨rfl, hlabel⟩
    have hrun : (label ++ '.' :: rest).takeWhile isLabelChar = label :=
      Text.takeWhile_append hlabel.chars hpoint (Text.stopsAt_cons.mpr rfl)
    unfold label?
    dsimp only
    rw [hrun, List.drop_left]
    exact if_pos (Bool.and_eq_true_iff.mpr ⟨(hends _).mpr hlabel.first, (hends _).mpr hlabel.last⟩)

theorem topLevel?_eq_some_iff {cs top rest : List Char} :
    topLevel? cs = some (top, rest) ↔
      cs = top ++ rest ∧ IsTopLevel top ∧ StopsAt endsWord rest := by
  have hletter : ∀ c, endsWord c = true → isDomainLetter c = false := by
    intro c hc
    rw [← Bool.not_eq_true]
    intro hletter
    simp [endsWord, isWordChar_of_isDomainLetter hletter] at hc
  constructor
  · intro h
    unfold topLevel? at h
    dsimp only at h
    split_ifs at h with hcond
    obtain ⟨rfl, rfl⟩ := Prod.mk.inj (Option.some.inj h)
    simp only [Bool.and_eq_true, decide_eq_true_eq] at hcond
    obtain ⟨⟨htwo, hle⟩, hends⟩ := hcond
    refine ⟨(List.prefix_iff_eq_append.mp (List.takeWhile_prefix isDomainLetter)).symm,
      ⟨fun c hc => List.mem_takeWhile_imp hc, htwo, hle⟩, ?_⟩
    intro c hc
    split at hends
    · next hnil =>
      rw [hnil] at hc
      cases hc
    · next d ds hcons =>
      rw [hcons] at hc
      obtain rfl : d = c := by simpa using hc
      exact hends
  · rintro ⟨rfl, htop, hrest⟩
    have hrun : (top ++ rest).takeWhile isDomainLetter = top :=
      Text.takeWhile_append htop.letters hletter hrest
    unfold topLevel?
    dsimp only
    rw [hrun, List.drop_left, if_pos]
    simp only [Bool.and_eq_true, decide_eq_true_eq]
    refine ⟨⟨htop.two_le, htop.le⟩, ?_⟩
    cases rest with
    | nil => rfl
    | cons c cs => exact Text.stopsAt_cons.mp hrest

/-- **An opening is a word that could be a top-level domain, with signs behind it.** -/
theorem IsOpening.exists_letters {start : List Char} (h : IsOpening start) :
    ∃ letters marks, start = letters ++ marks ∧ IsTopLevel letters ∧ marks ≠ [] ∧
      ∀ c ∈ marks, isLabelEnd c = false ∧ endsWord c = true := by
  obtain ⟨opening, hopening, hagrees⟩ := h
  have hparts : ∃ ps qs, opening.toList = ps ++ qs ∧ ps.all Char.isAlpha = true ∧
      2 ≤ ps.length ∧ ps.length ≤ 63 ∧ qs ≠ [] ∧
      qs.all (fun q => !q.isLower && (!isLabelEnd q && endsWord q)) = true := by
    simp only [openings, List.mem_cons, List.not_mem_nil, or_false] at hopening
    rcases hopening with rfl | rfl | rfl
    · exact ⟨"https".toList, "://".toList, by decide +kernel⟩
    · exact ⟨"http".toList, "://".toList, by decide +kernel⟩
    · exact ⟨"www".toList, ".".toList, by decide +kernel⟩
  obtain ⟨ps, qs, heq, hps, htwo, hle, hne, hqs⟩ := hparts
  rw [heq] at hagrees
  obtain ⟨letters, marks, rfl, hletters, hmarks⟩ := exists_append_of_agrees hagrees
  refine ⟨letters, marks, rfl, ⟨?_, ?_, ?_⟩, ?_, ?_⟩
  · intro c hc
    obtain ⟨p, hp, hagrees⟩ := exists_agrees hletters c hc
    exact hagrees.isDomainLetter (List.all_eq_true.mp hps p hp)
  · rwa [← hletters.length_eq]
  · rwa [← hletters.length_eq]
  · rintro rfl
    exact hne (List.forall₂_nil_right_iff.mp hmarks)
  · intro c hc
    obtain ⟨q, hq, hagrees⟩ := exists_agrees hmarks c hc
    have hq := List.all_eq_true.mp hqs q hq
    simp only [Bool.and_eq_true, Bool.not_eq_true'] at hq
    rw [hagrees.eq hq.1]
    exact hq.2

/-! ### Domain names -/

/-- A number of labels above the length of the text is no bound. -/
theorem domain?_congr {m n : Nat} {cs : List Char} (hm : cs.length ≤ m) (hn : cs.length ≤ n) :
    domain? m cs = domain? n cs := by
  induction m generalizing n cs with
  | zero =>
    obtain rfl := List.length_eq_zero_iff.mp (Nat.le_zero.mp hm)
    cases n <;> rfl
  | succ m ih =>
    cases n with
    | zero =>
      obtain rfl := List.length_eq_zero_iff.mp (Nat.le_zero.mp hn)
      rfl
    | succ n =>
      rw [domain?, domain?]
      cases hlabel : label? cs with
      | none => rfl
      | some found =>
        obtain ⟨label, rest⟩ := found
        have hlength := congrArg List.length (label?_eq_some_iff.mp hlabel).1
        rw [List.length_append, List.length_cons] at hlength
        dsimp only
        rw [ih (n := n) (by omega) (by omega)]

/-- The domain name at the beginning of a text, with as many labels as there are. -/
def domainAt? (cs : List Char) : Option (List Char × List Char × List Char) :=
  domain? cs.length cs

/-- What follows the first label of a domain name: a shorter one, or the top-level domain. -/
def domainRest? (cs : List Char) : Option (List Char × List Char × List Char) :=
  (domainAt? cs).or ((topLevel? cs).map fun (top, after) => (top, top, after))

/-- **A domain name is a label, a point, and what follows them.** -/
theorem domainAt?_eq (cs : List Char) : domainAt? cs = (label? cs).bind fun (label, rest) =>
    (domainRest? rest).map fun (chars, top, after) => (label ++ '.' :: chars, top, after) := by
  rw [domainAt?, domain?_congr (Nat.le_refl _) (Nat.le_succ cs.length), domain?]
  cases hlabel : label? cs with
  | none => rfl
  | some found =>
    obtain ⟨label, rest⟩ := found
    have hlength := congrArg List.length (label?_eq_some_iff.mp hlabel).1
    rw [List.length_append, List.length_cons] at hlength
    dsimp only [Option.bind_some]
    rw [domain?_congr (n := rest.length) (by omega) (Nat.le_refl _), domainRest?, domainAt?]
    cases domain? rest.length rest with
    | some found => rfl
    | none => cases topLevel? rest <;> rfl

theorem domainAt?_of_label? {cs label rest : List Char} (h : label? cs = some (label, rest)) :
    domainAt? cs = (domainRest? rest).map fun (chars, top, after) =>
      (label ++ '.' :: chars, top, after) := by
  rw [domainAt?_eq, h]
  rfl

/-- A domain name with its top-level domain, in front of what follows it.  Where a top-level domain
begins, no longer domain name does. -/
inductive IsDomain : (chars top after : List Char) → Prop
  | last {label top after : List Char} (hlabel : IsLabel label) (htop : IsTopLevel top)
      (hafter : StopsAt endsWord after) (hnone : domainAt? (top ++ after) = none) :
      IsDomain (label ++ '.' :: top) top after
  | more {label chars top after : List Char} (hlabel : IsLabel label)
      (hchars : IsDomain chars top after) : IsDomain (label ++ '.' :: chars) top after

theorem domainAt?_eq_some_iff {cs chars top after : List Char} :
    domainAt? cs = some (chars, top, after) ↔ cs = chars ++ after ∧ IsDomain chars top after := by
  constructor
  · -- What follows a label is shorter.
    induction hn : cs.length using Nat.strongRecOn generalizing cs chars with
    | ind n ih =>
      intro h
      rw [domainAt?_eq] at h
      obtain ⟨⟨label, rest⟩, hfound, h⟩ := Option.bind_eq_some_iff.mp h
      obtain ⟨⟨chars', top', after'⟩, hrest, heq⟩ := Option.map_eq_some_iff.mp h
      obtain ⟨rfl, rfl, rfl⟩ : label ++ '.' :: chars' = chars ∧ top' = top ∧ after' = after := by
        simpa using heq
      obtain ⟨rfl, hlabel⟩ := label?_eq_some_iff.mp hfound
      rw [List.length_append, List.length_cons] at hn
      rcases Option.or_eq_some_iff.mp hrest with hmore | ⟨hnone, hlast⟩
      · obtain ⟨rfl, hchars⟩ := ih rest.length (by omega) rfl hmore
        exact ⟨by simp, .more hlabel hchars⟩
      · obtain ⟨⟨top'', after''⟩, htop, heq⟩ := Option.map_eq_some_iff.mp hlast
        obtain ⟨rfl, rfl, rfl⟩ : top'' = chars' ∧ top'' = top' ∧ after'' = after' := by
          simpa using heq
        obtain ⟨rfl, htop, hafter⟩ := topLevel?_eq_some_iff.mp htop
        exact ⟨by simp, .last hlabel htop hafter hnone⟩
  · rintro ⟨rfl, h⟩
    induction h with
    | @last label top after hlabel htop hafter hnone =>
      have hfound : label? (label ++ '.' :: top ++ after) = some (label, top ++ after) :=
        label?_eq_some_iff.mpr ⟨by simp, hlabel⟩
      rw [domainAt?_of_label? hfound, domainRest?, hnone,
        topLevel?_eq_some_iff.mpr ⟨rfl, htop, hafter⟩]
      rfl
    | @more label chars top after hlabel _ ih =>
      have hfound : label? (label ++ '.' :: chars ++ after) = some (label, chars ++ after) :=
        label?_eq_some_iff.mpr ⟨by simp, hlabel⟩
      rw [domainAt?_of_label? hfound, domainRest?, ih]
      rfl

/-! ### Addresses -/

/-- A path, or nothing, and what follows it. -/
inductive IsPath : (path rest : List Char) → Prop
  | nil {rest : List Char} (hrest : ∀ c ∈ rest.head?, c ≠ '/') : IsPath [] rest
  | cons {path rest : List Char} (hpath : ∀ c ∈ path, isAddressChar c = true)
      (hrest : StopsAt endsAddress rest) : IsPath ('/' :: path) rest

/-- The address is the one at the beginning of a text, if `rest` follows it there. -/
inductive Address.Fits : Address → (rest : List Char) → Prop
  | opening {start more rest : List Char} (hstart : IsOpening start) (hmore : IsAddressTail more)
      (hrest : StopsAt endsAddress rest) : Fits ⟨start ++ more, none⟩ rest
  | domain {chars top path rest : List Char} (hdomain : IsDomain chars top (path ++ rest))
      (hpath : IsPath path rest)
      (hopening : ∀ start more, IsOpening start → IsAddressTail more →
        ¬ start ++ more <+: chars ++ path ++ rest) : Fits ⟨chars ++ path, some top⟩ rest

theorem addressAt?_eq (cs : List Char) :
    addressAt? cs = ((afterOpening? cs).bind (addressFrom? cs)).or (domainAddress? cs) := by
  unfold addressAt? afterOpening?
  dsimp only
  cases hscheme : (dropIgnoringCase? "https://".toList cs).or
      (dropIgnoringCase? "http://".toList cs) with
  | none => simp
  | some rest =>
    cases hhost : dropIgnoringCase? "www.".toList cs with
    | none => simp
    | some rest' =>
      -- Both would be openings of one text.
      have hopening : afterOpening? cs = some rest := by rw [afterOpening?, hscheme, Option.some_or]
      obtain ⟨start, hstart, heq⟩ := afterOpening?_eq_some_iff.mp hopening
      obtain ⟨start', hstart', heq'⟩ := exists_isOpening (by simp [openings]) hhost
      obtain ⟨-, rfl⟩ := hstart.unique hstart' (heq.symm.trans heq')
      simp

theorem domainAddress?_eq_some_iff {cs : List Char} {a : Address} :
    domainAddress? cs = some a ↔ ∃ chars top path rest, cs = chars ++ path ++ rest ∧
      IsDomain chars top (path ++ rest) ∧ IsPath path rest ∧ a = ⟨chars ++ path, some top⟩ := by
  have hends : ∀ c, endsAddress c = true → isAddressChar c = false := by simp [endsAddress]
  unfold domainAddress?
  constructor
  · intro h
    obtain ⟨⟨chars, top, after⟩, hfound, rfl⟩ := Option.map_eq_some_iff.mp h
    obtain ⟨rfl, hdomain⟩ := domainAt?_eq_some_iff.mp hfound
    dsimp only
    split
    · next rest =>
      refine ⟨chars, top, '/' :: rest.takeWhile isAddressChar, rest.dropWhile isAddressChar,
        by simp, by simpa using hdomain, .cons (fun c hc => List.mem_takeWhile_imp hc)
        (Text.stopsAt_dropWhile (by simp [endsAddress]) rest), rfl⟩
    · next hslash =>
      refine ⟨chars, top, [], after, by simp, hdomain, .nil fun c hc => ?_, rfl⟩
      rintro rfl
      obtain ⟨rest, rfl⟩ : ∃ rest, after = '/' :: rest := by
        cases after with
        | nil => cases hc
        | cons d ds =>
          obtain rfl : d = '/' := by simpa using hc
          exact ⟨ds, rfl⟩
      exact hslash rest rfl
  · rintro ⟨chars, top, path, rest, rfl, hdomain, hpath, rfl⟩
    rw [Option.map_eq_some_iff]
    refine ⟨(chars, top, path ++ rest), domainAt?_eq_some_iff.mpr ⟨by simp, hdomain⟩, ?_⟩
    dsimp only
    cases hpath with
    | nil hrest =>
      rw [List.nil_append]
      split
      · next rest =>
        exact absurd rfl (hrest '/' rfl)
      · rfl
    | cons hpath hrest =>
      simp only [List.cons_append, Text.takeWhile_append hpath hends hrest]

/-- **The address that a text begins with**: a scheme or `www.` comes before a domain name. -/
theorem addressAt?_eq_some_iff {cs : List Char} {a : Address} :
    addressAt? cs = some a ↔ ∃ rest, cs = a.chars ++ rest ∧ a.Fits rest := by
  rw [addressAt?_eq, Option.or_eq_some_iff]
  constructor
  · rintro (h | ⟨hnone, h⟩)
    · obtain ⟨after, hafter, h⟩ := Option.bind_eq_some_iff.mp h
      obtain ⟨start, hstart, rfl⟩ := afterOpening?_eq_some_iff.mp hafter
      obtain ⟨more, rest, rfl, hmore, hrest, rfl⟩ := addressFrom?_eq_some_iff.mp h
      exact ⟨rest, by simp, .opening hstart hmore hrest⟩
    · obtain ⟨chars, top, path, rest, rfl, hdomain, hpath, rfl⟩ := domainAddress?_eq_some_iff.mp h
      refine ⟨rest, by simp, .domain hdomain hpath ?_⟩
      rintro start more hstart hmore ⟨rest', heq⟩
      have hafter := afterOpening?_eq_some_iff.mpr ⟨start, hstart,
        heq.symm.trans (List.append_assoc start more rest')⟩
      rw [hafter, Option.bind_some, ← heq, List.append_assoc] at hnone
      exact addressFrom?_ne_none hmore hnone
  · rintro ⟨rest, rfl, h⟩
    cases h with
    | @opening start more _ hstart hmore hrest =>
      refine .inl (Option.bind_eq_some_iff.mpr ⟨more ++ rest, ?_, ?_⟩)
      · exact afterOpening?_eq_some_iff.mpr ⟨start, hstart, by simp⟩
      · rw [List.append_assoc]
        exact addressFrom?_eq_some_iff.mpr ⟨more, rest, rfl, hmore, hrest, rfl⟩
    | @domain chars top path _ hdomain hpath hopening =>
      refine .inr ⟨?_, domainAddress?_eq_some_iff.mpr
        ⟨chars, top, path, rest, rfl, hdomain, hpath, rfl⟩⟩
      rw [Option.eq_none_iff_forall_ne_some]
      intro a h
      obtain ⟨after, hafter, h⟩ := Option.bind_eq_some_iff.mp h
      obtain ⟨start, hstart, heq⟩ := afterOpening?_eq_some_iff.mp hafter
      dsimp only at heq h
      rw [heq] at h
      obtain ⟨more, rest', rfl, hmore, -, -⟩ := addressFrom?_eq_some_iff.mp h
      exact hopening start more hstart hmore ⟨rest', by rw [heq, List.append_assoc]⟩

/-! ### The ends of an address -/

theorem IsLabel.exists_cons {label : List Char} (h : IsLabel label) :
    ∃ c cs, label = c :: cs ∧ isLabelEnd c = true := by
  obtain ⟨c, hc, hend⟩ := h.first
  cases label with
  | nil => cases hc
  | cons d ds =>
    obtain rfl : d = c := by simpa using hc
    exact ⟨d, ds, rfl, hend⟩

/-- Letters in front of a label make a label. -/
theorem IsLabel.append_left {letters label : List Char} (h : IsLabel label)
    (hletters : ∀ c ∈ letters, isDomainLetter c = true) : IsLabel (letters ++ label) := by
  obtain ⟨c, hc, hlast⟩ := h.last
  have hends : ∀ c ∈ letters, isLabelEnd c = true :=
    fun c hc => isLabelEnd_of_isDomainLetter (hletters c hc)
  refine ⟨?_, ?_, c, ?_, hlast⟩
  · intro c hc
    rcases List.mem_append.mp hc with hc | hc
    · exact isLabelChar_of_isLabelEnd (hends c hc)
    · exact h.chars c hc
  · cases letters with
    | nil => exact h.first
    | cons d ds => exact ⟨d, rfl, hends d List.mem_cons_self⟩
  · rw [List.getLast?_append, Option.mem_def.mp hc]
    rfl

theorem IsDomain.exists_cons {chars top after : List Char} (h : IsDomain chars top after) :
    ∃ c cs, chars = c :: cs ∧ isLabelEnd c = true := by
  have hfirst : ∀ {label rest : List Char}, IsLabel label →
      ∃ c cs, label ++ '.' :: rest = c :: cs ∧ isLabelEnd c = true := by
    intro label rest hlabel
    obtain ⟨c, cs, rfl, hc⟩ := hlabel.exists_cons
    exact ⟨c, cs ++ '.' :: rest, rfl, hc⟩
  cases h with
  | last hlabel => exact hfirst hlabel
  | more hlabel => exact hfirst hlabel

theorem IsOpening.exists_cons {start : List Char} (h : IsOpening start) :
    ∃ c cs, start = c :: cs ∧ isDomainLetter c = true := by
  obtain ⟨letters, marks, rfl, hletters, -, -⟩ := h.exists_letters
  cases letters with
  | nil => cases hletters.two_le
  | cons c cs => exact ⟨c, cs ++ marks, rfl, hletters.letters c List.mem_cons_self⟩

/-- **An address begins with a letter or a number.** -/
theorem Address.Fits.exists_cons {a : Address} {rest : List Char} (h : a.Fits rest) :
    ∃ c cs, a.chars = c :: cs ∧ isLabelEnd c = true := by
  cases h with
  | @opening start more _ hstart =>
    obtain ⟨c, cs, rfl, hc⟩ := hstart.exists_cons
    exact ⟨c, cs ++ more, rfl, isLabelEnd_of_isDomainLetter hc⟩
  | @domain chars top path _ hdomain =>
    obtain ⟨c, cs, rfl, hc⟩ := hdomain.exists_cons
    exact ⟨c, cs ++ path, rfl, hc⟩

theorem exists_cons_of_addressAt? {cs : List Char} {a : Address} (h : addressAt? cs = some a) :
    ∃ c rest, cs = c :: rest ∧ isLabelEnd c = true := by
  obtain ⟨rest, rfl, hfits⟩ := addressAt?_eq_some_iff.mp h
  obtain ⟨c, chars, heq, hc⟩ := hfits.exists_cons
  exact ⟨c, chars ++ rest, by rw [heq, List.cons_append], hc⟩

theorem addressAt?_of_not_isLabelEnd {c : Char} (h : isLabelEnd c = false) (cs : List Char) :
    addressAt? (c :: cs) = none := by
  rw [Option.eq_none_iff_forall_ne_some]
  intro a ha
  obtain ⟨d, rest, heq, hd⟩ := exists_cons_of_addressAt? ha
  obtain ⟨rfl, -⟩ := List.cons.inj heq
  rw [h] at hd
  cases hd

/-- No address begins where another one had to stop. -/
theorem addressAt?_of_endsAddress {rest : List Char} (h : StopsAt endsAddress rest) :
    addressAt? rest = none := by
  cases rest with
  | nil => rfl
  | cons c cs =>
    have hc := Text.stopsAt_cons.mp h
    refine addressAt?_of_not_isLabelEnd ?_ cs
    rw [← Bool.not_eq_true]
    intro hend
    simp [endsAddress, isAddressChar_of_isLabelChar (isLabelChar_of_isLabelEnd hend)] at hc

/-- **A domain name with another one behind it would be a longer domain name.** -/
theorem IsDomain.domainAt?_after {chars top after : List Char} (h : IsDomain chars top after) :
    domainAt? after = none := by
  induction h with
  | more _ _ ih => exact ih
  | @last label top after _ htop _ hnone =>
    rw [domainAt?_eq] at hnone ⊢
    cases hfound : label? after with
    | none => rfl
    | some found =>
      obtain ⟨next, rest⟩ := found
      obtain ⟨rfl, hnext⟩ := label?_eq_some_iff.mp hfound
      -- The top-level domain and the label behind it are a label together.
      have hlonger : label? (top ++ (next ++ '.' :: rest)) = some (top ++ next, rest) :=
        label?_eq_some_iff.mpr ⟨by simp, hnext.append_left htop.letters⟩
      rw [hlonger] at hnone
      have hrest : domainRest? rest = none := by simpa using hnone
      simp [hrest]

theorem domainAddress?_eq_none {cs : List Char} (h : domainAt? cs = none) :
    domainAddress? cs = none := by
  rw [domainAt?] at h
  rw [domainAddress?, h]
  rfl

/-- Behind a domain name a word ends. -/
theorem IsDomain.stopsAt {chars top after : List Char} (h : IsDomain chars top after) :
    StopsAt endsWord after := by
  induction h with
  | last _ _ hafter => exact hafter
  | more _ _ ih => exact ih

theorem afterOpening?_of_endsWord {rest : List Char} (h : StopsAt endsWord rest) :
    afterOpening? rest = none := by
  rw [Option.eq_none_iff_forall_ne_some]
  intro after hafter
  obtain ⟨start, hstart, rfl⟩ := afterOpening?_eq_some_iff.mp hafter
  obtain ⟨c, cs, rfl, hc⟩ := hstart.exists_cons
  have hends := Text.stopsAt_cons.mp h
  rw [endsWord, isWordChar_of_isDomainLetter hc] at hends
  cases hends

/-- **No address begins directly behind another one.** -/
theorem Address.Fits.addressAt?_rest {a : Address} {rest : List Char} (h : a.Fits rest) :
    addressAt? rest = none := by
  cases h with
  | opening _ _ hrest => exact addressAt?_of_endsAddress hrest
  | domain hdomain hpath _ =>
    cases hpath with
    | cons _ hrest => exact addressAt?_of_endsAddress hrest
    | nil =>
      rw [List.nil_append] at hdomain
      rw [addressAt?_eq, afterOpening?_of_endsWord hdomain.stopsAt,
        domainAddress?_eq_none hdomain.domainAt?_after]
      rfl

end Linkify

end Folio
