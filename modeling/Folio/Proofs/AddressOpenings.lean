import Folio.Linkify
import Folio.Proofs.TextSearch
import Mathlib.Data.List.Forall2

/-!
# How an address begins

An address that is no domain name begins with a scheme or `www.`, in either case, and goes on behind
it as far as it can.  No two of these openings begin the same text, so an opening is a property of
the text, whichever is looked for first.

A letter of an opening is met by letters only, but not by ASCII letters alone: the long s stands for
the letter s.

## Main definitions

* `Linkify.Agrees` — a character of a text stands for one of a pattern.
* `Linkify.IsOpening` — a text is a scheme or `www.`.
* `Linkify.IsAddressTail` — what may follow an opening.

## Main results

* `Linkify.dropIgnoringCase?_eq_some_iff`, `Linkify.afterOpening?_eq_some_iff` — what stands behind
  an opening.
* `Linkify.addressFrom?_eq_some_iff` — **an address goes on behind its opening as far as it can.**
-/

namespace Folio

/-! ### Characters -/

namespace Text

/-- None of the ranges of two sets overlap. -/
def Ranges.areDisjoint (r s : Ranges) : Bool :=
  r.all fun p => s.all fun q => p.2.blt q.1 || q.2.blt p.1

/-- A code point does not lie in two sets of which no ranges overlap. -/
theorem Ranges.contains_eq_false {r s : Ranges} {n : Nat} (h : r.areDisjoint s = true)
    (hn : r.contains n = true) : s.contains n = false := by
  rw [← Bool.not_eq_true]
  intro hs
  obtain ⟨p, hp, hlo, hhi⟩ := Ranges.exists_of_contains hn
  obtain ⟨q, hq, hlo', hhi'⟩ := Ranges.exists_of_contains hs
  have hdisjoint := List.all_eq_true.mp (List.all_eq_true.mp h p hp) q hq
  rw [Bool.or_eq_true, Nat.blt_eq, Nat.blt_eq] at hdisjoint
  omega

theorem isWordChar_of_isLetter {c : Char} (h : isLetter c = true) : isWordChar c = true := by
  unfold isLetter at h
  unfold isWordChar isAlphabetic
  split at h
  · next hc => simp [hc, Char.isAlphanum, h]
  · next hc => simp [hc, h]

/-- The code points of the ASCII letters. -/
theorem toNat_of_isAlpha {c : Char} (h : c.isAlpha = true) : 0x41 ≤ c.toNat ∧ c.toNat ≤ 0x7A := by
  rcases Bool.or_eq_true_iff.mp h with h | h
  · obtain ⟨hlo, hhi⟩ := of_decide_eq_true h
    exact ⟨UInt32.le_iff_toNat_le.mp hlo, (UInt32.le_iff_toNat_le.mp hhi).trans (by decide)⟩
  · obtain ⟨hlo, hhi⟩ := Bool.and_eq_true_iff.mp h
    exact ⟨Nat.le_trans (by decide) (UInt32.le_iff_toNat_le.mp (of_decide_eq_true hlo)),
      UInt32.le_iff_toNat_le.mp (of_decide_eq_true hhi)⟩

/-- Among the first 128 code points the blanks stand in front of the signs, digits and letters. -/
theorem isBlank_of_lt {c : Char} (hlow : 0x20 < c.toNat) (hhigh : c.toNat < 0x80) :
    isBlank c = false := by
  have hranges : ∀ p ∈ Ranges.whiteSpace, p.2 ≤ 0x20 ∨ 0x80 ≤ p.1 := by decide
  rw [← Bool.not_eq_true]
  intro hblank
  obtain ⟨p, hp, hlo, hhi⟩ := Ranges.exists_of_contains hblank
  have hp := hranges p hp
  omega

theorem isBlank_of_isLetter {c : Char} (h : isLetter c = true) : isBlank c = false := by
  unfold isLetter at h
  split at h
  · next hc => exact isBlank_of_lt (Nat.lt_of_lt_of_le (by decide) (toNat_of_isAlpha h).1) hc
  · exact Ranges.contains_eq_false (by decide +kernel) h

theorem isBlank_of_isNumber {c : Char} (h : isNumber c = true) : isBlank c = false := by
  unfold isNumber at h
  split at h
  · next hc =>
    exact isBlank_of_lt (Nat.lt_of_lt_of_le (by decide) (Char.isDigit_iff_toNat.mp h).1) hc
  · exact Ranges.contains_eq_false (by decide +kernel) h

/-- A letter in upper case has a letter in lower case beside it; all else is kept. -/
theorem toLower_cases (c : Char) :
    c.toLower = c ∨ c.isAlpha = true ∧ c.toLower.isLower = true := by
  unfold Char.toLower
  split
  · next h =>
    refine .inr ⟨Bool.or_eq_true_iff.mpr (.inl (decide_eq_true h)), ?_⟩
    have hlo : 0x41 ≤ c.val.toNat := UInt32.le_iff_toNat_le.mp h.1
    have hhi : c.val.toNat ≤ 0x5A := UInt32.le_iff_toNat_le.mp h.2
    have hsum : (c.val + 0x20).toNat = c.val.toNat + 0x20 := by
      rw [UInt32.toNat_add]
      exact Nat.mod_eq_of_lt (Nat.lt_of_le_of_lt (Nat.add_le_add_right hhi 0x20) (by decide))
    refine Bool.and_eq_true_iff.mpr ⟨decide_eq_true ?_, decide_eq_true ?_⟩
    · exact UInt32.le_iff_toNat_le.mpr (hsum ▸ Nat.add_le_add_right hlo 0x20)
    · exact UInt32.le_iff_toNat_le.mpr (hsum ▸ Nat.add_le_add_right hhi 0x20)
  · exact .inl rfl

end Text

namespace Linkify

open Text (StopsAt isWordChar)

section Characters

variable {c : Char}

theorem isWordChar_of_isDomainLetter (h : isDomainLetter c = true) : isWordChar c = true := by
  simp only [isDomainLetter, Bool.or_eq_true, beq_iff_eq] at h
  rcases h with h | h
  · exact Text.isWordChar_of_isLetter h
  · obtain rfl : c = Char.ofNat 0x345 := by rw [← h, Char.ofNat_toNat]
    decide +kernel

theorem isLabelEnd_of_isDomainLetter (h : isDomainLetter c = true) : isLabelEnd c = true := by
  simp [isLabelEnd, h]

theorem isLabelChar_of_isLabelEnd (h : isLabelEnd c = true) : isLabelChar c = true := by
  simp [isLabelChar, h]

/-- The characters of a label may stand anywhere in an address. -/
theorem isAddressChar_of_isLabelChar (h : isLabelChar c = true) : isAddressChar c = true := by
  have hblank : Text.isBlank c = false := by
    simp only [isLabelChar, isLabelEnd, isDomainLetter, Bool.or_eq_true, beq_iff_eq] at h
    obtain ((h | h) | h) | rfl := h
    · exact Text.isBlank_of_isLetter h
    · obtain rfl : c = Char.ofNat 0x345 := by rw [← h, Char.ofNat_toNat]
      decide
    · exact Text.isBlank_of_isNumber h
    · decide
  have hlt : c ≠ '<' := by
    rintro rfl
    revert h
    decide
  have hgt : c ≠ '>' := by
    rintro rfl
    revert h
    decide
  simp [isAddressChar, hblank, hlt, hgt]

end Characters

/-! ### Openings -/

/-- The character stands for one of a pattern, in either case.  The long s stands for the letter
s. -/
def Agrees (p c : Char) : Prop := c.toLower = p ∨ p = 's' ∧ c.toNat = 0x17F

theorem dropIgnoringCase?_eq_some_iff {pattern text rest : List Char} :
    dropIgnoringCase? pattern text = some rest ↔
      ∃ start, List.Forall₂ Agrees pattern start ∧ text = start ++ rest := by
  induction pattern generalizing text with
  | nil => simp [dropIgnoringCase?]
  | cons p ps ih =>
    cases text with
    | nil => simp [dropIgnoringCase?, List.forall₂_cons_left_iff]
    | cons c cs =>
      have hagrees : (c.toLower == p || (p == 's' && c.toNat == 0x17F)) = true ↔ Agrees p c := by
        simp [Agrees]
      by_cases hc : Agrees p c
      · rw [dropIgnoringCase?, if_pos (hagrees.mpr hc), ih]
        constructor
        · rintro ⟨start, hstart, rfl⟩
          exact ⟨c :: start, .cons hc hstart, rfl⟩
        · rintro ⟨_, _ | ⟨_, hstart⟩, heq⟩
          obtain ⟨rfl, rfl⟩ := List.cons.inj heq
          exact ⟨_, hstart, rfl⟩
      · rw [dropIgnoringCase?, if_neg fun h => hc (hagrees.mp h)]
        refine iff_of_false (Option.some_ne_none rest).symm ?_
        rintro ⟨_, _ | ⟨hc', _⟩, heq⟩
        obtain ⟨rfl, -⟩ := List.cons.inj heq
        exact hc hc'

section Agrees

variable {p q c : Char}

/-- A letter of a pattern is met by letters only. -/
theorem Agrees.isDomainLetter (h : Agrees p c) (hp : p.isAlpha = true) :
    isDomainLetter c = true := by
  have halpha : c.isAlpha = true → Linkify.isDomainLetter c = true := by
    intro hc
    have hlt : c.toNat < 0x80 := Nat.lt_of_le_of_lt (Text.toNat_of_isAlpha hc).2 (by decide)
    simp [Linkify.isDomainLetter, Text.isLetter, hlt, hc]
  rcases h with rfl | ⟨rfl, hc⟩
  · rcases Text.toLower_cases c with hc | ⟨hc, -⟩
    · rw [hc] at hp
      exact halpha hp
    · exact halpha hc
  · obtain rfl : c = Char.ofNat 0x17F := by rw [← hc, Char.ofNat_toNat]
    decide +kernel

/-- A sign of a pattern is met by itself only. -/
theorem Agrees.eq (h : Agrees p c) (hp : p.isLower = false) : c = p := by
  rcases h with rfl | ⟨rfl, -⟩
  · rcases Text.toLower_cases c with hc | ⟨-, hc⟩
    · exact hc.symm
    · rw [hp] at hc
      cases hc
  · cases hp

theorem Agrees.unique (h : Agrees p c) (h' : Agrees q c) (hp : p.toNat < 0x80)
    (hq : q.toNat < 0x80) : p = q := by
  have hlong : ∀ p : Char, c.toNat = 0x17F → c.toLower = p → p.toNat < 0x80 → False := by
    rintro p hc rfl hlt
    obtain rfl : c = Char.ofNat 0x17F := by rw [← hc, Char.ofNat_toNat]
    revert hlt
    decide
  rcases h with hc | ⟨rfl, hc⟩
  · rcases h' with hc' | ⟨rfl, hc'⟩
    · exact hc.symm.trans hc'
    · exact (hlong p hc' hc hp).elim
  · rcases h' with hc' | ⟨rfl, -⟩
    · exact (hlong q hc hc' hq).elim
    · rfl

theorem exists_agrees {ps start : List Char} (h : List.Forall₂ Agrees ps start) :
    ∀ c ∈ start, ∃ p ∈ ps, Agrees p c := by
  induction h with
  | nil => exact fun c hc => absurd hc List.not_mem_nil
  | @cons p d ps start hp _ ih =>
    intro c hc
    rcases List.mem_cons.mp hc with rfl | hc
    · exact ⟨p, List.mem_cons_self, hp⟩
    · obtain ⟨q, hq, hagrees⟩ := ih c hc
      exact ⟨q, List.mem_cons_of_mem p hq, hagrees⟩

theorem exists_append_of_agrees {ps qs start : List Char}
    (h : List.Forall₂ Agrees (ps ++ qs) start) : ∃ xs ys, start = xs ++ ys ∧
      List.Forall₂ Agrees ps xs ∧ List.Forall₂ Agrees qs ys := by
  refine ⟨start.take ps.length, start.drop ps.length, (List.take_append_drop _ _).symm, ?_, ?_⟩
  · simpa using List.forall₂_take ps.length h
  · simpa using List.forall₂_drop ps.length h

/-- The text has ASCII characters only. -/
def isAscii (cs : List Char) : Bool := cs.all (·.toNat < 0x80)

/-- Of two patterns that a text begins with one is the beginning of the other. -/
theorem prefix_or_prefix_of_agrees {ps qs start start' rest rest' : List Char}
    (hps : isAscii ps = true) (hqs : isAscii qs = true)
    (h : List.Forall₂ Agrees ps start) (h' : List.Forall₂ Agrees qs start')
    (heq : start ++ rest = start' ++ rest') : ps <+: qs ∨ qs <+: ps := by
  induction h generalizing qs start' with
  | nil => exact .inl List.nil_prefix
  | @cons p c ps cs hp _ ih =>
    cases h' with
    | nil => exact .inr List.nil_prefix
    | @cons q d qs ds hq hds =>
      obtain ⟨rfl, htail⟩ := List.cons.inj heq
      rw [isAscii, List.all_cons, Bool.and_eq_true, decide_eq_true_eq] at hps hqs
      obtain rfl := hp.unique hq hps.1 hqs.1
      exact (ih hps.2 hqs.2 hds htail).imp (fun h => List.cons_prefix_cons.mpr ⟨rfl, h⟩)
        fun h => List.cons_prefix_cons.mpr ⟨rfl, h⟩

end Agrees

/-- What an address begins with that is no domain name. -/
def openings : List String := ["https://", "http://", "www."]

/-- The text is a scheme or `www.`, in either case. -/
def IsOpening (start : List Char) : Prop :=
  ∃ opening ∈ openings, List.Forall₂ Agrees opening.toList start

/-- A text has one opening only. -/
theorem IsOpening.unique {start start' rest rest' : List Char} (h : IsOpening start)
    (h' : IsOpening start') (heq : start ++ rest = start' ++ rest') :
    start = start' ∧ rest = rest' := by
  obtain ⟨p, hp, h⟩ := h
  obtain ⟨q, hq, h'⟩ := h'
  have hascii : ∀ p ∈ openings, isAscii p.toList = true := by decide +kernel
  have hunique : ∀ p ∈ openings, ∀ q ∈ openings,
      p.toList <+: q.toList ∨ q.toList <+: p.toList → p = q := by decide +kernel
  obtain rfl := hunique p hp q hq
    (prefix_or_prefix_of_agrees (hascii p hp) (hascii q hq) h h' heq)
  exact List.append_inj heq (h.length_eq.symm.trans h'.length_eq)

/-- What follows the opening at the beginning of a text. -/
def afterOpening? (cs : List Char) : Option (List Char) :=
  ((dropIgnoringCase? "https://".toList cs).or (dropIgnoringCase? "http://".toList cs)).or
    (dropIgnoringCase? "www.".toList cs)

theorem exists_isOpening {cs rest : List Char} {opening : String} (hopening : opening ∈ openings)
    (h : dropIgnoringCase? opening.toList cs = some rest) :
    ∃ start, IsOpening start ∧ cs = start ++ rest := by
  obtain ⟨start, hstart, heq⟩ := dropIgnoringCase?_eq_some_iff.mp h
  exact ⟨start, ⟨opening, hopening, hstart⟩, heq⟩

theorem afterOpening?_eq_some_iff {cs rest : List Char} :
    afterOpening? cs = some rest ↔ ∃ start, IsOpening start ∧ cs = start ++ rest := by
  have hsound : ∀ {rest}, afterOpening? cs = some rest →
      ∃ start, IsOpening start ∧ cs = start ++ rest := by
    intro rest h
    rcases Option.or_eq_some_iff.mp h with h | ⟨-, h⟩
    · rcases Option.or_eq_some_iff.mp h with h | ⟨-, h⟩
      · exact exists_isOpening (by simp [openings]) h
      · exact exists_isOpening (by simp [openings]) h
    · exact exists_isOpening (by simp [openings]) h
  refine ⟨hsound, ?_⟩
  rintro ⟨start, hstart, rfl⟩
  have hsome : (afterOpening? (start ++ rest)).isSome = true := by
    obtain ⟨opening, hopening, hagrees⟩ := hstart
    have hdrop : dropIgnoringCase? opening.toList (start ++ rest) = some rest :=
      dropIgnoringCase?_eq_some_iff.mpr ⟨start, hagrees, rfl⟩
    simp only [openings, List.mem_cons, List.not_mem_nil, or_false] at hopening
    rcases hopening with rfl | rfl | rfl <;>
      simp only [afterOpening?, Option.isSome_or, hdrop, Option.isSome_some, Bool.true_or,
        Bool.or_true]
  obtain ⟨rest', hrest'⟩ := Option.isSome_iff_exists.mp hsome
  obtain ⟨start', hstart', heq⟩ := hsound hrest'
  rw [hrest', (hstart.unique hstart' heq).2]

/-! ### What follows an opening -/

/-- An address stops at this character. -/
def endsAddress (c : Char) : Bool := !isAddressChar c

/-- At least one character, all of which may stand in an address. -/
def IsAddressTail (more : List Char) : Prop := more ≠ [] ∧ ∀ c ∈ more, isAddressChar c = true

theorem take_before (start after : List Char) :
    (start ++ after).take ((start ++ after).length - after.length) = start := by
  rw [List.length_append, Nat.add_sub_cancel, List.take_left]

/-- **An address goes on behind its opening as far as it can.** -/
theorem addressFrom?_eq_some_iff {start after : List Char} {a : Address} :
    addressFrom? (start ++ after) after = some a ↔ ∃ more rest, after = more ++ rest ∧
      IsAddressTail more ∧ StopsAt endsAddress rest ∧ a = ⟨start ++ more, none⟩ := by
  have hends : ∀ c, endsAddress c = true → isAddressChar c = false := by simp [endsAddress]
  unfold addressFrom?
  rw [take_before]
  constructor
  · intro h
    split at h
    · cases h
    · next more hmore =>
      refine ⟨after.takeWhile isAddressChar, after.dropWhile isAddressChar,
        List.takeWhile_append_dropWhile.symm, ⟨hmore, fun c hc => List.mem_takeWhile_imp hc⟩,
        Text.stopsAt_dropWhile (by simp [endsAddress]) after, (Option.some.inj h).symm⟩
  · rintro ⟨more, rest, rfl, ⟨hne, hmore⟩, hrest, rfl⟩
    rw [Text.takeWhile_append hmore hends hrest]
    split
    · exact absurd rfl hne
    · rfl

/-- An opening with something behind it begins an address. -/
theorem addressFrom?_ne_none {start more rest : List Char} (h : IsAddressTail more) :
    addressFrom? (start ++ (more ++ rest)) (more ++ rest) ≠ none := by
  obtain ⟨c, more, rfl⟩ := List.exists_cons_of_ne_nil h.1
  have hc := h.2 c List.mem_cons_self
  unfold addressFrom?
  rw [List.cons_append, List.takeWhile_cons_of_pos hc]
  exact Option.some_ne_none _

end Linkify

end Folio
