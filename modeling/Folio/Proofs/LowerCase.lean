import Folio.Proofs.AddressOpenings

/-!
# The lower case of letters

The lower case of a letter is a letter again, and it is its own lower case: the stretches of code
points that are moved are moved to letters, and no stretch that is moved lies there.  This is read
off the table, stretch by stretch, without going through the letters one by one.

There is one exception.  The dotted capital I becomes two characters, and the second of them, the
dot, is no letter.

## Main definitions

* `Ranges.includes` — a stretch of code points lies in a set.
* `Shift.misses`, `Shift.isSettled` — what is checked of a stretch that is moved.
* `dottedCapital`, `dotAbove`, `lowerBase` — the lower case of a letter without its dot.

## Main results

* `isSettled_of_mem` — the stretches of the table are moved to letters in lower case.
* `lower_eq` — **the lower case of a letter or number is one character**, but for the dotted I.
* `isLowered_lowerBase` — **it is a letter or number, and its own lower case.**
* `lowerText_lowerText` — **the lower case of a text is its own lower case.**
-/

namespace Folio.Text

/-! ### Stretches of code points -/

/-- All code points from `lo` to `hi` lie in one of the ranges. -/
def Ranges.includes : Ranges → (lo hi : Nat) → Bool
  | [], _, _ => false
  | (a, b) :: rest, lo, hi => if lo < a then false else hi ≤ b || Ranges.includes rest lo hi

theorem Ranges.contains_of_includes {r : Ranges} {lo hi n : Nat} (h : r.includes lo hi = true)
    (hlo : lo ≤ n) (hhi : n ≤ hi) : r.contains n = true := by
  induction r with
  | nil => cases h
  | cons p rest ih =>
    obtain ⟨a, b⟩ := p
    rw [Ranges.includes] at h
    rw [Ranges.contains]
    split at h
    · cases h
    next hle =>
    rw [if_neg (by omega), Bool.or_eq_true, decide_eq_true_eq]
    rcases Bool.or_eq_true_iff.mp h with hb | hrest
    · have hb : hi ≤ b := of_decide_eq_true hb
      exact .inl (by omega)
    · exact .inr (ih hrest)

/-- The same by the recursor, with tests that the kernel evaluates in few steps. -/
def Ranges.includesRec (r : Ranges) (lo hi : Nat) : Bool :=
  r.rec false fun p _ found =>
    bif Nat.blt lo p.1 then false else bif Nat.ble hi p.2 then true else found

theorem Ranges.includesRec_eq (r : Ranges) (lo hi : Nat) :
    r.includesRec lo hi = r.includes lo hi := by
  induction r with
  | nil => rfl
  | cons p rest ih =>
    have hstep : Ranges.includesRec (p :: rest) lo hi = bif Nat.blt lo p.1 then false else
        bif Nat.ble hi p.2 then true else Ranges.includesRec rest lo hi := rfl
    rw [hstep, ih, Ranges.includes]
    by_cases hlo : lo < p.1 <;> by_cases hhi : hi ≤ p.2 <;> simp [hlo, hhi, Bool.cond_eq_ite]

/-- The code point that the first one of a stretch is moved to. -/
def Shift.low (s : Shift) : Nat := (s.first + s.delta).toNat

/-- The code point that the last one of a stretch is moved to. -/
def Shift.high (s : Shift) : Nat := (s.last + s.delta).toNat

/-- Nothing that `s` moves comes to lie where `t` moves it again.  Either the stretches lie apart,
or both have gaps, and each lies in the gaps of the other. -/
def Shift.misses (s t : Shift) : Bool :=
  s.high < t.first || t.last < s.low ||
    (t.step == 2 && (s.step == 2 || s.first == s.last) && ((s.low : Int) - t.first) % 2 == 1)

/-- It misses all of the stretches: the same by the recursor. -/
def Shift.missesRec (s : Shift) (ts : List Shift) : Bool :=
  ts.rec true fun t _ found =>
    bif Nat.blt s.high t.first then found else bif Nat.blt t.last s.low then found else
      (t.step == 2 && (s.step == 2 || s.first == s.last) &&
        ((s.low : Int) - t.first) % 2 == 1) && found

theorem Shift.missesRec_eq (s : Shift) (ts : List Shift) : s.missesRec ts = ts.all s.misses := by
  induction ts with
  | nil => rfl
  | cons t ts ih =>
    have hstep : s.missesRec (t :: ts) = bif Nat.blt s.high t.first then s.missesRec ts else
        bif Nat.blt t.last s.low then s.missesRec ts else
          (t.step == 2 && (s.step == 2 || s.first == s.last) &&
            ((s.low : Int) - t.first) % 2 == 1) && s.missesRec ts := rfl
    rw [hstep, ih, List.all_cons, Shift.misses]
    by_cases hhigh : s.high < t.first <;> by_cases hlow : t.last < s.low <;>
      simp [hhigh, hlow, Bool.cond_eq_ite]

/-- What the stretch moves comes to lie on letters, and stays there. -/
def Shift.isSettled (s : Shift) : Bool :=
  0 ≤ s.first + s.delta && (s.high < 0xD800 || (0xDFFF < s.low && s.high < 0x110000)) &&
  -- The sign for kelvin is the one letter that is moved to an ASCII letter.
  (0x80 ≤ s.low || (s.low == 0x6B && s.high == 0x6B)) && (s.high < 0x130 || 0x130 < s.low) &&
  (Ranges.letter.includes s.low s.high || Ranges.letterNumber.includes s.low s.high
    || Ranges.otherAlphabetic.includes s.low s.high) &&
  lowerShifts.all s.misses

/-- **The stretches of the table are moved to letters in lower case.**  The first of them are the
ASCII letters, of which the table is not asked. -/
theorem isSettled_of_mem {s : Shift} (h : s ∈ lowerShifts) (hlast : 0x80 ≤ s.last) :
    s.isSettled = true := by
  have of_all {p : Shift → Bool} (hp : lowerShifts.all (fun s => s.last < 0x80 || p s) = true) :
      p s = true := by
    have hs := List.all_eq_true.mp hp s h
    rw [Bool.or_eq_true, decide_eq_true_eq] at hs
    exact hs.resolve_left (by omega)
  -- The check by parts, each evaluated once.
  have hbounds := of_all (p := fun s => 0 ≤ s.first + s.delta &&
    (s.high < 0xD800 || (0xDFFF < s.low && s.high < 0x110000)) &&
    (0x80 ≤ s.low || (s.low == 0x6B && s.high == 0x6B)) && (s.high < 0x130 || 0x130 < s.low))
    (by decide +kernel)
  have hletters := of_all (p := fun s => Ranges.letter.includesRec s.low s.high ||
    Ranges.letterNumber.includesRec s.low s.high ||
    Ranges.otherAlphabetic.includesRec s.low s.high) (by decide +kernel)
  have hmisses := of_all (p := fun s => s.missesRec lowerShifts) (by decide +kernel)
  simp only [Ranges.includesRec_eq] at hletters
  rw [Shift.missesRec_eq] at hmisses
  rw [Shift.isSettled, hletters, hmisses, Bool.and_true, Bool.and_true]
  exact hbounds

/-- What is moved comes to lie between the ends of the stretch that its own is moved to. -/
theorem Shift.bounds_of_covers {s : Shift} {n : Nat} (hn : s.covers n = true) :
    s.low ≤ (n + s.delta).toNat ∧ (n + s.delta).toNat ≤ s.high := by
  simp only [Shift.covers, Bool.and_eq_true, decide_eq_true_eq] at hn
  unfold Shift.low Shift.high
  omega

/-- Nothing that is moved is moved again. -/
theorem Shift.covers_eq_false {s t : Shift} (hs : s.isSettled = true) (ht : s.misses t = true)
    {n : Nat} (hn : s.covers n = true) : t.covers (n + s.delta).toNat = false := by
  obtain ⟨hlo, hhi⟩ := Shift.bounds_of_covers hn
  have hzero : 0 ≤ s.first + s.delta := by
    simp only [Shift.isSettled, Bool.and_eq_true, decide_eq_true_eq] at hs
    exact hs.1.1.1.1.1
  rw [← Bool.not_eq_true]
  intro hcovers
  simp only [Shift.misses, Bool.or_eq_true, Bool.and_eq_true, decide_eq_true_eq, beq_iff_eq] at ht
  simp only [Shift.covers, Bool.and_eq_true, decide_eq_true_eq, beq_iff_eq] at hn hcovers
  unfold Shift.low Shift.high at *
  rcases ht with (hbefore | hbehind) | ⟨⟨htwo, hstep | hsingle⟩, hodd⟩
  · omega
  · omega
  · -- Both stretches have gaps: the distance from the first of the other is odd.
    rw [htwo] at hcovers
    rw [hstep] at hn
    omega
  · rw [htwo] at hcovers
    omega

theorem toNat_ofNat {n : Nat} (h : n < 0xD800 ∨ 0xDFFF < n ∧ n < 0x110000) :
    (Char.ofNat n).toNat = n := by
  rw [Char.ofNat, dif_pos h]
  rfl

/-! ### Lower case -/

/-- The capital I with a dot. -/
def dottedCapital : Char := Char.ofNat 0x130

/-- The dot that is put above the letter before it. -/
def dotAbove : Char := Char.ofNat 0x307

/-- The lower case of a letter as one character. -/
def lowerBase (c : Char) : Char := (lower c).headD c

/-- The character is a letter or a number, and its own lower case. -/
structure IsLowered (c : Char) : Prop where
  alphanumeric : isAlphanumeric c = true
  lower : lower c = [c]

theorem exists_lower_of_ascii {c : Char} (h : isAlphanumeric c = true) (hc : c.toNat < 0x80) :
    ∃ d, lower c = [d] ∧ IsLowered d := by
  have hall : ∀ n < 0x80, isAlphanumeric (Char.ofNat n) = true →
      isAlphanumeric (Char.ofNat n).toLower = true ∧
        lower (Char.ofNat n) = [(Char.ofNat n).toLower] ∧
        lower (Char.ofNat n).toLower = [(Char.ofNat n).toLower] := by
    decide +kernel
  have hc' := hall c.toNat hc
  rw [Char.ofNat_toNat] at hc'
  obtain ⟨halpha, hlower, hagain⟩ := hc' h
  exact ⟨c.toLower, hlower, halpha, hagain⟩

theorem isLowered_of_shift {n : Nat} {s : Shift} (hs : s ∈ lowerShifts) (hn : 0x80 ≤ n)
    (hcovers : s.covers n = true) : IsLowered (Char.ofNat (n + s.delta).toNat) := by
  have hlast : 0x80 ≤ s.last := by
    simp only [Shift.covers, Bool.and_eq_true, decide_eq_true_eq] at hcovers
    omega
  have hsettled := isSettled_of_mem hs hlast
  obtain ⟨hlo, hhi⟩ := Shift.bounds_of_covers hcovers
  have hmoved : ∀ t ∈ lowerShifts, t.covers (n + s.delta).toNat = false := fun t ht =>
    Shift.covers_eq_false hsettled
      (List.all_eq_true.mp (Bool.and_eq_true_iff.mp hsettled).2 t ht) hcovers
  simp only [Shift.isSettled, Bool.and_eq_true, Bool.or_eq_true, decide_eq_true_eq,
    beq_iff_eq] at hsettled
  obtain ⟨⟨⟨⟨⟨-, hvalid⟩, hascii⟩, hdotted⟩, hletter⟩, -⟩ := hsettled
  generalize (n + s.delta).toNat = m at hlo hhi hmoved
  have hm : (Char.ofNat m).toNat = m := toNat_ofNat (by omega)
  by_cases hk : m < 0x80
  · obtain rfl : m = 0x6B := by omega
    exact ⟨by decide, by decide⟩
  refine ⟨?_, ?_⟩
  · have halphabetic : isAlphabetic (Char.ofNat m) = true := by
      rw [isAlphabetic, hm, if_neg hk, Bool.or_eq_true, Bool.or_eq_true]
      exact hletter.imp (Or.imp (fun h => Ranges.contains_of_includes h hlo hhi)
        fun h => Ranges.contains_of_includes h hlo hhi) fun h =>
          Ranges.contains_of_includes h hlo hhi
    rw [isAlphanumeric, halphabetic, Bool.true_or]
  · have hnone : lowerShifts.find? (·.covers m) = none :=
      List.find?_eq_none.mpr fun t ht => by simp [hmoved t ht]
    rw [lower, hm, if_neg hk, if_neg (by simp only [beq_iff_eq]; omega), shiftFor?, hnone]
    rfl

/-- What the table does not move stays. -/
theorem lower_of_find?_eq_none {c : Char} (hascii : ¬c.toNat < 0x80) (hdotted : c.toNat ≠ 0x130)
    (hfind : lowerShifts.find? (·.covers c.toNat) = none) : lower c = [c] := by
  rw [lower, if_neg hascii, if_neg (by simpa using hdotted), shiftFor?, hfind]
  rfl

theorem lower_of_find?_eq_some {c : Char} {s : Shift} (hascii : ¬c.toNat < 0x80)
    (hdotted : c.toNat ≠ 0x130) (hfind : lowerShifts.find? (·.covers c.toNat) = some s) :
    lower c = [Char.ofNat (c.toNat + s.delta).toNat] := by
  rw [lower, if_neg hascii, if_neg (by simpa using hdotted), shiftFor?, hfind]
  rfl

/-- The lower case of a letter or number is one letter or number, but for the dotted I. -/
theorem exists_lower {c : Char} (h : isAlphanumeric c = true) (hc : c ≠ dottedCapital) :
    ∃ d, lower c = [d] ∧ IsLowered d := by
  by_cases hascii : c.toNat < 0x80
  · exact exists_lower_of_ascii h hascii
  have hdotted : c.toNat ≠ 0x130 := by
    intro heq
    refine hc ?_
    rw [dottedCapital, ← heq, Char.ofNat_toNat]
  cases hfind : lowerShifts.find? (·.covers c.toNat) with
  | none =>
    have hlower := lower_of_find?_eq_none hascii hdotted hfind
    exact ⟨c, hlower, h, hlower⟩
  | some s =>
    have hlower := lower_of_find?_eq_some hascii hdotted hfind
    have hcovers : s.covers c.toNat = true := by simpa using List.find?_some hfind
    exact ⟨_, hlower, isLowered_of_shift (List.mem_of_find?_eq_some hfind) (by omega) hcovers⟩

/-- **The lower case of a letter or number is one character**, but for the dotted I. -/
theorem lower_eq {c : Char} (h : isAlphanumeric c = true) :
    lower c = lowerBase c :: if c = dottedCapital then [dotAbove] else [] := by
  split
  · next hc => rw [hc]; decide
  · next hc =>
    obtain ⟨d, hd, -⟩ := exists_lower h hc
    rw [lowerBase, hd]
    rfl

/-- **It is a letter or number, and its own lower case.** -/
theorem isLowered_lowerBase {c : Char} (h : isAlphanumeric c = true) :
    IsLowered (lowerBase c) := by
  by_cases hc : c = dottedCapital
  · rw [hc]
    exact ⟨by decide, by decide⟩
  · obtain ⟨d, hd, hlowered⟩ := exists_lower h hc
    rw [lowerBase, hd]
    exact hlowered

/-! ### Texts in lower case -/

theorem lower_toLower {c : Char} (hc : c.toNat < 0x80) : lower c.toLower = [c.toLower] := by
  have hall : ∀ n < 0x80, lower (Char.ofNat n).toLower = [(Char.ofNat n).toLower] := by
    decide +kernel
  have hc' := hall c.toNat hc
  rwa [Char.ofNat_toNat] at hc'

/-- A character that a lower case consists of is its own lower case, whether it is a letter or
not. -/
theorem lower_of_mem_lower {c d : Char} (h : d ∈ lower c) : lower d = [d] := by
  by_cases hascii : c.toNat < 0x80
  · rw [lower, if_pos hascii, List.mem_singleton] at h
    rw [h, lower_toLower hascii]
  by_cases hdotted : c.toNat = 0x130
  · rw [lower, if_neg hascii, if_pos (beq_iff_eq.mpr hdotted), List.mem_pair] at h
    rcases h with rfl | rfl <;> decide
  cases hfind : lowerShifts.find? (·.covers c.toNat) with
  | none =>
    have hlower := lower_of_find?_eq_none hascii hdotted hfind
    rw [hlower, List.mem_singleton] at h
    rw [h, hlower]
  | some s =>
    have hcovers : s.covers c.toNat = true := by simpa using List.find?_some hfind
    have hlowered :=
      isLowered_of_shift (List.mem_of_find?_eq_some hfind) (Nat.le_of_not_lt hascii) hcovers
    rw [lower_of_find?_eq_some hascii hdotted hfind, List.mem_singleton] at h
    rw [h, hlowered.lower]

/-- The lower case of a text consists of characters in lower case, the final sigma among them. -/
theorem lower_of_mem_lowerAfter {cs : List Char} : ∀ {before : List Char} {d : Char},
    d ∈ lowerAfter before cs → lower d = [d] := by
  induction cs with
  | nil => exact fun h => absurd h List.not_mem_nil
  | cons c cs ih =>
    intro before d h
    rw [lowerAfter, List.mem_append] at h
    rcases h with h | h
    · split at h
      · rw [List.mem_singleton.mp h]
        decide
      · exact lower_of_mem_lower h
    · exact ih h

/-- Characters in lower case stay, wherever they stand: the capital sigma is none of them. -/
theorem lowerAfter_eq_self {cs : List Char} (h : ∀ c ∈ cs, lower c = [c]) :
    ∀ before, lowerAfter before cs = cs := by
  induction cs with
  | nil => exact fun _ => rfl
  | cons c cs ih =>
    obtain ⟨hc, hcs⟩ := List.forall_mem_cons.mp h
    intro before
    have hsigma : (c == capitalSigma) = false := by
      refine beq_false_of_ne ?_
      rintro rfl
      exact absurd hc (by decide)
    rw [lowerAfter, ih hcs, hsigma, Bool.false_and, Bool.false_and, if_neg Bool.false_ne_true, hc,
      List.singleton_append]

/-- **The lower case of a text is its own lower case.** -/
theorem lowerText_lowerText (cs : List Char) : lowerText (lowerText cs) = lowerText cs :=
  lowerAfter_eq_self (fun _ hc => lower_of_mem_lowerAfter hc) []

/-! ### Blanks -/

/-- No letter and no number is a blank. -/
theorem isBlank_of_isAlphanumeric {c : Char} (h : isAlphanumeric c = true) :
    isBlank c = false := by
  rcases Bool.or_eq_true_iff.mp h with h | h
  · unfold isAlphabetic at h
    split at h
    · next hc => exact isBlank_of_isLetter (by rw [isLetter, if_pos hc]; exact h)
    · rcases Bool.or_eq_true_iff.mp h with h | h
      · rcases Bool.or_eq_true_iff.mp h with h | h <;>
          exact Ranges.contains_eq_false (by decide +kernel) h
      · exact Ranges.contains_eq_false (by decide +kernel) h
  · exact isBlank_of_isNumber h

end Folio.Text
