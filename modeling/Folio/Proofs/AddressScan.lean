import Folio.Proofs.AddressCuts
import Folio.Proofs.AddressTrim

/-!
# The search for addresses

A text is searched from left to right: where an address is found the search goes on behind it, and
else behind one character.  What is found does not depend on the top-level domains that are known,
so one search stands for all of them; only which of the addresses become links depends on them
(`assemble`).

A search of a part of the text finds what the search of the whole text found there.  What stood
behind the part may be cut off in front of an address that is found, since an address that goes on
across the cut would have been found as a whole.  Closers may be put in front of the part if it
stands directly behind an address: they begin no address, and no address begins directly behind
another one, whatever is in front of it.

## Main definitions

* `Linkify.Find`, `Linkify.textOf` — what the search finds, and the text of it.
* `Linkify.Scans` — the search finds this, in front of some text.
* `Linkify.assemble` — the parts of a text from what is found in it.

## Main results

* `Linkify.exists_scans` — **the search finds its way through every text, and the parts of the text
  are assembled from what it finds.**
* `Linkify.Scans.cut` — **the text can be cut in front of an address that is found.**
* `Linkify.Scans.closers_append` — **closers can be put in front of what stands behind an address.**
-/

namespace Folio

namespace Linkify

open Text (isWordChar)

/-! ### One step of the search -/

/-- The address that is found at the beginning of a text, behind the character `previous`. -/
def foundAt? (previous : Option Char) : List Char → Option Address
  | [] => none
  | c :: cs =>
    if (previous.map isWordChar).getD false != isWordChar c then addressAt? (c :: cs) else none

theorem foundAt?_of_addressAt?_eq_none {cs : List Char} (h : addressAt? cs = none)
    (previous : Option Char) : foundAt? previous cs = none := by
  cases cs with
  | nil => rfl
  | cons c cs =>
    rw [foundAt?, h]
    split <;> rfl

theorem addressAt?_of_foundAt? {previous : Option Char} {cs : List Char} {a : Address}
    (h : foundAt? previous cs = some a) : addressAt? cs = some a := by
  cases cs with
  | nil => cases h
  | cons c cs =>
    rw [foundAt?] at h
    split at h
    · exact h
    · cases h

/-- No address begins directly behind one that is found. -/
theorem addressAt?_behind {previous : Option Char} {a : Address} {rest : List Char}
    (h : foundAt? previous (a.chars ++ rest) = some a) : addressAt? rest = none := by
  obtain ⟨rest', heq, hfits⟩ := addressAt?_eq_some_iff.mp (addressAt?_of_foundAt? h)
  rw [List.append_cancel_left heq]
  exact hfits.addressAt?_rest

/-- In front of an address that is found a text is cut. -/
theorem isCut_of_foundAt? {w cs : List Char} {previous : Option Char} {a : Address}
    (h : foundAt? (w.getLast?.or previous) cs = some a) : IsCut w cs := by
  refine ⟨by rw [addressAt?_of_foundAt? h]; exact Option.some_ne_none a, ?_⟩
  intro c hc d hd
  cases cs with
  | nil => cases hd
  | cons e cs =>
    obtain rfl : e = d := by simpa using hd
    rw [foundAt?, Option.mem_def.mp hc] at h
    split at h
    · next hboundary => simpa using hboundary
    · cases h

/-- **An address is found across the cut, or what is found does not depend on what is behind
it.** -/
theorem IsCut.foundAt?_append {w cs : List Char} (h : IsCut w cs) (hw : w ≠ [])
    (previous : Option Char) : Crosses w (foundAt? previous (w ++ cs)) ∨
      foundAt? previous (w ++ cs) = foundAt? previous w := by
  obtain ⟨c, w, rfl⟩ := List.exists_cons_of_ne_nil hw
  rw [List.cons_append, foundAt?, foundAt?]
  split
  · exact h.addressAt?_append hw
  · exact .inr rfl

/-! ### The search -/

/-- What one step of the search finds. -/
inductive Find where
  | char (c : Char)
  | address (a : Address)

/-- The characters of what is found. -/
def Find.chars : Find → List Char
  | .char c => [c]
  | .address a => a.chars

/-- The address that is found. -/
def Find.address? : Find → Option Address
  | .char _ => none
  | .address a => some a

/-- The text of what is found. -/
def textOf (fs : List Find) : List Char := fs.flatMap Find.chars

@[simp] theorem textOf_nil : textOf [] = [] := rfl

@[simp] theorem textOf_cons (f : Find) (fs : List Find) :
    textOf (f :: fs) = f.chars ++ textOf fs := rfl

@[simp] theorem textOf_append (fs gs : List Find) : textOf (fs ++ gs) = textOf fs ++ textOf gs :=
  List.flatMap_append

theorem textOf_chars (cs : List Char) : textOf (cs.map .char) = cs := by
  induction cs with
  | nil => rfl
  | cons c cs ih => rw [List.map_cons, textOf_cons, ih]; rfl

/-- Behind the character `previous` the search finds this, if `rest` follows it. -/
def Scans : (previous : Option Char) → List Find → (rest : List Char) → Prop
  | _, [], _ => True
  | previous, f :: fs, rest =>
    foundAt? previous (f.chars ++ (textOf fs ++ rest)) = f.address? ∧
      Scans f.chars.getLast? fs rest

variable {previous : Option Char} {f : Find} {fs gs : List Find} {rest : List Char}

/-- What is found has characters. -/
theorem Find.chars_ne_nil {cs : List Char} (h : foundAt? previous cs = f.address?) :
    f.chars ≠ [] := by
  cases f with
  | char c => exact List.cons_ne_nil c []
  | address a =>
    obtain ⟨rest, -, hfits⟩ := addressAt?_eq_some_iff.mp (addressAt?_of_foundAt? h)
    obtain ⟨c, cs, heq, -⟩ := hfits.exists_cons
    rw [Find.chars, heq]
    exact List.cons_ne_nil c cs

/-- The character before what follows is one of `f`, or it stands behind it. -/
theorem getLast?_textOf_cons (hf : f.chars ≠ []) (fs : List Find) (previous : Option Char) :
    (textOf (f :: fs)).getLast?.or previous = (textOf fs).getLast?.or f.chars.getLast? := by
  obtain ⟨cs, c, hlast⟩ := (List.eq_nil_or_concat' f.chars).resolve_left hf
  rw [textOf_cons, List.getLast?_append, Option.or_assoc, hlast, List.getLast?_concat,
    Option.some_or]

theorem scans_append : Scans previous (fs ++ gs) rest ↔
    Scans previous fs (textOf gs ++ rest) ∧
      Scans ((textOf fs).getLast?.or previous) gs rest := by
  induction fs generalizing previous with
  | nil => simp [Scans]
  | cons f fs ih =>
    rw [List.cons_append, Scans, Scans, ih, textOf_append, List.append_assoc, and_assoc]
    refine and_congr_right fun hfound => and_congr_right fun _ => ?_
    rw [getLast?_textOf_cons (Find.chars_ne_nil hfound)]

/-- **The search finds its way through every text.** -/
theorem exists_scans (cs : List Char) :
    ∀ previous, ∃ fs, textOf fs = cs ∧ Scans previous fs [] := by
  -- What follows an address is shorter.
  induction hn : cs.length using Nat.strongRecOn generalizing cs with
  | ind n ih =>
    intro previous
    cases cs with
    | nil => exact ⟨[], rfl, trivial⟩
    | cons c cs =>
      cases hfound : foundAt? previous (c :: cs) with
      | none =>
        obtain ⟨fs, rfl, hscans⟩ := ih cs.length (by simp [← hn]) cs rfl (some c)
        refine ⟨.char c :: fs, rfl, ?_, hscans⟩
        rw [List.append_nil]
        exact hfound
      | some a =>
        obtain ⟨rest, heq, -⟩ := addressAt?_eq_some_iff.mp (addressAt?_of_foundAt? hfound)
        have hpos := List.length_pos_iff.mpr (Find.chars_ne_nil (f := .address a) hfound)
        rw [heq, List.length_append] at hn
        rw [Find.chars] at hpos
        obtain ⟨fs, rfl, hscans⟩ := ih rest.length (by omega) rest rfl a.chars.getLast?
        refine ⟨.address a :: fs, heq.symm, ?_, hscans⟩
        rw [List.append_nil, Find.chars, ← heq]
        exact hfound

/-- **The text can be cut in front of an address that is found.** -/
theorem Scans.cut {a : Address} (h : Scans previous fs rest)
    (hfound : foundAt? ((textOf fs).getLast?.or previous) rest = some a) :
    Scans previous fs [] := by
  induction fs generalizing previous with
  | nil => trivial
  | cons f fs ih =>
    obtain ⟨hf, hfs⟩ := h
    have hne := Find.chars_ne_nil hf
    have hcut : IsCut (f.chars ++ textOf fs) rest := isCut_of_foundAt? hfound
    refine ⟨?_, ih hfs ?_⟩
    · rw [List.append_nil, ← hf, ← List.append_assoc]
      rcases hcut.foundAt?_append (List.append_ne_nil_of_left_ne_nil hne _) previous with
        ⟨b, hb, hlt⟩ | hsame
      · -- The address that is found would be shorter than itself.
        rw [List.append_assoc, hf] at hb
        cases f with
        | char c => cases hb
        | address b' =>
          obtain rfl := Option.some.inj hb
          rw [Find.chars, List.length_append] at hlt
          omega
      · exact hsame.symm
    · rwa [← getLast?_textOf_cons hne]

/-- **Closers can be put in front of what stands behind an address.** -/
theorem Scans.closers_append {off : List Char} (h : Scans previous fs rest)
    (hnone : addressAt? (textOf fs ++ rest) = none) (hoff : ∀ c ∈ off, isCloser c = true)
    (before : Option Char) : Scans before (off.map .char ++ fs) rest := by
  induction off generalizing before with
  | nil =>
    cases fs with
    | nil => trivial
    | cons f fs =>
      obtain ⟨hf, hfs⟩ := h
      rw [textOf_cons, List.append_assoc] at hnone
      rw [foundAt?_of_addressAt?_eq_none hnone] at hf
      exact ⟨by rw [foundAt?_of_addressAt?_eq_none hnone]; exact hf, hfs⟩
  | cons c off ih =>
    obtain ⟨hc, hoff⟩ := List.forall_mem_cons.mp hoff
    have hbegin := addressAt?_of_not_isLabelEnd (isLabelEnd_of_isCloser hc)
    exact ⟨foundAt?_of_addressAt?_eq_none (hbegin _) before, ih hoff (some c)⟩

/-! ### The parts of a text -/

/-- The closers that are trimmed off an address. -/
def trimmedOff (cs : List Char) : List Char := cs.drop (trimAddress cs).length

theorem trimAddress_append_trimmedOff (cs : List Char) : trimAddress cs ++ trimmedOff cs = cs := by
  obtain ⟨off, heq, -⟩ := exists_trimAddress cs
  exact (List.prefix_iff_eq_append.mp ⟨off, heq.symm⟩)

theorem isCloser_of_mem_trimmedOff (cs : List Char) :
    ∀ c ∈ trimmedOff cs, isCloser c = true := by
  obtain ⟨off, heq, hoff⟩ := exists_trimAddress cs
  have hsame : trimmedOff cs = off :=
    List.append_cancel_left ((trimAddress_append_trimmedOff cs).trans heq)
  rwa [hsame]

/-- The parts of a text from what is found in it; `pending` holds the plain characters before it in
reverse. -/
def assemble (l : Linkify) : (pending : List Char) → List Find → List Segment
  | pending, [] => plainBefore pending []
  | pending, .char c :: fs => l.assemble (c :: pending) fs
  | pending, .address a :: fs =>
    if l.accepts a then
      plainBefore pending
        (.link (trimAddress a.chars) :: l.assemble (trimmedOff a.chars).reverse fs)
    else l.assemble (a.chars.reverse ++ pending) fs

section Steps

variable (l : Linkify) (fuel : Nat) (pending : List Char)

theorem segmentsFrom_of_none {c : Char} {cs : List Char}
    (h : foundAt? previous (c :: cs) = none) :
    l.segmentsFrom (fuel + 1) previous pending (c :: cs)
      = l.segmentsFrom fuel (some c) (c :: pending) cs := by
  rw [foundAt?] at h
  rw [segmentsFrom]
  dsimp only
  rw [h]

/-- The guard against an empty link lets every address pass. -/
theorem segmentsFrom_of_some {a : Address} {cs : List Char}
    (h : foundAt? previous (a.chars ++ cs) = some a) :
    l.segmentsFrom (fuel + 1) previous pending (a.chars ++ cs) =
      if l.accepts a then
        plainBefore pending (.link (trimAddress a.chars) ::
          l.segmentsFrom fuel a.chars.getLast? (trimmedOff a.chars).reverse cs)
      else l.segmentsFrom fuel a.chars.getLast? (a.chars.reverse ++ pending) cs := by
  obtain ⟨rest, -, hfits⟩ := addressAt?_eq_some_iff.mp (addressAt?_of_foundAt? h)
  have hguard : (trimAddress a.chars).isEmpty = false := by
    simpa using hfits.trimAddress_ne_nil
  obtain ⟨c, chars, heq, -⟩ := hfits.exists_cons
  obtain ⟨text, htext⟩ : ∃ text, a.chars ++ cs = c :: text := ⟨chars ++ cs, by rw [heq]; rfl⟩
  have hdrop : (c :: text).drop a.chars.length = cs := by rw [← htext, List.drop_left]
  rw [htext] at h ⊢
  rw [foundAt?] at h
  rw [segmentsFrom]
  dsimp only
  rw [h]
  dsimp only
  rw [hdrop, hguard, Bool.not_false, Bool.and_true]
  rfl

/-- **The parts of a text are assembled from what is found in it.** -/
theorem segmentsFrom_textOf (h : Scans previous fs []) (hfuel : (textOf fs).length ≤ fuel) :
    l.segmentsFrom fuel previous pending (textOf fs) = l.assemble pending fs := by
  induction fs generalizing fuel previous pending with
  | nil => cases fuel <;> rfl
  | cons f fs ih =>
    obtain ⟨hf, hfs⟩ := h
    rw [List.append_nil] at hf
    have hpos := List.length_pos_iff.mpr (Find.chars_ne_nil hf)
    rw [textOf_cons, List.length_append] at hfuel
    obtain ⟨fuel, rfl⟩ : ∃ n, fuel = n + 1 := ⟨fuel - 1, by omega⟩
    have ih := fun pending => ih fuel pending hfs (by omega)
    rw [textOf_cons]
    cases f with
    | char c =>
      rw [assemble, ← ih]
      exact l.segmentsFrom_of_none fuel pending hf
    | address a =>
      rw [assemble, ← ih, ← ih]
      exact l.segmentsFrom_of_some fuel pending hf

theorem segments_textOf (h : Scans none fs []) : l.segments (textOf fs) = l.assemble [] fs :=
  l.segmentsFrom_textOf _ _ h (Nat.le_refl _)

end Steps

end Linkify

end Folio
