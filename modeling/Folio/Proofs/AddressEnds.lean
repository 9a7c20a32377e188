import Folio.Linkify
import Mathlib.Data.List.DropRight
import Mathlib.Data.List.Induction

/-!
# Where a trimmed address ends

An address may not end with a punctuation mark, nor with a closing parenthesis if it closes more
than it opens.  Trimming goes in turns: all marks at the end go, then one closing parenthesis, and
when a turn changes nothing the end is reached.  However marks and parentheses take turns, what is
left is the longest beginning of the address that ends as it may.

Whether a character is trimmed off depends on the text in front of it alone.  So everything is
proved by induction from the right end, with one lemma for a last character (`IsLoose`).

## Main definitions

* `Linkify.trailingMarks`, `Linkify.EndsWell` — how an address may end.
* `Linkify.IsLongestEnding` — the longest beginning of a text that ends so.
* `Linkify.trimTurn`, `Linkify.TrimsTo` — one turn of trimming, and turns up to the last.
* `Linkify.TrimsLongest` — what trimming an address comes to.

## Main results

* `Linkify.IsLongestEnding.unique` — a text has one longest beginning that ends so.
* `Linkify.trimsTo_iff` — **the turns come to an end, and `trimAddress` is what they leave.**
* `Linkify.trimsLongest` — **it is the longest beginning that ends as an address may.**
-/

namespace Folio

namespace Linkify

/-! ### Ends -/

/-- The marks that no address ends with. -/
def trailingMarks : List Char := ['.', ',', ':', ';', '!', '?', '\x27', '\x22']

/-- The text ends as an address may: with no mark, and with a closing parenthesis only if it opens
at least as many as it closes. -/
structure EndsWell (cs : List Char) : Prop where
  mark : ∀ c ∈ trailingMarks, cs.getLast? ≠ some c
  parenthesis : cs.getLast? = some ')' → cs.count ')' ≤ cs.count '('

/-- The longest beginning of a text that ends as an address may. -/
structure IsLongestEnding (cs p : List Char) : Prop where
  begins : p <+: cs
  ends : EndsWell p
  longest : ∀ q, q <+: cs → EndsWell q → q.length ≤ p.length

/-- A text has one longest beginning. -/
theorem IsLongestEnding.unique {cs p q : List Char} (hp : IsLongestEnding cs p)
    (hq : IsLongestEnding cs q) : p = q := by
  have hlength : p.length = q.length :=
    Nat.le_antisymm (hq.longest p hp.begins hp.ends) (hp.longest q hq.begins hq.ends)
  exact (List.prefix_of_prefix_length_le hp.begins hq.begins hlength.le).eq_of_length hlength

theorem isTrailingMark_iff {c : Char} : isTrailingMark c = true ↔ c ∈ trailingMarks := by
  simp [isTrailingMark, trailingMarks, or_assoc]

/-- The character behind a text is trimmed off: it is a mark, or a parenthesis too many. -/
def IsLoose (cs : List Char) (c : Char) : Prop :=
  c ∈ trailingMarks ∨ c = ')' ∧ cs.count '(' ≤ cs.count ')'

theorem endsWell_nil : EndsWell [] := ⟨by simp, by simp⟩

theorem endsWell_append_singleton {cs : List Char} {c : Char} :
    EndsWell (cs ++ [c]) ↔ ¬IsLoose cs c := by
  constructor
  · rintro h (hmark | ⟨rfl, hcount⟩)
    · exact h.mark c hmark (by simp)
    · have hle := h.parenthesis (by simp)
      simp only [List.count_append, List.count_singleton_self] at hle
      have hopen : List.count '(' [')'] = 0 := by decide
      omega
  · intro h
    refine ⟨fun d hd hlast => ?_, fun hlast => ?_⟩
    · obtain rfl : c = d := by simpa using hlast
      exact h (.inl hd)
    · obtain rfl : c = ')' := by simpa using hlast
      rw [List.count_append, List.count_append, List.count_singleton_self]
      by_contra hlt
      exact h (.inr ⟨rfl, by omega⟩)

/-! ### What is left -/

theorem trimAddress_of_isLoose {cs : List Char} {c : Char} (h : IsLoose cs c) :
    trimAddress (cs ++ [c]) = trimAddress cs := by
  rw [trimAddress, List.reverse_append, List.reverse_singleton, List.singleton_append, trimReversed,
    if_pos, trimAddress]
  rw [Bool.or_eq_true, Bool.and_eq_true, beq_iff_eq, decide_eq_true_eq, isTrailingMark_iff,
    List.count_reverse, List.count_reverse]
  exact h.imp_right (And.imp_right Nat.lt_succ_of_le)

theorem trimAddress_of_not_isLoose {cs : List Char} {c : Char} (h : ¬IsLoose cs c) :
    trimAddress (cs ++ [c]) = cs ++ [c] := by
  rw [trimAddress, List.reverse_append, List.reverse_singleton, List.singleton_append, trimReversed,
    if_neg, List.reverse_cons, List.reverse_reverse]
  rw [Bool.or_eq_true, Bool.and_eq_true, beq_iff_eq, decide_eq_true_eq, isTrailingMark_iff,
    List.count_reverse, List.count_reverse]
  exact fun hc => h (hc.imp_right (And.imp_right Nat.le_of_lt_succ))

theorem trimAddress_of_endsWell {cs : List Char} (h : EndsWell cs) : trimAddress cs = cs := by
  rcases List.eq_nil_or_concat' cs with rfl | ⟨cs, c, rfl⟩
  · rfl
  · exact trimAddress_of_not_isLoose (endsWell_append_singleton.mp h)

/-- **What is left is the longest beginning that ends as an address may.** -/
theorem isLongestEnding_trimAddress (cs : List Char) : IsLongestEnding cs (trimAddress cs) := by
  induction cs using List.reverseRecOn with
  | nil => exact ⟨List.prefix_rfl, endsWell_nil, fun q hq _ => hq.length_le⟩
  | append_singleton cs c ih =>
    by_cases hc : IsLoose cs c
    · rw [trimAddress_of_isLoose hc]
      refine ⟨ih.begins.trans (List.prefix_append cs [c]), ih.ends, fun q hq hends => ?_⟩
      rcases List.prefix_concat_iff.mp hq with rfl | hq
      · exact absurd hc (endsWell_append_singleton.mp hends)
      · exact ih.longest q hq hends
    · rw [trimAddress_of_not_isLoose hc]
      exact ⟨List.prefix_rfl, endsWell_append_singleton.mpr hc, fun q hq _ => hq.length_le⟩

theorem trimAddress_eq_self_iff {cs : List Char} : trimAddress cs = cs ↔ EndsWell cs :=
  ⟨fun h => h ▸ (isLongestEnding_trimAddress cs).ends, trimAddress_of_endsWell⟩

/-- A beginning that ends as an address may stays. -/
theorem EndsWell.prefix_trimAddress {cs p : List Char} (h : EndsWell p) (hp : p <+: cs) :
    p <+: trimAddress cs :=
  List.prefix_of_prefix_length_le hp (isLongestEnding_trimAddress cs).begins
    ((isLongestEnding_trimAddress cs).longest p hp h)

/-! ### Turns -/

/-- One turn of trimming: all marks at the end go, and then one closing parenthesis, if the text
closes more than it opens. -/
def trimTurn (cs : List Char) : List Char :=
  let unmarked := cs.rdropWhile isTrailingMark
  if unmarked.getLast? = some ')' ∧ unmarked.count '(' < unmarked.count ')' then unmarked.dropLast
  else unmarked

/-- Turn follows turn, up to one that changes nothing. -/
inductive TrimsTo : (cs result : List Char) → Prop
  | stop {cs : List Char} (h : trimTurn cs = cs) : TrimsTo cs cs
  | turn {cs result : List Char} (h : trimTurn cs ≠ cs) (rest : TrimsTo (trimTurn cs) result) :
    TrimsTo cs result

theorem begins_rdropWhile_trimTurn (cs : List Char) :
    trimTurn cs <+: cs.rdropWhile isTrailingMark := by
  unfold trimTurn
  dsimp only
  split
  · exact List.dropLast_prefix _
  · exact List.prefix_rfl

theorem begins_trimTurn (cs : List Char) : trimTurn cs <+: cs :=
  (begins_rdropWhile_trimTurn cs).trans (List.rdropWhile_prefix _ _)

theorem trimAddress_rdropWhile (cs : List Char) :
    trimAddress (cs.rdropWhile isTrailingMark) = trimAddress cs := by
  induction cs using List.reverseRecOn with
  | nil => rfl
  | append_singleton cs c ih =>
    by_cases hc : isTrailingMark c = true
    · rw [List.rdropWhile_concat_pos _ _ _ hc, ih,
        trimAddress_of_isLoose (.inl (isTrailingMark_iff.mp hc))]
    · rw [List.rdropWhile_concat_neg _ _ _ hc]

/-- A turn takes nothing off that would be left. -/
theorem trimAddress_trimTurn (cs : List Char) : trimAddress (trimTurn cs) = trimAddress cs := by
  rw [← trimAddress_rdropWhile cs]
  unfold trimTurn
  generalize cs.rdropWhile isTrailingMark = unmarked
  dsimp only
  split
  · next h =>
    obtain ⟨hlast, hcount⟩ := h
    obtain ⟨front, rfl⟩ := List.getLast?_eq_some_iff.mp hlast
    have hopen : List.count '(' [')'] = 0 := by decide
    rw [List.count_append, List.count_append, List.count_singleton_self, hopen] at hcount
    rw [List.dropLast_concat, trimAddress_of_isLoose (.inr ⟨rfl, by omega⟩)]
  · rfl

/-- A turn that changes nothing has reached the end. -/
theorem endsWell_of_trimTurn {cs : List Char} (h : trimTurn cs = cs) : EndsWell cs := by
  have hunmarked : cs.rdropWhile isTrailingMark = cs := by
    have hlength := (begins_rdropWhile_trimTurn cs).length_le
    rw [h] at hlength
    exact (List.rdropWhile_prefix _ _).eq_of_length_le hlength
  rw [trimTurn, hunmarked] at h
  refine ⟨fun c hc hlast => ?_, fun hlast => ?_⟩
  · obtain ⟨front, rfl⟩ := List.getLast?_eq_some_iff.mp hlast
    have hmark := List.rdropWhile_eq_self_iff.mp hunmarked (by simp)
    rw [List.getLast_append_singleton] at hmark
    exact hmark (isTrailingMark_iff.mpr hc)
  · by_contra hlt
    rw [if_pos ⟨hlast, by omega⟩] at h
    obtain ⟨front, rfl⟩ := List.getLast?_eq_some_iff.mp hlast
    have hlength := congrArg List.length h
    simp at hlength

/-- The turns come to an end: each but the last takes something off. -/
theorem trimsTo_trimAddress (cs : List Char) : TrimsTo cs (trimAddress cs) := by
  by_cases h : trimTurn cs = cs
  · rw [trimAddress_of_endsWell (endsWell_of_trimTurn h)]
    exact .stop h
  · have hlt : (trimTurn cs).length < cs.length :=
      Nat.lt_of_le_of_ne (begins_trimTurn cs).length_le fun heq =>
        h ((begins_trimTurn cs).eq_of_length heq)
    rw [← trimAddress_trimTurn cs]
    exact .turn h (trimsTo_trimAddress (trimTurn cs))
termination_by cs.length

/-- **The turns come to an end, and `trimAddress` is what they leave.** -/
theorem trimsTo_iff {cs result : List Char} : TrimsTo cs result ↔ result = trimAddress cs := by
  constructor
  · intro h
    induction h with
    | stop h => exact (trimAddress_of_endsWell (endsWell_of_trimTurn h)).symm
    | @turn cs result _ _ ih => rw [ih, trimAddress_trimTurn]
  · rintro rfl
    exact trimsTo_trimAddress cs

/-! ### Parentheses at the end -/

/-- A text that ends with a closing parenthesis ends well if it opens as many as it closes. -/
theorem endsWell_parenthesis {cs : List Char} :
    EndsWell (cs ++ [')']) ↔ cs.count ')' < cs.count '(' := by
  rw [endsWell_append_singleton, IsLoose]
  have hmark : ')' ∉ trailingMarks := by decide
  simp [hmark]

/-- A pair of parentheses around balanced text ends an address well, unless too many are closed in
front of it. -/
theorem endsWell_group {front inside : List Char} (h : inside.count ')' = inside.count '(') :
    EndsWell (front ++ '(' :: inside ++ [')']) ↔ front.count ')' ≤ front.count '(' := by
  rw [endsWell_parenthesis, List.count_append, List.count_append, List.count_cons_self,
    List.count_cons_of_ne (by decide), h]
  omega

/-- What trimming an address comes to. -/
structure TrimsLongest (cs : List Char) : Prop where
  /-- The turns come to an end, and this is what they leave. -/
  turns : ∀ result, TrimsTo cs result ↔ result = trimAddress cs
  /-- It is the longest beginning that ends well. -/
  longest : IsLongestEnding cs (trimAddress cs)
  /-- To trim it again changes nothing. -/
  again : trimAddress (trimAddress cs) = trimAddress cs
  /-- An address that ends with a parenthesis and closes no more of them than it opens is kept. -/
  balanced : cs.getLast? = some ')' → cs.count ')' ≤ cs.count '(' → trimAddress cs = cs
  /-- A balanced group in parentheses is kept, whatever stands behind it, if no more are closed in
  front of it than are opened there. -/
  group : ∀ front inside : List Char, front ++ '(' :: inside ++ [')'] <+: cs →
    inside.count ')' = inside.count '(' → front.count ')' ≤ front.count '(' →
    front ++ '(' :: inside ++ [')'] <+: trimAddress cs
  /-- At the very end it is kept in no other case: then the address closes too many. -/
  group_iff : ∀ front inside : List Char, front ++ '(' :: inside ++ [')'] = cs →
    inside.count ')' = inside.count '(' →
    (trimAddress cs = cs ↔ front.count ')' ≤ front.count '(')

/-- **An address is trimmed to its longest beginning that ends as an address may.** -/
theorem trimsLongest (cs : List Char) : TrimsLongest cs where
  turns _ := trimsTo_iff
  longest := isLongestEnding_trimAddress cs
  again := trimAddress_of_endsWell (isLongestEnding_trimAddress cs).ends
  balanced hlast hcount := by
    refine trimAddress_of_endsWell ⟨fun c hc hmark => ?_, fun _ => hcount⟩
    obtain rfl : ')' = c := Option.some.inj (hlast.symm.trans hmark)
    exact absurd hc (by decide)
  group front inside hbegins hinside hfront :=
    EndsWell.prefix_trimAddress ((endsWell_group hinside).mpr hfront) hbegins
  group_iff front inside heq hinside := by
    rw [trimAddress_eq_self_iff, ← heq, endsWell_group hinside]

example : trimAddress "a.b/c_(d)),.".toList = "a.b/c_(d)".toList := by decide +kernel

end Linkify

end Folio
