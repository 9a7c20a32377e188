import Folio.Text.Character
import Folio.Text.Search
import Mathlib.Data.List.Infix
import Mathlib.Data.List.TakeWhile

/-!
# What searching and trimming leave

A text that is split at a pattern is put together again from its two parts, and the place of the
split is the first one, or the last one, at which the pattern stands.  A text that is trimmed is put
together again from the trimmed one and the blanks around it.

## Main definitions

* `Text.IsBlankText` — white space and nothing else.
* `Text.StopsAt` — what a run of characters needs behind it to end there.

## Main results

* `Text.dropStart?_eq_some_iff`, `Text.dropEnd?_eq_some_iff` — the text without one of its ends.
* `Text.occursIn_iff` — a pattern occurs in a text exactly if it is a part of it.
* `Text.splitFirst?_eq_some_iff`, `Text.splitLast?_eq_some_iff` — where a text is split.
* `Text.exists_trim` — a text is its trimmed text with blanks around it.
-/

namespace Folio.Text

variable {text before after : List Char}

/-! ### Patterns at the ends of a text -/

section Ends

variable {pattern : List Char}

theorem dropStart?_eq_some_iff :
    dropStart? pattern text = some after ↔ text = pattern ++ after := by
  induction pattern generalizing text with
  | nil => simp [dropStart?]
  | cons p ps ih =>
    cases text with
    | nil => simp [dropStart?]
    | cons c cs =>
      rw [dropStart?]
      split
      · next hp =>
        obtain rfl := beq_iff_eq.mp hp
        simp [ih]
      · next hp =>
        have hne : c ≠ p := fun h => hp (beq_iff_eq.mpr h.symm)
        simp [hne]

theorem dropStart?_eq_none_iff : dropStart? pattern text = none ↔ ¬ pattern <+: text := by
  rw [Option.eq_none_iff_forall_ne_some, List.IsPrefix, not_exists]
  refine forall_congr' fun after => not_congr ?_
  rw [dropStart?_eq_some_iff]
  exact eq_comm

theorem dropEnd?_eq_some_iff : dropEnd? pattern text = some before ↔ text = before ++ pattern := by
  constructor
  · intro h
    obtain ⟨rest, hrest, rfl⟩ := Option.map_eq_some_iff.mp h
    rw [← List.reverse_inj, dropStart?_eq_some_iff.mp hrest]
    simp
  · rintro rfl
    have hdrop : dropStart? pattern.reverse (before ++ pattern).reverse = some before.reverse :=
      dropStart?_eq_some_iff.mpr List.reverse_append
    rw [dropEnd?, hdrop]
    exact congrArg some before.reverse_reverse

end Ends

/-! ### Patterns within a text -/

section Occurrences

variable {pattern : List Char}

/-- A text that is split is put together again. -/
theorem append_of_splitFirst? (h : splitFirst? pattern text = some (before, after)) :
    before ++ pattern ++ after = text := by
  induction text generalizing before with
  | nil =>
    rw [splitFirst?] at h
    split at h
    · next hempty =>
      obtain ⟨rfl, rfl⟩ := Prod.mk.inj (Option.some.inj h)
      simpa using hempty
    · cases h
  | cons c cs ih =>
    rw [splitFirst?] at h
    split at h
    · next rest hdrop =>
      obtain ⟨rfl, rfl⟩ := Prod.mk.inj (Option.some.inj h)
      exact (dropStart?_eq_some_iff.mp hdrop).symm
    · obtain ⟨⟨before', after'⟩, hsplit, heq⟩ := Option.map_eq_some_iff.mp h
      obtain ⟨rfl, rfl⟩ := Prod.mk.inj heq
      simpa using ih hsplit

theorem splitFirst?_eq_none_iff : splitFirst? pattern text = none ↔ ¬ pattern <:+: text := by
  induction text with
  | nil => simp [splitFirst?]
  | cons c cs ih =>
    rw [splitFirst?, List.infix_cons_iff, not_or, ← dropStart?_eq_none_iff, ← ih]
    cases dropStart? pattern (c :: cs) <;> simp

theorem splitLast?_eq_none_iff : splitLast? pattern text = none ↔ ¬ pattern <:+: text := by
  induction text with
  | nil => simp [splitLast?]
  | cons c cs ih =>
    rw [splitLast?, List.infix_cons_iff, not_or, ← dropStart?_eq_none_iff, ← ih]
    cases splitLast? pattern cs <;> simp

/-- **A pattern occurs in a text exactly if it is a part of it.** -/
theorem occursIn_iff : occursIn pattern text = true ↔ pattern <:+: text := by
  rw [occursIn, Option.isSome_iff_ne_none, ne_eq, splitFirst?_eq_none_iff, not_not]

theorem splitFirst?_of_occursIn_false {c : Char} (h : occursIn pattern (c :: text) = false) :
    dropStart? pattern (c :: text) = none ∧ occursIn pattern text = false := by
  rw [← Bool.not_eq_true, occursIn_iff, List.infix_cons_iff, not_or] at h
  exact ⟨dropStart?_eq_none_iff.mpr h.1,
    Bool.eq_false_iff.mpr fun hocc => h.2 (occursIn_iff.mp hocc)⟩

/-- Whether a pattern stands before a place is seen without its last character. -/
theorem prefix_dropLast_iff (c : Char) (before after : List Char) :
    pattern <+: c :: (before ++ pattern.dropLast) ↔
      pattern <+: c :: (before ++ (pattern ++ after)) := by
  have hshorter : c :: (before ++ pattern.dropLast) <+: c :: (before ++ (pattern ++ after)) :=
    (List.prefix_append_right_inj (c :: before)).mpr
      ((List.dropLast_prefix pattern).trans (List.prefix_append pattern after))
  refine ⟨fun h => h.trans hshorter, fun h => List.prefix_of_prefix_length_le h hshorter ?_⟩
  rw [List.length_cons, List.length_append, List.length_dropLast]
  omega

/-- **A text is split at the first place at which a pattern stands**: it does not stand further to
the front, not even with a part of it behind that place. -/
theorem splitFirst?_eq_some_iff (hne : pattern ≠ []) :
    splitFirst? pattern text = some (before, after) ↔
      text = before ++ (pattern ++ after) ∧ ¬ pattern <:+: before ++ pattern.dropLast := by
  induction text generalizing before with
  | nil => simp [splitFirst?, hne]
  | cons c cs ih =>
    rw [splitFirst?]
    cases before with
    | nil =>
      have hfree : ¬ pattern <:+: [] ++ pattern.dropLast := by
        intro h
        have hle := h.length_le
        have hpos := List.length_pos_iff.mpr hne
        rw [List.nil_append, List.length_dropLast] at hle
        omega
      rw [List.nil_append, ← dropStart?_eq_some_iff, and_iff_left hfree]
      cases dropStart? pattern (c :: cs) <;> simp
    | cons d before =>
      rw [List.cons_append, List.cons_append, List.infix_cons_iff,
        prefix_dropLast_iff d before after]
      constructor
      · intro h
        split at h
        · cases h
        · next hdrop =>
          obtain ⟨⟨before', after'⟩, hsplit, heq⟩ := Option.map_eq_some_iff.mp h
          obtain ⟨hcons, rfl⟩ := Prod.mk.inj heq
          obtain ⟨rfl, rfl⟩ := List.cons.inj hcons
          obtain ⟨rfl, hfree⟩ := ih.mp hsplit
          exact ⟨rfl, not_or.mpr ⟨dropStart?_eq_none_iff.mp hdrop, hfree⟩⟩
      · rintro ⟨hcs, hfree⟩
        obtain ⟨rfl, rfl⟩ := List.cons.inj hcs
        obtain ⟨hstart, hfree⟩ := not_or.mp hfree
        rw [dropStart?_eq_none_iff.mpr hstart, ih.mpr ⟨rfl, hfree⟩]
        rfl

/-- **A text is split at the last place at which a pattern stands**: it does not stand further to
the back, not even with a part of it before that place. -/
theorem splitLast?_eq_some_iff (hne : pattern ≠ []) :
    splitLast? pattern text = some (before, after) ↔
      text = before ++ (pattern ++ after) ∧ ¬ pattern <:+: pattern.tail ++ after := by
  induction text generalizing before with
  | nil => simp [splitLast?, hne]
  | cons c cs ih =>
    rw [splitLast?]
    cases before with
    | nil =>
      -- The pattern stands at the beginning, and what is behind its first character is split first.
      have htail : c :: cs = pattern ++ after → cs = pattern.tail ++ after := by
        obtain ⟨p, ps, rfl⟩ := List.exists_cons_of_ne_nil hne
        exact fun h => (List.cons.inj h).2
      rw [List.nil_append]
      constructor
      · intro h
        split at h
        · cases h
        · next hlast =>
          obtain ⟨after', hdrop, heq⟩ := Option.map_eq_some_iff.mp h
          obtain ⟨-, rfl⟩ := Prod.mk.inj heq
          have hcs := dropStart?_eq_some_iff.mp hdrop
          refine ⟨hcs, ?_⟩
          rw [← htail hcs]
          exact splitLast?_eq_none_iff.mp hlast
      · rintro ⟨hcs, hfree⟩
        rw [← htail hcs] at hfree
        rw [splitLast?_eq_none_iff.mpr hfree, dropStart?_eq_some_iff.mpr hcs]
        rfl
    | cons d before =>
      constructor
      · intro h
        split at h
        · next before' after' hlast =>
          obtain ⟨hcons, rfl⟩ := Prod.mk.inj (Option.some.inj h)
          obtain ⟨rfl, rfl⟩ := List.cons.inj hcons
          obtain ⟨rfl, hfree⟩ := ih.mp hlast
          exact ⟨rfl, hfree⟩
        · obtain ⟨after', -, heq⟩ := Option.map_eq_some_iff.mp h
          cases heq
      · rintro ⟨hcs, hfree⟩
        obtain ⟨rfl, rfl⟩ := List.cons.inj hcs
        rw [ih.mpr ⟨rfl, hfree⟩]

end Occurrences

/-! ### Characters -/

/-- **A text is split at the first place at which a character stands.** -/
theorem splitFirst?_singleton_eq_some_iff {mark : Char} :
    splitFirst? [mark] text = some (before, after) ↔
      text = before ++ mark :: after ∧ ∀ c ∈ before, c ≠ mark := by
  rw [splitFirst?_eq_some_iff (List.cons_ne_nil mark []), List.dropLast_singleton, List.append_nil,
    List.singleton_infix_iff, List.singleton_append]
  exact and_congr_right fun _ => ⟨fun h c hc heq => h (heq ▸ hc), fun h hmark => h mark hmark rfl⟩

theorem splitFirst?_append {mark : Char} (after : List Char) (h : ∀ c ∈ before, c ≠ mark) :
    splitFirst? [mark] (before ++ mark :: after) = some (before, after) :=
  splitFirst?_singleton_eq_some_iff.mpr ⟨rfl, h⟩

/-! ### Runs of characters -/

/-- The text ends, or it goes on with a character at which a run of others stops. -/
def StopsAt (stop : Char → Bool) (rest : List Char) : Prop := ∀ c ∈ rest.head?, stop c = true

section Runs

variable {p stop : Char → Bool} {run rest : List Char}

theorem stopsAt_nil (stop : Char → Bool) : StopsAt stop [] := by
  intro c hc
  cases hc

theorem stopsAt_cons {c : Char} : StopsAt stop (c :: rest) ↔ stop c = true := by
  simp [StopsAt]

theorem stopsAt_dropWhile (hstop : ∀ c, p c = false → stop c = true) (cs : List Char) :
    StopsAt stop (cs.dropWhile p) := by
  intro c hc
  have hnot := List.head?_dropWhile_not p cs
  rw [Option.mem_def.mp hc] at hnot
  exact hstop c hnot

/-- A run of characters is taken up to where it stops. -/
theorem takeWhile_append (h : ∀ c ∈ run, p c = true) (hstop : ∀ c, stop c = true → p c = false)
    (hrest : StopsAt stop rest) : (run ++ rest).takeWhile p = run := by
  rw [List.takeWhile_append_of_pos h]
  cases rest with
  | nil => simp
  | cons c cs => simp [hstop c (stopsAt_cons.mp hrest)]

theorem dropWhile_append (h : ∀ c ∈ run, p c = true) (hstop : ∀ c, stop c = true → p c = false)
    (hrest : StopsAt stop rest) : (run ++ rest).dropWhile p = rest := by
  rw [List.dropWhile_append_of_pos h]
  cases rest with
  | nil => rfl
  | cons c cs => simp [hstop c (stopsAt_cons.mp hrest)]

end Runs

/-! ### Trimming -/

/-- White space and nothing else. -/
def IsBlankText (cs : List Char) : Prop := ∀ c ∈ cs, isBlank c = true

theorem isBlankText_nil : IsBlankText [] := List.forall_mem_nil _

theorem IsBlankText.reverse {cs : List Char} (h : IsBlankText cs) : IsBlankText cs.reverse :=
  fun c hc => h c (List.mem_reverse.mp hc)

theorem exists_trimStart (cs : List Char) : ∃ lead, cs = lead ++ trimStart cs ∧ IsBlankText lead :=
  ⟨cs.takeWhile isBlank, List.takeWhile_append_dropWhile.symm,
    fun _ hc => List.mem_takeWhile_imp hc⟩

theorem exists_trimEnd (cs : List Char) :
    ∃ trail, cs = trimEnd cs ++ trail ∧ IsBlankText trail := by
  obtain ⟨lead, hlead, hblank⟩ := exists_trimStart cs.reverse
  refine ⟨lead.reverse, ?_, hblank.reverse⟩
  rw [trimEnd, ← List.reverse_append, ← trimStart, ← hlead, List.reverse_reverse]

/-- **A text is its trimmed text with blanks around it.** -/
theorem exists_trim (cs : List Char) : ∃ lead trail, cs = lead ++ (trim cs ++ trail) ∧
    IsBlankText lead ∧ IsBlankText trail := by
  obtain ⟨lead, hlead, hblank⟩ := exists_trimStart cs
  obtain ⟨trail, htrail, hblank'⟩ := exists_trimEnd (trimStart cs)
  exact ⟨lead, trail, by rw [trim, ← htrail, ← hlead], hblank, hblank'⟩

theorem trimEnd_eq_nil_iff {cs : List Char} : trimEnd cs = [] ↔ IsBlankText cs := by
  rw [trimEnd, List.reverse_eq_nil_iff, List.dropWhile_eq_nil_iff, IsBlankText]
  simp

theorem subset_trim (cs : List Char) : trim cs ⊆ cs := by
  obtain ⟨lead, trail, hcs, -, -⟩ := exists_trim cs
  intro c hc
  rw [hcs]
  exact List.mem_append_right _ (List.mem_append_left _ hc)

theorem trimStart_cons {c : Char} (hc : isBlank c = false) (cs : List Char) :
    trimStart (c :: cs) = c :: cs := by
  simp [trimStart, hc]

theorem trimStart_cons_of_isBlank {c : Char} (hc : isBlank c = true) (cs : List Char) :
    trimStart (c :: cs) = trimStart cs := by
  simp [trimStart, hc]

/-- White space behind a text without white space is trimmed. -/
theorem trim_append {cs gap : List Char} (hcs : ∀ c ∈ cs, isBlank c = false)
    (hgap : IsBlankText gap) : trim (cs ++ gap) = cs := by
  have hstop : StopsAt (fun c => !isBlank c) cs.reverse := by
    intro c hc
    simp [hcs c (List.mem_reverse.mp (List.mem_of_mem_head? hc))]
  have hend : trimEnd (cs ++ gap) = cs := by
    rw [trimEnd, List.reverse_append, dropWhile_append hgap.reverse (by simp) hstop,
      List.reverse_reverse]
  cases cs with
  | nil =>
    have hnil : trimStart gap = [] := List.dropWhile_eq_nil_iff.mpr hgap
    rw [List.nil_append, trim, hnil]
    rfl
  | cons c cs =>
    rw [trim, List.cons_append, trimStart_cons (hcs c List.mem_cons_self), ← List.cons_append, hend]

end Folio.Text
