import Folio.Config.Basic
import Folio.Proofs.StrippedBlocks

/-!
# A block that is found from both sides

A block at the beginning of a text is looked for from its left delimiter on to the first right one,
and a block at the end of a text from its right delimiter back to the last left one.  Where a text
is a block and nothing else, both searches should find it, and that no delimiter stands within the
block is not enough for that: a delimiter of several characters can also stand across the border of
the block, partly in it and partly in the delimiter there.  In `{{#a}}}` the one search leaves the
last brace over, and the other one takes the first brace behind the `a` for a part of the id.

A delimiter can stand across a border only if it ends as it begins.  If it does not, as if it is of
one character, the searches agree on every block.  But the search from the end trims the text first,
so it finds no block at all if the right delimiter ends with a blank.

## Main definitions

* `Text.IsUnbordered` — no beginning of a text is its end too, but for the whole text.
* `Delimiters.enclose` — a text between two delimiters.
* `Delimiters.OpensOnce`, `Delimiters.ClosesOnce` — no delimiter stands across a border of a block.
* `Delimiters.EndsVisibly` — the right delimiter does not end with a blank.
* `ScansMeet` — what both searches find of a text between two delimiters, and when it is the same.

## Main results

* `Text.isUnbordered_iff` — **a delimiter that does not end as it begins stands across no border.**
* `Delimiters.stripLeading?_enclose_iff`, `Delimiters.stripTrailing?_enclose_iff` — what the two
  searches find of a text between two delimiters.
* `scansMeet` — **both searches find the same block if each delimiter stands at its own place only
  and the right one does not end with a blank**, and exactly which ones they find otherwise.
* `scans_differ` — in `{{#a}}}` they find different blocks.
-/

namespace Folio

/-! ### Borders -/

namespace Text

variable {pattern text front : List Char}

/-- No beginning of the text is its end too, but for the text itself. -/
def IsUnbordered (pattern : List Char) : Prop :=
  ∀ part, part ≠ [] → part <+: pattern → part <:+ pattern → part = pattern

/-- A text whose first character does not come again does not end as it begins. -/
theorem isUnbordered_cons {c : Char} {rest : List Char} (h : c ∉ rest) :
    IsUnbordered (c :: rest) := by
  intro part hne hprefix hsuffix
  rcases List.suffix_cons_iff.mp hsuffix with heq | hsuffix
  · exact heq
  · obtain ⟨more, rfl, -⟩ := (List.prefix_cons_iff.mp hprefix).resolve_left hne
    exact absurd (hsuffix.subset List.mem_cons_self) h

theorem IsUnbordered.reverse (h : IsUnbordered pattern) : IsUnbordered pattern.reverse := by
  intro part hne hprefix hsuffix
  rw [← List.reverse_inj, List.reverse_reverse]
  refine h part.reverse (by simpa using hne) ?_ ?_
  · simpa using List.reverse_prefix.mpr hsuffix
  · simpa using List.reverse_suffix.mpr hprefix

/-- A pattern that stands across the end of a text, and not within it, ends as it begins. -/
theorem infix_append_dropLast_iff (hfree : ¬ pattern <:+: text) :
    pattern <:+: text ++ pattern.dropLast ↔ ∃ start stop, start ≠ [] ∧ stop ≠ [] ∧
      pattern = start ++ stop ∧ start <:+ text ∧ stop <+: pattern := by
  have hne : pattern ≠ [] := fun hnil => hfree (hnil ▸ List.nil_infix)
  have hpos := List.length_pos_iff.mpr hne
  rw [List.infix_append_iff_ne_nil, or_iff_right hfree, or_iff_right fun h => ?_]
  · constructor
    · rintro ⟨start, stop, hstart, hstop, hpattern, hsuffix, hprefix⟩
      exact ⟨start, stop, hstart, hstop, hpattern, hsuffix,
        hprefix.trans (List.dropLast_prefix pattern)⟩
    · rintro ⟨start, stop, hstart, hstop, hpattern, hsuffix, hprefix⟩
      refine ⟨start, stop, hstart, hstop, hpattern, hsuffix,
        List.prefix_of_prefix_length_le hprefix (List.dropLast_prefix pattern) ?_⟩
      have hlength := congrArg List.length hpattern
      have hpos := List.length_pos_iff.mpr hstart
      rw [List.length_append] at hlength
      rw [List.length_dropLast]
      omega
  · have hle := h.length_le
    rw [List.length_dropLast] at hle
    omega

/-- **A delimiter that does not end as it begins stands across no border.** -/
theorem isUnbordered_iff : IsUnbordered pattern ↔
    ∀ text, ¬ pattern <:+: text → ¬ pattern <:+: text ++ pattern.dropLast := by
  constructor
  · intro h text hfree hfound
    obtain ⟨start, stop, hstart, hstop, hpattern, -, hprefix⟩ :=
      (infix_append_dropLast_iff hfree).mp hfound
    have hstop := h stop hstop hprefix ⟨start, hpattern.symm⟩
    exact hstart (List.append_left_eq_self.mp (hpattern.symm.trans hstop.symm))
  · rintro h stop hstop hprefix ⟨start, hpattern⟩
    -- The rest of the pattern is a text in which it does not stand.
    rcases eq_or_ne start [] with rfl | hstart
    · exact hpattern
    · have hlength := congrArg List.length hpattern
      have hpos := List.length_pos_iff.mpr hstop
      rw [List.length_append] at hlength
      have hfree : ¬ pattern <:+: start := fun hfound => by
        have hle := hfound.length_le
        omega
      exact absurd ((infix_append_dropLast_iff hfree).mpr
        ⟨start, stop, hstart, hstop, hpattern.symm, List.suffix_rfl, hprefix⟩) (h start hfree)

/-- The border at the beginning is the one at the end, read backwards. -/
theorem IsUnbordered.not_infix_tail_append (h : IsUnbordered pattern)
    (hfree : ¬ pattern <:+: text) : ¬ pattern <:+: pattern.tail ++ text := by
  rw [← List.reverse_infix, List.reverse_append, ← List.dropLast_reverse]
  exact isUnbordered_iff.mp h.reverse _ fun hfound => hfree (List.reverse_infix.mp hfound)

/-! ### White space around a pattern -/

/-- A pattern that stands at the beginning of white space and itself is white space. -/
theorem isBlankText_of_prefix_append (hne : front ≠ []) (hfront : IsBlankText front)
    (h : pattern <+: front ++ pattern) : IsBlankText pattern := by
  -- The pattern begins with the white space, and what is behind it is shorter.
  induction hn : pattern.length using Nat.strongRecOn generalizing pattern with
  | ind n ih =>
    have hor := List.prefix_or_prefix_of_prefix h (List.prefix_append front pattern)
    rcases hor with hle | ⟨rest, rfl⟩
    · exact fun c hc => hfront c (hle.subset hc)
    · have hpos := List.length_pos_iff.mpr hne
      have hrest := (List.prefix_append_right_inj front).mp h
      rw [List.length_append] at hn
      exact List.forall_mem_append.mpr ⟨hfront, ih rest.length (by omega) hrest rfl⟩

/-- What stands behind two places of a pattern in a text, with white space alone before the second
one, differs in white space. -/
theorem exists_blank_front {after : List Char} (hfront : IsBlankText front)
    (h : pattern ++ text = front ++ (pattern ++ after)) : ∃ gap, IsBlankText gap ∧
      text = gap ++ after ∧ (front = [] ∧ gap = [] ∨ IsBlankText pattern) := by
  have hprefix : pattern <+: front ++ pattern := by
    refine List.prefix_of_prefix_length_le (List.prefix_append pattern text) ⟨after, ?_⟩ ?_
    · rw [h, List.append_assoc]
    · rw [List.length_append]
      exact Nat.le_add_left _ _
  obtain ⟨gap, hgap⟩ := hprefix
  have htext : text = gap ++ after := by
    rw [← List.append_assoc, ← hgap, List.append_assoc] at h
    exact List.append_cancel_left h
  rcases eq_or_ne front [] with rfl | hne
  · obtain rfl : gap = [] := by simpa using hgap
    exact ⟨[], isBlankText_nil, htext, .inl ⟨rfl, rfl⟩⟩
  · have hblank := isBlankText_of_prefix_append hne hfront ⟨gap, hgap⟩
    refine ⟨gap, fun c hc => ?_, htext, .inr hblank⟩
    have hc := hgap ▸ List.mem_append_right pattern hc
    exact (List.mem_append.mp hc).elim (hfront c) (hblank c)

/-- A trimmed text does not end with a blank. -/
theorem isBlank_getLast?_trimEnd (text : List Char) :
    ∀ c ∈ (trimEnd text).getLast?, isBlank c = false := by
  intro c hc
  rw [trimEnd, List.getLast?_reverse] at hc
  have hstop := List.head?_dropWhile_not isBlank text.reverse
  rwa [Option.mem_def.mp hc] at hstop

/-- A text that ends with a character that is not blank is not trimmed at its end. -/
theorem trimEnd_append (hne : pattern ≠ []) (hlast : ∀ c ∈ pattern.getLast?, isBlank c = false)
    (text : List Char) : trimEnd (text ++ pattern) = text ++ pattern := by
  have hpattern := List.dropLast_concat_getLast hne
  have hstop := hlast _ (List.getLast?_eq_some_getLast hne)
  rw [← hpattern, ← List.append_assoc, trimEnd, List.reverse_concat,
    List.dropWhile_cons_of_neg (by simpa using hstop), ← List.reverse_concat, List.reverse_reverse]

end Text

/-! ### A text between two delimiters -/

namespace Delimiters

variable {d : Delimiters} {inner : String} {block : AttributeBlock}

/-- The text between the two delimiters. -/
def enclose (d : Delimiters) (inner : String) : String := d.left ++ inner ++ d.right

theorem toList_enclose (d : Delimiters) (inner : String) :
    (d.enclose inner).toList = d.left.toList ++ (inner.toList ++ d.right.toList) := by
  rw [enclose, String.toList_append, String.toList_append, List.append_assoc]

/-- The left delimiter does not stand across the beginning of the text behind it. -/
def OpensOnce (d : Delimiters) (inner : String) : Prop :=
  ¬ d.left.toList <:+: d.left.toList.tail ++ inner.toList

/-- The right delimiter does not stand across the end of the text before it. -/
def ClosesOnce (d : Delimiters) (inner : String) : Prop :=
  ¬ d.right.toList <:+: inner.toList ++ d.right.toList.dropLast

/-- The right delimiter does not end with a blank.  With others no block is found at the end of a
text, for the blanks there are trimmed first. -/
def EndsVisibly (d : Delimiters) : Prop :=
  ∀ c ∈ d.right.toList.getLast?, Text.isBlank c = false

/-- A text in which no delimiter stands makes a block if it has an item in it. -/
theorem accepts_iff (hleft : ¬ d.left.toList <:+: inner.toList)
    (hright : ¬ d.right.toList <:+: inner.toList) : d.Accepts inner.toList block ↔
      AttributeBlock.parse inner = block ∧ block.isEmpty = false := by
  have hfree : ¬ (Text.occursIn d.left.toList inner.toList
      || Text.occursIn d.right.toList inner.toList) = true := by
    simp [Text.occursIn_iff, hleft, hright]
  rw [← block?_eq_some_iff, block?, if_neg hfree, AttributeBlock.parse]
  dsimp only
  split
  · next hempty =>
    refine iff_of_false (Option.some_ne_none block).symm ?_
    rintro ⟨rfl, hne⟩
    rw [hempty] at hne
    cases hne
  · next hne =>
    rw [Option.some.injEq]
    exact ⟨fun h => ⟨h, by rwa [← h, ← Bool.not_eq_true]⟩, fun h => h.1⟩

/-- **A text between two delimiters is found to be a block at its beginning** exactly if it makes
one and the right delimiter does not stand further to the front. -/
theorem stripLeading?_enclose_iff : d.stripLeading? (d.enclose inner) = some (block, "") ↔
    d.Accepts inner.toList block ∧ d.ClosesOnce inner := by
  rw [stripLeading?_eq_some_iff]
  constructor
  · rintro ⟨inner', htext, hfirst, haccepts⟩
    rw [toList_enclose] at htext
    obtain rfl : inner.toList = inner' := by simpa using htext
    exact ⟨haccepts, hfirst⟩
  · rintro ⟨haccepts, hfirst⟩
    exact ⟨inner.toList, by simp [toList_enclose], hfirst, haccepts⟩

/-- White space in front of a block makes no difference to it. -/
theorem Accepts.append_left {text front : List Char} (h : d.Accepts text block)
    (hfront : Text.IsBlankText front) (hleft : ¬ d.left.toList <:+: front ++ text)
    (hright : ¬ d.right.toList <:+: front ++ text) : d.Accepts (front ++ text) block := by
  obtain ⟨ps, hps, hne, hblock⟩ := h.items
  refine ⟨hleft, hright, _, hps.prepend hfront, ?_, ?_⟩ <;>
    rwa [itemsOf_append, itemsOf_map_blank, List.nil_append]

theorem Accepts.of_append_left {text front : List Char} (h : d.Accepts (front ++ text) block)
    (hfront : Text.IsBlankText front) : d.Accepts text block := by
  obtain ⟨qs, hqs, hne, hblock⟩ := h.items
  obtain ⟨ps, hps⟩ := exists_isDivided text
  obtain rfl := hqs.unique (hps.prepend hfront)
  rw [itemsOf_append, itemsOf_map_blank, List.nil_append] at hne hblock
  exact ⟨fun hfound => h.left_free (List.infix_append_of_infix_right hfound),
    fun hfound => h.right_free (List.infix_append_of_infix_right hfound), ps, hps, hne, hblock⟩

/-- What has a block at its end ends with the right delimiter when it is trimmed. -/
theorem EndsWith.endsVisibly {text front inner : List Char}
    (h : d.EndsWith text front inner block) : d.EndsVisibly := by
  intro c hc
  refine Text.isBlank_getLast?_trimEnd text c ?_
  rw [h.text_eq, ← List.append_assoc, ← List.append_assoc,
    List.getLast?_append_of_ne_nil _ h.accepts.right_ne_nil]
  exact hc

/-- **A text between two delimiters is found to be a block at its end** exactly if it makes one, the
left delimiter does not stand further to the back, or is white space, and the right one does not end
with a blank.  White space in front of a block is trimmed, also if it is a part of the delimiter. -/
theorem stripTrailing?_enclose_iff (hleft : ¬ d.left.toList <:+: inner.toList)
    (hright : ¬ d.right.toList <:+: inner.toList) :
    d.stripTrailing? (d.enclose inner) = some ("", block) ↔ d.Accepts inner.toList block ∧
      (d.OpensOnce inner ∨ Text.IsBlankText d.left.toList) ∧ d.EndsVisibly := by
  have hne : d.right.toList ≠ [] := fun hnil => hright (hnil ▸ List.nil_infix)
  have htrim : d.EndsVisibly → Text.trimEnd (d.enclose inner).toList
      = d.left.toList ++ inner.toList ++ d.right.toList := fun hvisible => by
    rw [toList_enclose, ← List.append_assoc, Text.trimEnd_append hne hvisible]
  rw [stripTrailing?_eq_some_iff]
  constructor
  · rintro ⟨front, inner', hends, hempty⟩
    have hvisible := hends.endsVisibly
    obtain ⟨htext, hopens, haccepts⟩ := hends
    have hfront : Text.IsBlankText front :=
      Text.trimEnd_eq_nil_iff.mp (String.ofList_eq_empty_iff.mp hempty.symm)
    have hsplit : d.left.toList ++ inner.toList = front ++ (d.left.toList ++ inner') := by
      rw [htrim hvisible] at htext
      simpa [← List.append_assoc] using htext
    obtain ⟨gap, hgap, hinner, hcases⟩ := Text.exists_blank_front hfront hsplit
    refine ⟨?_, hcases.imp ?_ id, hvisible⟩
    · rw [hinner] at hleft hright ⊢
      exact haccepts.append_left hgap hleft hright
    · rintro ⟨-, rfl⟩
      rwa [OpensOnce, hinner]
  · rintro ⟨haccepts, hopens | hblank, hvisible⟩
    · exact ⟨[], inner.toList, ⟨by simpa using htrim hvisible, hopens, haccepts⟩, rfl⟩
    · -- The last left delimiter stands there with white space alone in front of it.
      have hsome : Text.splitLast? d.left.toList (d.left.toList ++ inner.toList) ≠ none :=
        fun hnone => Text.splitLast?_eq_none_iff.mp hnone (List.prefix_append _ _).isInfix
      obtain ⟨⟨front, inner'⟩, hsplit⟩ := Option.ne_none_iff_exists'.mp hsome
      obtain ⟨hsplit, hopens⟩ := (Text.splitLast?_eq_some_iff haccepts.left_ne_nil).mp hsplit
      have hfront : Text.IsBlankText front := by
        rcases List.append_eq_append_iff.mp hsplit with ⟨more, hmore, hinner⟩ | ⟨more, hmore, -⟩
        · exact absurd ⟨more, inner', by rw [hinner, List.append_assoc]⟩ hleft
        · exact fun c hc => hblank c (hmore ▸ List.mem_append_left more hc)
      obtain ⟨gap, hgap, hinner, -⟩ := Text.exists_blank_front hfront hsplit
      refine ⟨front, inner', ⟨?_, hopens, ?_⟩, ?_⟩
      · rw [htrim hvisible, hsplit]
        simp
      · rw [hinner] at haccepts
        exact haccepts.of_append_left hgap
      · rw [Text.trimEnd_eq_nil_iff.mpr hfront]

end Delimiters

/-! ### Both searches -/

/-- What both searches find of a text between two delimiters, and when it is the same. -/
structure ScansMeet (d : Delimiters) (inner : String) : Prop where
  accepts : ∀ block, d.Accepts inner.toList block ↔
    AttributeBlock.parse inner = block ∧ block.isEmpty = false
  leading : ∀ block, d.stripLeading? (d.enclose inner) = some (block, "") ↔
    d.Accepts inner.toList block ∧ d.ClosesOnce inner
  trailing : ∀ block, d.stripTrailing? (d.enclose inner) = some ("", block) ↔
    d.Accepts inner.toList block ∧
      (d.OpensOnce inner ∨ Text.IsBlankText d.left.toList) ∧ d.EndsVisibly
  /-- The searches differ exactly on a block that only one of them finds whole. -/
  agree_iff : (∀ block, d.stripLeading? (d.enclose inner) = some (block, "") ↔
      d.stripTrailing? (d.enclose inner) = some ("", block)) ↔
    ((AttributeBlock.parse inner).isEmpty = false →
      (d.ClosesOnce inner ↔
        (d.OpensOnce inner ∨ Text.IsBlankText d.left.toList) ∧ d.EndsVisibly))
  /-- The searches agree if no delimiter ends as it begins, and the right one not with a blank. -/
  unbordered : d.EndsVisibly → Text.IsUnbordered d.left.toList → Text.IsUnbordered d.right.toList →
    ∀ block, d.stripLeading? (d.enclose inner) = some (block, "") ↔
      d.stripTrailing? (d.enclose inner) = some ("", block)

/-- **Both searches find the same block if each delimiter stands at its own place only and the right
one does not end with a blank.** -/
theorem scansMeet {d : Delimiters} {inner : String} (hleft : ¬ d.left.toList <:+: inner.toList)
    (hright : ¬ d.right.toList <:+: inner.toList) : ScansMeet d inner := by
  refine ⟨fun _ => Delimiters.accepts_iff hleft hright,
    fun _ => Delimiters.stripLeading?_enclose_iff,
    fun _ => Delimiters.stripTrailing?_enclose_iff hleft hright, ?_,
    fun hvisible hopens hcloses block => ?_⟩
  · simp only [Delimiters.stripLeading?_enclose_iff,
      Delimiters.stripTrailing?_enclose_iff hleft hright, and_congr_right_iff,
      Delimiters.accepts_iff hleft hright]
    exact ⟨fun h hne => h _ ⟨rfl, hne⟩, fun h block hblock => h (hblock.1 ▸ hblock.2)⟩
  · rw [Delimiters.stripLeading?_enclose_iff,
      Delimiters.stripTrailing?_enclose_iff hleft hright]
    refine and_congr_right fun _ => iff_of_true ?_ ⟨.inl ?_, hvisible⟩
    · exact Text.isUnbordered_iff.mp hcloses _ hright
    · exact hopens.not_infix_tail_append hleft

/-- With delimiters of two different characters both searches find the same blocks. -/
theorem scansMeet_colons :
    let d : Delimiters := { left := "\x7b:", right := ":\x7d" }
    ¬ d.left.toList <:+: "#a .b".toList ∧ ¬ d.right.toList <:+: "#a .b".toList ∧
      ScansMeet d "#a .b" ∧ ∀ block, d.stripLeading? (d.enclose "#a .b") = some (block, "") ↔
        d.stripTrailing? (d.enclose "#a .b") = some ("", block) := by
  have hleft : ¬ "\x7b:".toList <:+: "#a .b".toList := by decide
  have hright : ¬ ":\x7d".toList <:+: "#a .b".toList := by decide
  have hmeet := scansMeet (d := { left := "\x7b:", right := ":\x7d" }) hleft hright
  have hopens : Text.IsUnbordered ['\x7b', ':'] := Text.isUnbordered_cons (by decide)
  have hcloses : Text.IsUnbordered [':', '\x7d'] := Text.isUnbordered_cons (by decide)
  have hvisible : ({ left := "\x7b:", right := ":\x7d" } : Delimiters).EndsVisibly := by
    intro c hc
    obtain rfl : '\x7d' = c := by simpa using hc
    decide
  exact ⟨hleft, hright, hmeet, hmeet.unbordered hvisible hopens hcloses⟩

/-- **Of three braces the one search takes the first two and the other one the last two.** -/
theorem scans_differ : ¬ ∀ (d : Delimiters) (inner : String), checkDelimiters d = .ok () →
    ¬ d.left.toList <:+: inner.toList → ¬ d.right.toList <:+: inner.toList →
    ∀ block, d.stripLeading? (d.left ++ inner ++ d.right) = some (block, "") ↔
      d.stripTrailing? (d.left ++ inner ++ d.right) = some ("", block) := by
  intro h
  have hsame := h { left := "\x7b\x7b", right := "\x7d\x7d" } "#a\x7d" (by decide) (by decide)
    (by decide) { id := some "a\x7d" }
  have htrailing : ({ left := "\x7b\x7b", right := "\x7d\x7d" } : Delimiters).stripTrailing?
      ("\x7b\x7b" ++ "#a\x7d" ++ "\x7d\x7d") = some ("", { id := some "a\x7d" }) := by
    decide +kernel
  have hleading : ({ left := "\x7b\x7b", right := "\x7d\x7d" } : Delimiters).stripLeading?
      ("\x7b\x7b" ++ "#a\x7d" ++ "\x7d\x7d") = some ({ id := some "a" }, "\x7d") := by
    decide +kernel
  have hboth := hleading.symm.trans (hsame.mpr htrailing)
  revert hboth
  decide

end Folio
