import Folio.Proofs.AttributeReading

/-!
# Which blocks are taken off a text

A block is taken off a text together with all that stands between its delimiters, and of that only
the items are kept.  A strict reader would ask that nothing but items and blanks stands there.  The
reader of blocks is lenient: it passes over what it does not know, and a block is accepted as soon
as one item is found in it.  So words stay in the text if there is no mark and no equals sign among
them, and are lost if there is one that makes an item.

How the strict and the lenient reader differ is said by the division of the text between the
delimiters: the strict one accepts it exactly if it has no stray character.

## Main definitions

* `IsItemText` — nothing but items and blanks, as the strict reader asks.
* `Delimiters.Accepts` — what stands between the delimiters makes a block.
* `Delimiters.EndsWith`, `Delimiters.BeginsWith` — a block stands at one of the ends of a text.
* `StripsBlocks` — what is taken off a text, and what is lost with it.

## Main results

* `isItemText_iff` — **a text is one of items and blanks exactly if nothing in it is passed over.**
* `Delimiters.block?_eq_some_iff` — the blocks that are accepted.
* `Delimiters.stripTrailing?_eq_some_iff`, `Delimiters.stripLeading?_eq_some_iff` — the blocks that
  are taken off.
* `stripsBlocks` — **what is taken off a text is a block with its delimiters and blanks, and of the
  block all but its stray characters is kept.**
* `strips_words` — words between delimiters are lost with an item.
-/

namespace Folio

/-! ### Items and blanks -/

/-- The text of a block with nothing but items and blanks in it.  Every item goes on as far as it
can. -/
inductive IsItemText : List Char → Prop
  | nil : IsItemText []
  | blank {c : Char} {rest : List Char} (hc : Text.isBlank c = true) (hrest : IsItemText rest) :
      IsItemText (c :: rest)
  | item {i : AttributeItem} {source rest : List Char} (hitem : i.Begins source rest)
      (hrest : IsItemText rest) : IsItemText (source ++ rest)

section ItemText

variable {cs : List Char} {ps : List Part}

theorem IsItemText.exists_isDivided (h : IsItemText cs) :
    ∃ ps, IsDivided cs ps ∧ ∀ c, Part.stray c ∉ ps := by
  induction h with
  | nil => exact ⟨[], .nil, fun _ => List.not_mem_nil⟩
  | blank hc _ ih =>
    obtain ⟨ps, hps, hstray⟩ := ih
    exact ⟨_, .blank hc hps, fun c => List.not_mem_cons_of_ne_of_not_mem nofun (hstray c)⟩
  | item hitem _ ih =>
    obtain ⟨ps, hps, hstray⟩ := ih
    exact ⟨_, .item hitem hps, fun c => List.not_mem_cons_of_ne_of_not_mem nofun (hstray c)⟩

/-- **A text is one of items and blanks exactly if nothing in it is passed over.** -/
theorem isItemText_iff (h : IsDivided cs ps) : IsItemText cs ↔ ∀ c, Part.stray c ∉ ps := by
  constructor
  · intro htext
    obtain ⟨qs, hqs, hstray⟩ := htext.exists_isDivided
    rwa [h.unique hqs]
  · induction h with
    | nil => exact fun _ => .nil
    | blank hc _ ih => exact fun hstray => .blank hc (ih fun c hc => hstray c (.tail _ hc))
    | item hitem _ ih => exact fun hstray => .item hitem (ih fun c hc => hstray c (.tail _ hc))
    | stray => exact fun hstray => absurd List.mem_cons_self (hstray _)

/-- At a character that is not blank an item begins. -/
theorem IsItemText.isSome_read? {c : Char} (h : IsItemText (c :: cs))
    (hc : Text.isBlank c = false) :
    (AttributeItem.read? c cs).1.isSome = true := by
  generalize htext : c :: cs = text at h
  cases h with
  | nil => cases htext
  | blank hblank =>
    obtain ⟨rfl, -⟩ := List.cons.inj htext
    rw [hc] at hblank
    cases hblank
  | item hitem =>
    rw [(read?_of_begins hitem htext).2]
    rfl

end ItemText

/-! ### Marks -/

/-- A character without which there is no item. -/
def isMark (c : Char) : Bool := c == '#' || c == '.' || c == '='

theorem AttributeItem.IsWritten.exists_mark {i : AttributeItem} {source : List Char}
    {stop : Char → Bool} (h : i.IsWritten source stop) : ∃ c ∈ source, isMark c = true := by
  cases h with
  | id | className => exact ⟨_, List.mem_cons_self, rfl⟩
  | pair => exact ⟨'=', by simp, rfl⟩

theorem IsDivided.exists_mark {cs : List Char} {ps : List Part} (h : IsDivided cs ps)
    (hne : itemsOf ps ≠ []) : ∃ c ∈ cs, isMark c = true := by
  induction h with
  | nil => exact absurd rfl hne
  | blank _ _ ih | stray _ _ _ ih =>
    obtain ⟨c, hc, hmark⟩ := ih hne
    exact ⟨c, .tail _ hc, hmark⟩
  | item hitem =>
    obtain ⟨stop, hwritten, -⟩ := hitem
    obtain ⟨c, hc, hmark⟩ := hwritten.exists_mark
    exact ⟨c, List.mem_append_left _ hc, hmark⟩

/-! ### What is accepted between two delimiters -/

namespace Delimiters

variable {d : Delimiters}

/-- What stands between the delimiters makes a block: it has no delimiter and at least one item in
it. -/
structure Accepts (d : Delimiters) (inner : List Char) (block : AttributeBlock) : Prop where
  left_free : ¬ d.left.toList <:+: inner
  right_free : ¬ d.right.toList <:+: inner
  items : ∃ ps, IsDivided inner ps ∧ itemsOf ps ≠ [] ∧
    block = AttributeBlock.ofItems (itemsOf ps)

/-- **The blocks that are accepted.** -/
theorem block?_eq_some_iff {inner : List Char} {block : AttributeBlock} :
    d.block? inner = some block ↔ d.Accepts inner block := by
  -- The parts of the text decide, for there is one way only to divide it.
  obtain ⟨ps, hps⟩ := exists_isDivided inner
  have hempty := (AttributeBlock.sorts_ofItems (itemsOf ps)).isEmpty_iff
  unfold block?
  rw [AttributeBlock.parseChars_eq hps]
  constructor
  · intro h
    split at h
    · cases h
    · next hfree =>
      simp only [Bool.or_eq_true, Text.occursIn_iff, not_or] at hfree
      dsimp only at h
      split at h
      · cases h
      · next hne =>
        exact ⟨hfree.1, hfree.2, ps, hps, fun hnil => hne (hempty.mpr hnil),
          (Option.some.inj h).symm⟩
  · rintro ⟨hleft, hright, qs, hqs, hne, rfl⟩
    obtain rfl := hps.unique hqs
    rw [if_neg (by simp [Text.occursIn_iff, hleft, hright])]
    exact if_neg fun h => hne (hempty.mp h)

/-- A block stands at the end of a text, but for blanks behind it.  Its left delimiter is the last
one: none stands further to the back, not even with a part of the left delimiter. -/
structure EndsWith (d : Delimiters) (text before inner : List Char) (block : AttributeBlock) :
    Prop where
  text_eq : Text.trimEnd text = before ++ (d.left.toList ++ (inner ++ d.right.toList))
  last : ¬ d.left.toList <:+: d.left.toList.tail ++ inner
  accepts : d.Accepts inner block

/-- A block stands at the beginning of a text.  Its right delimiter is the first one: none stands
further to the front, not even with a part of the right delimiter. -/
structure BeginsWith (d : Delimiters) (text inner rest : List Char) (block : AttributeBlock) :
    Prop where
  text_eq : text = d.left.toList ++ (inner ++ (d.right.toList ++ rest))
  first : ¬ d.right.toList <:+: inner ++ d.right.toList.dropLast
  accepts : d.Accepts inner block

theorem Accepts.left_ne_nil {inner : List Char} {block : AttributeBlock}
    (h : d.Accepts inner block) : d.left.toList ≠ [] :=
  fun hnil => h.left_free (hnil ▸ List.nil_infix)

theorem Accepts.right_ne_nil {inner : List Char} {block : AttributeBlock}
    (h : d.Accepts inner block) : d.right.toList ≠ [] :=
  fun hnil => h.right_free (hnil ▸ List.nil_infix)

/-- **A block is taken off the end of a text exactly if one stands there**, with the blanks in front
of it. -/
theorem stripTrailing?_eq_some_iff {text before : String} {block : AttributeBlock} :
    d.stripTrailing? text = some (before, block) ↔
      ∃ front inner, d.EndsWith text.toList front inner block ∧
        before = String.ofList (Text.trimEnd front) := by
  unfold stripTrailing?
  constructor
  · intro h
    obtain ⟨body, hbody, h⟩ := Option.bind_eq_some_iff.mp h
    obtain ⟨⟨front, inner⟩, hsplit, h⟩ := Option.bind_eq_some_iff.mp h
    obtain ⟨block', hblock, h⟩ := Option.bind_eq_some_iff.mp h
    obtain ⟨rfl, rfl⟩ := Prod.mk.inj (Option.some.inj h)
    have haccepts := block?_eq_some_iff.mp hblock
    obtain ⟨rfl, hlast⟩ := (Text.splitLast?_eq_some_iff haccepts.left_ne_nil).mp hsplit
    have htext := Text.dropEnd?_eq_some_iff.mp hbody
    exact ⟨front, inner, ⟨by simpa using htext, hlast, haccepts⟩, rfl⟩
  · rintro ⟨front, inner, ⟨htext, hlast, haccepts⟩, rfl⟩
    have hbody : Text.dropEnd? d.right.toList (Text.trimEnd text.toList) =
        some (front ++ (d.left.toList ++ inner)) :=
      Text.dropEnd?_eq_some_iff.mpr (by simpa using htext)
    have hsplit : Text.splitLast? d.left.toList (front ++ (d.left.toList ++ inner)) =
        some (front, inner) :=
      (Text.splitLast?_eq_some_iff haccepts.left_ne_nil).mpr ⟨rfl, hlast⟩
    have hblock := block?_eq_some_iff.mpr haccepts
    exact Option.bind_eq_some_iff.mpr ⟨_, hbody, Option.bind_eq_some_iff.mpr
      ⟨_, hsplit, Option.bind_eq_some_iff.mpr ⟨block, hblock, rfl⟩⟩⟩

/-- **A block is taken off the beginning of a text exactly if one stands there.** -/
theorem stripLeading?_eq_some_iff {text rest : String} {block : AttributeBlock} :
    d.stripLeading? text = some (block, rest) ↔
      ∃ inner, d.BeginsWith text.toList inner rest.toList block := by
  unfold stripLeading?
  constructor
  · intro h
    obtain ⟨body, hbody, h⟩ := Option.bind_eq_some_iff.mp h
    obtain ⟨⟨inner, after⟩, hsplit, h⟩ := Option.bind_eq_some_iff.mp h
    obtain ⟨block', hblock, h⟩ := Option.bind_eq_some_iff.mp h
    obtain ⟨rfl, rfl⟩ := Prod.mk.inj (Option.some.inj h)
    have haccepts := block?_eq_some_iff.mp hblock
    obtain ⟨rfl, hfirst⟩ := (Text.splitFirst?_eq_some_iff haccepts.right_ne_nil).mp hsplit
    rw [String.toList_ofList]
    exact ⟨inner, Text.dropStart?_eq_some_iff.mp hbody, hfirst, haccepts⟩
  · rintro ⟨inner, htext, hfirst, haccepts⟩
    have hbody := Text.dropStart?_eq_some_iff.mpr htext
    have hsplit : Text.splitFirst? d.right.toList (inner ++ (d.right.toList ++ rest.toList)) =
        some (inner, rest.toList) :=
      (Text.splitFirst?_eq_some_iff haccepts.right_ne_nil).mpr ⟨rfl, hfirst⟩
    have hblock := block?_eq_some_iff.mpr haccepts
    have hrest : some (block, String.ofList rest.toList) = some (block, rest) := by
      rw [String.ofList_toList]
    exact Option.bind_eq_some_iff.mpr ⟨_, hbody, Option.bind_eq_some_iff.mpr
      ⟨_, hsplit, Option.bind_eq_some_iff.mpr ⟨block, hblock, hrest⟩⟩⟩

end Delimiters

/-! ### What is lost -/

/-- What is taken off a text, and what is lost with it. -/
structure StripsBlocks (d : Delimiters) (text : String) : Prop where
  trailing : ∀ before block, d.stripTrailing? text = some (before, block) ↔
    ∃ front inner, d.EndsWith text.toList front inner block ∧
      before = String.ofList (Text.trimEnd front)
  leading : ∀ block rest, d.stripLeading? text = some (block, rest) ↔
    ∃ inner, d.BeginsWith text.toList inner rest.toList block
  /-- Words without any mark stay in the text. -/
  marked : ∀ inner block, d.Accepts inner block → ∃ c ∈ inner, isMark c = true
  /-- The strict reader accepts a text too exactly if no character of it is passed over. -/
  strict : ∀ inner ps, IsDivided inner ps → (IsItemText inner ↔ ∀ c, Part.stray c ∉ ps)

/-- **What is taken off a text is a block with its delimiters and the blanks around it, and of the
block all but its stray characters is kept.** -/
theorem stripsBlocks (d : Delimiters) (text : String) : StripsBlocks d text where
  trailing _ _ := Delimiters.stripTrailing?_eq_some_iff
  leading _ _ := Delimiters.stripLeading?_eq_some_iff
  marked inner block h := by
    obtain ⟨ps, hps, hne, -⟩ := h.items
    exact hps.exists_mark hne
  strict _ _ := isItemText_iff

/-- **Words between delimiters are lost with an item**, at either end of a text. -/
theorem strips_words :
    ({} : Delimiters).stripTrailing? "see \x7bonly if n=1\x7d" =
      some ("see", { pairs := [("n", "1")] }) ∧
    ({} : Delimiters).stripLeading? "\x7bonly if n=1\x7d see" =
      some ({ pairs := [("n", "1")] }, " see") ∧
    ¬ IsItemText "only if n=1".toList := by
  refine ⟨by decide +kernel, by decide +kernel, fun h => ?_⟩
  have hread : (AttributeItem.read? 'o' "nly if n=1".toList).1.isSome = true :=
    IsItemText.isSome_read? h (by decide)
  revert hread
  decide

end Folio
