import Folio.Proofs.AttributeGrammar

/-!
# What is read of an attribute block

The text of a block falls into blanks, items and stray characters: what is not blank and does not
begin an item is passed over, one character at a time.  Since an item can be read in one way only,
so can the text, and the block is made of the items of that one division.

A block is read in rounds, each of which takes at least one character off the text.  So it is read
after as many rounds as it has characters at the latest, and a bound on the rounds that is at least
as large makes no difference.

Items with blanks between them are such a division, whatever they are and in whatever order: a blank
ends every item, and within quotes an equals sign or a mark begins none.

## Main definitions

* `Part`, `IsDivided` — the parts of a text, and the division of a text into parts.
* `AttributeItem.round`, `Rounds` — one round of reading, and reading until nothing is left.
* `AreSeparated`, `IsBlockSource` — items with blanks between and around them.
* `AttributeBlock.Sorts` — a block has the items of a list, sorted by their kinds.

## Main results

* `IsDivided.unique`, `exists_isDivided` — **every text has one division.**
* `AttributeBlock.parseChars_eq` — **a block has the items of the division of its text.**
* `exists_rounds`, `readAll_of_rounds` — reading ends, and the bound on its rounds does not matter.
* `readsItems_parse` — **items with blanks between and around them are read as they are written,
  and of every text the reading ends.**
-/

namespace Folio

open AttributeItem (readAll read?)
open Text (IsBlankText StopsAt)

/-! ### The parts of a text -/

/-- A part of the text of a block. -/
inductive Part where
  /-- White space. -/
  | blank (c : Char)
  /-- An item, as it is written. -/
  | item (item : AttributeItem) (source : List Char)
  /-- A character that is passed over. -/
  | stray (c : Char)

/-- The item that a part is. -/
def Part.item? : Part → Option AttributeItem
  | .item i _ => some i
  | .blank _ | .stray _ => none

/-- The items among the parts of a text. -/
def itemsOf (ps : List Part) : List AttributeItem := ps.filterMap Part.item?

/-- The division of a text into its parts, from its beginning on. -/
inductive IsDivided : List Char → List Part → Prop
  | nil : IsDivided [] []
  | blank {c : Char} {rest : List Char} {ps : List Part} (hc : Text.isBlank c = true)
      (hrest : IsDivided rest ps) : IsDivided (c :: rest) (.blank c :: ps)
  | item {i : AttributeItem} {source rest : List Char} {ps : List Part}
      (hitem : i.Begins source rest) (hrest : IsDivided rest ps) :
      IsDivided (source ++ rest) (.item i source :: ps)
  | stray {c : Char} {rest : List Char} {ps : List Part} (hc : Text.isBlank c = false)
      (hnone : ∀ (i : AttributeItem) source after, c :: rest = source ++ after →
        ¬ i.Begins source after)
      (hrest : IsDivided rest ps) : IsDivided (c :: rest) (.stray c :: ps)

@[simp] theorem itemsOf_blank (c : Char) (ps : List Part) :
    itemsOf (.blank c :: ps) = itemsOf ps := rfl

@[simp] theorem itemsOf_item (i : AttributeItem) (source : List Char) (ps : List Part) :
    itemsOf (.item i source :: ps) = i :: itemsOf ps := rfl

@[simp] theorem itemsOf_append (ps qs : List Part) :
    itemsOf (ps ++ qs) = itemsOf ps ++ itemsOf qs := List.filterMap_append

@[simp] theorem itemsOf_map_blank (cs : List Char) : itemsOf (cs.map Part.blank) = [] := by
  induction cs with
  | nil => rfl
  | cons c cs ih => rwa [List.map_cons, itemsOf_blank]

section Division

variable {c : Char} {cs rest source : List Char} {i : AttributeItem} {ps qs : List Part}

theorem AttributeItem.Begins.exists_cons (h : i.Begins source rest) :
    ∃ c cs, source = c :: cs ∧ Text.isBlank c = false := by
  obtain ⟨stop, hwritten, -⟩ := h
  exact hwritten.exists_cons

/-- An item that stands at the beginning of a text is what is read there. -/
theorem read?_of_begins (h : i.Begins source rest) (hcs : c :: cs = source ++ rest) :
    Text.isBlank c = false ∧ read? c cs = (some i, rest) := by
  obtain ⟨stop, hwritten, hstop⟩ := h
  obtain ⟨d, ds, rfl, hd⟩ := hwritten.exists_cons
  obtain ⟨rfl, -⟩ := List.cons.inj hcs
  exact ⟨hd, (AttributeItem.read?_eq_some_iff hd).mpr ⟨_, hcs, stop, hwritten, hstop⟩⟩

/-- At a stray character nothing is read. -/
theorem read?_eq_none_iff (hc : Text.isBlank c = false) : read? c cs = (none, cs) ↔
    ∀ (i : AttributeItem) source after, c :: cs = source ++ after → ¬ i.Begins source after := by
  constructor
  · intro hread i source after hcs hbegins
    rw [(read?_of_begins hbegins hcs).2] at hread
    cases hread
  · intro hnone
    refine AttributeItem.read?_none (Option.eq_none_iff_forall_ne_some.mpr fun i hfound => ?_)
    obtain ⟨source, hcs, hbegins⟩ := (AttributeItem.read?_eq_some_iff hc).mp (Prod.ext hfound rfl)
    exact hnone i source _ hcs hbegins

theorem exists_isDivided (cs : List Char) : ∃ ps, IsDivided cs ps := by
  -- Strong induction on the length: an item can be of any length.
  induction hn : cs.length using Nat.strongRecOn generalizing cs with
  | ind n ih =>
    cases cs with
    | nil => exact ⟨[], .nil⟩
    | cons c cs =>
      have hshorter : ∃ ps, IsDivided cs ps := ih cs.length (by simp [← hn]) cs rfl
      cases hblank : Text.isBlank c with
      | true =>
        obtain ⟨ps, hps⟩ := hshorter
        exact ⟨_, .blank hblank hps⟩
      | false =>
        by_cases hnone : read? c cs = (none, cs)
        · obtain ⟨ps, hps⟩ := hshorter
          exact ⟨_, .stray hblank ((read?_eq_none_iff hblank).mp hnone) hps⟩
        · rw [read?_eq_none_iff hblank] at hnone
          simp only [not_forall, not_not] at hnone
          obtain ⟨i, source, after, hcs, hbegins⟩ := hnone
          have hpos : 0 < source.length := by
            obtain ⟨stop, hwritten, -⟩ := hbegins
            exact List.length_pos_iff.mpr hwritten.ne_nil
          rw [hcs, List.length_append] at hn
          obtain ⟨ps, hps⟩ := ih after.length (by omega) after rfl
          rw [hcs]
          exact ⟨_, .item hbegins hps⟩

theorem IsDivided.eq_nil (h : IsDivided [] ps) : ps = [] := by
  generalize hcs : ([] : List Char) = cs at h
  cases h with
  | nil => rfl
  | blank | stray => cases hcs
  | item hitem =>
    obtain ⟨stop, hwritten, -⟩ := hitem
    exact absurd (List.append_eq_nil_iff.mp hcs.symm).1 hwritten.ne_nil

/-- The first part of a text. -/
theorem IsDivided.cons_cases (h : IsDivided (c :: cs) ps) :
    (Text.isBlank c = true ∧ ∃ qs, ps = .blank c :: qs ∧ IsDivided cs qs) ∨
    (∃ i source rest qs, c :: cs = source ++ rest ∧ i.Begins source rest ∧
      ps = .item i source :: qs ∧ IsDivided rest qs) ∨
    (Text.isBlank c = false ∧ read? c cs = (none, cs) ∧
      ∃ qs, ps = .stray c :: qs ∧ IsDivided cs qs) := by
  generalize hcs : c :: cs = text at h
  cases h with
  | nil => cases hcs
  | blank hc hrest =>
    obtain ⟨rfl, rfl⟩ := List.cons.inj hcs
    exact .inl ⟨hc, _, rfl, hrest⟩
  | item hitem hrest => exact .inr (.inl ⟨_, _, _, _, rfl, hitem, rfl, hrest⟩)
  | stray hc hnone hrest =>
    obtain ⟨rfl, rfl⟩ := List.cons.inj hcs
    exact .inr (.inr ⟨hc, (read?_eq_none_iff hc).mpr hnone, _, rfl, hrest⟩)

/-- **A text has one division only.** -/
theorem IsDivided.unique (h : IsDivided cs ps) : ∀ {qs}, IsDivided cs qs → ps = qs := by
  induction h with
  | nil => exact fun h' => h'.eq_nil.symm
  | @blank c rest ps hc _ ih =>
    intro qs h'
    rcases h'.cons_cases with ⟨-, qs, rfl, hqs⟩ | ⟨_, _, _, _, hcs, hitem, -, -⟩ | ⟨hc', -⟩
    · rw [ih hqs]
    · rw [(read?_of_begins hitem hcs).1] at hc
      cases hc
    · rw [hc'] at hc
      cases hc
  | @item i source rest ps hitem _ ih =>
    intro qs h'
    obtain ⟨c, ds, rfl, hc⟩ := hitem.exists_cons
    have hsource : c :: (ds ++ rest) = c :: ds ++ rest := rfl
    have hread := (read?_of_begins hitem hsource).2
    rw [List.cons_append] at h'
    rcases h'.cons_cases with
      ⟨hc', -⟩ | ⟨_, source', _, qs, hcs, hitem', rfl, hqs⟩ | ⟨-, hnone, -⟩
    · rw [hc] at hc'
      cases hc'
    · -- The same item is read, and the same rest is left.
      have hread' := (read?_of_begins hitem' hcs).2
      rw [hread] at hread'
      obtain ⟨hfound, rfl⟩ := Prod.mk.inj hread'
      obtain rfl := Option.some.inj hfound
      have hsame : c :: ds = source' := (List.append_left_inj rest).mp hcs
      rw [ih hqs, hsame]
    · rw [hread] at hnone
      cases hnone
  | @stray c rest ps hc hnone _ ih =>
    intro qs h'
    rcases h'.cons_cases with ⟨hc', -⟩ | ⟨_, _, _, _, hcs, hitem, -, -⟩ | ⟨-, -, qs, rfl, hqs⟩
    · rw [hc] at hc'
      cases hc'
    · exact absurd hitem (hnone _ _ _ hcs)
    · rw [ih hqs]

/-- Blanks in front of a text are parts of their own. -/
theorem IsDivided.prepend (h : IsDivided cs ps) {lead : List Char} (hlead : IsBlankText lead) :
    IsDivided (lead ++ cs) (lead.map .blank ++ ps) := by
  induction lead with
  | nil => exact h
  | cons c lead ih =>
    obtain ⟨hc, hlead⟩ := List.forall_mem_cons.mp hlead
    exact .blank hc (ih hlead)

theorem stopsAt_append_iff {stop : Char → Bool} {trail : List Char}
    (hstop : ∀ c ∈ trail, stop c = true) : StopsAt stop (rest ++ trail) ↔ StopsAt stop rest := by
  cases rest with
  | cons c rest => exact Iff.rfl
  | nil =>
    refine iff_of_true (fun c hc => hstop c (List.mem_of_mem_head? hc)) (Text.stopsAt_nil stop)

/-- Blanks behind a text make no difference to the items in it. -/
theorem begins_append_iff {trail : List Char} (htrail : IsBlankText trail) :
    i.Begins source (rest ++ trail) ↔ i.Begins source rest := by
  refine exists_congr fun stop => and_congr_right fun hwritten => stopsAt_append_iff fun c hc => ?_
  exact hwritten.stop_of_isBlank (htrail c hc)

/-- An item does not end in blanks. -/
theorem exists_eq_append_of_begins {after trail : List Char} (h : i.Begins source after)
    (htrail : IsBlankText trail) (hcs : cs ++ trail = source ++ after) :
    ∃ rest, cs = source ++ rest ∧ after = rest ++ trail := by
  rcases List.append_eq_append_iff.mp hcs with ⟨extra, hsource, hextra⟩ | ⟨rest, hrest, hafter⟩
  · rcases extra.eq_nil_or_concat with rfl | ⟨extra, d, rfl⟩
    · exact ⟨[], by simpa using hsource.symm, by simpa using hextra.symm⟩
    · -- The last character of the item would be one of the blanks.
      obtain ⟨stop, hwritten, -⟩ := h
      obtain ⟨ds, d', rfl, hd⟩ := hwritten.exists_concat
      rw [List.concat_eq_append, ← List.append_assoc] at hsource
      obtain ⟨-, hlast⟩ := List.append_inj' hsource rfl
      obtain rfl : d' = d := by simpa using hlast
      rw [htrail d' (by simp [hextra])] at hd
      cases hd
  · exact ⟨rest, hrest, hafter⟩

/-- Blanks behind a text are parts of their own. -/
theorem IsDivided.append (h : IsDivided cs ps) {trail : List Char} (htrail : IsBlankText trail) :
    IsDivided (cs ++ trail) (ps ++ trail.map .blank) := by
  induction h with
  | nil => simpa using IsDivided.nil.prepend htrail
  | blank hc _ ih => exact .blank hc ih
  | item hitem _ ih =>
    rw [List.append_assoc]
    exact .item ((begins_append_iff htrail).mpr hitem) ih
  | @stray c rest ps hc hnone _ ih =>
    refine .stray hc (fun i source after hcs hbegins => ?_) ih
    have hcs : (c :: rest) ++ trail = source ++ after := hcs
    obtain ⟨rest', hrest', rfl⟩ := exists_eq_append_of_begins hbegins htrail hcs
    exact hnone i source rest' hrest' ((begins_append_iff htrail).mp hbegins)

end Division

/-! ### Reading in rounds -/

namespace AttributeItem

/-- One round of reading: what begins behind the blanks, and what is left. -/
def round (cs : List Char) : Option AttributeItem × List Char :=
  match Text.trimStart cs with
  | [] => (none, [])
  | c :: cs => read? c cs

/-- Rounds are made until nothing is left. -/
inductive Rounds : List Char → List AttributeItem → Prop
  | done : Rounds [] []
  | next {cs : List Char} {items : List AttributeItem} (hne : cs ≠ [])
      (hrest : Rounds (round cs).2 items) : Rounds cs ((round cs).1.toList ++ items)

section Rounds

variable {c : Char} {cs : List Char} {items : List AttributeItem}

theorem round_cons (hc : Text.isBlank c = false) (cs : List Char) :
    round (c :: cs) = read? c cs := by
  rw [round, Text.trimStart_cons hc]

theorem round_cons_of_isBlank (hc : Text.isBlank c = true) (cs : List Char) :
    round (c :: cs) = round cs := by
  rw [round, Text.trimStart_cons_of_isBlank hc]
  rfl

/-- What is read at a character leaves less than there was. -/
theorem length_read?_le (hc : Text.isBlank c = false) : (read? c cs).2.length ≤ cs.length := by
  cases hfound : (read? c cs).1 with
  | none => rw [read?_none hfound]
  | some item =>
    obtain ⟨source, hcs, hbegins⟩ := (read?_eq_some_iff hc).mp (Prod.ext hfound rfl)
    obtain ⟨d, ds, rfl, -⟩ := hbegins.exists_cons
    obtain ⟨-, hcs⟩ := List.cons.inj hcs
    have hlength : cs.length = ds.length + (read? c cs).2.length :=
      (congrArg List.length hcs).trans List.length_append
    exact hlength ▸ Nat.le_add_left _ _

/-- **A round takes at least one character off the text.** -/
theorem length_round_lt (hne : cs ≠ []) : (round cs).2.length < cs.length := by
  induction cs with
  | nil => exact absurd rfl hne
  | cons c cs ih =>
    cases hc : Text.isBlank c with
    | false =>
      rw [round_cons hc]
      exact Nat.lt_succ_of_le (length_read?_le hc)
    | true =>
      rw [round_cons_of_isBlank hc]
      cases cs with
      | nil => exact Nat.zero_lt_one
      | cons d ds => exact Nat.lt_succ_of_lt (ih (List.cons_ne_nil d ds))

/-- **Reading ends**, whatever the text. -/
theorem exists_rounds (cs : List Char) : ∃ items, Rounds cs items := by
  induction hn : cs.length using Nat.strongRecOn generalizing cs with
  | ind n ih =>
    cases cs with
    | nil => exact ⟨[], .done⟩
    | cons c cs =>
      have hne := List.cons_ne_nil c cs
      obtain ⟨items, hitems⟩ := ih _ (hn ▸ length_round_lt hne) (round (c :: cs)).2 rfl
      exact ⟨_, .next hne hitems⟩

theorem readAll_nil (fuel : Nat) : readAll fuel [] = [] := by
  cases fuel <;> rfl

theorem readAll_succ (fuel : Nat) (cs : List Char) :
    readAll (fuel + 1) cs = (round cs).1.toList ++ readAll fuel (round cs).2 := by
  rw [readAll, round]
  cases Text.trimStart cs with
  | nil => exact (readAll_nil fuel).symm
  | cons c cs =>
    dsimp only
    rcases read? c cs with ⟨_ | item, rest⟩ <;> rfl

/-- **The bound on the rounds does not matter** if it is at least the length of the text. -/
theorem readAll_of_rounds (h : Rounds cs items) :
    ∀ {fuel}, cs.length ≤ fuel → readAll fuel cs = items := by
  induction h with
  | done => exact fun _ => readAll_nil _
  | next hne _ ih =>
    intro fuel hfuel
    have hlength := length_round_lt hne
    obtain ⟨fuel, rfl⟩ := Nat.exists_eq_succ_of_ne_zero (by omega : fuel ≠ 0)
    rw [Nat.succ_eq_add_one, readAll_succ, ih (by omega)]

/-- Blanks in front of a text make no difference to what is read. -/
theorem Rounds.cons_blank (hc : Text.isBlank c = true) (h : Rounds cs items) :
    Rounds (c :: cs) items := by
  have hround := round_cons_of_isBlank hc cs
  cases h with
  | done =>
    have hdone : Rounds (round [c]).2 [] := by
      rw [hround]
      exact .done
    have hnext := Rounds.next (List.cons_ne_nil c []) hdone
    rwa [hround] at hnext
  | @next _ items hne hrest =>
    rw [← hround] at hrest ⊢
    exact .next (List.cons_ne_nil c cs) hrest

/-- The rounds find the items of the division. -/
theorem rounds_itemsOf {ps : List Part} (h : IsDivided cs ps) : Rounds cs (itemsOf ps) := by
  induction h with
  | nil => exact .done
  | blank hc _ ih => exact ih.cons_blank hc
  | @item i source rest ps hitem _ ih =>
    obtain ⟨c, ds, rfl, hc⟩ := hitem.exists_cons
    have hsource : c :: (ds ++ rest) = c :: ds ++ rest := rfl
    have hround : round (c :: (ds ++ rest)) = (some i, rest) := by
      rw [round_cons hc, (read?_of_begins hitem hsource).2]
    have hnext := Rounds.next (List.cons_ne_nil c (ds ++ rest)) (by rwa [hround])
    rwa [hround] at hnext
  | @stray c rest ps hc hnone _ ih =>
    have hround : round (c :: rest) = (none, rest) := by
      rw [round_cons hc, (read?_eq_none_iff hc).mpr hnone]
    have hnext := Rounds.next (List.cons_ne_nil c rest) (by rwa [hround])
    rwa [hround] at hnext

end Rounds

end AttributeItem

/-! ### Blocks -/

namespace AttributeBlock

/-- **A block has the items of the division of its text.**  It is read without the blanks around it,
which are no items. -/
theorem parseChars_eq {cs : List Char} {ps : List Part} (h : IsDivided cs ps) :
    parseChars cs = ofItems (itemsOf ps) := by
  obtain ⟨qs, hqs⟩ := exists_isDivided (Text.trim cs)
  obtain ⟨lead, trail, hcs, hlead, htrail⟩ := Text.exists_trim cs
  have hdivided : IsDivided cs (lead.map .blank ++ (qs ++ trail.map .blank)) := by
    rw [hcs]
    exact (hqs.append htrail).prepend hlead
  have hread := AttributeItem.readAll_of_rounds (AttributeItem.rounds_itemsOf hqs) (Nat.le_refl _)
  rw [h.unique hdivided]
  simp only [itemsOf_append, itemsOf_map_blank, List.nil_append, List.append_nil]
  exact congrArg ofItems hread

end AttributeBlock

/-! ### Written blocks -/

/-- Items as they are written one behind the other, with blanks between them. -/
inductive AreSeparated : List AttributeItem → List Char → Prop
  | single {i : AttributeItem} {source : List Char} {stop : Char → Bool}
      (hitem : i.IsWritten source stop) : AreSeparated [i] source
  | cons {i : AttributeItem} {items : List AttributeItem} {source gap rest : List Char}
      {stop : Char → Bool} (hitem : i.IsWritten source stop) (hgap : IsBlankText gap)
      (hne : gap ≠ []) (hrest : AreSeparated items rest) :
      AreSeparated (i :: items) (source ++ (gap ++ rest))

/-- The text of a block: items with blanks between and around them, or nothing but blanks. -/
inductive IsBlockSource : List AttributeItem → List Char → Prop
  | empty {cs : List Char} (hcs : IsBlankText cs) : IsBlockSource [] cs
  | items {is : List AttributeItem} {lead source trail : List Char} (hlead : IsBlankText lead)
      (hsource : AreSeparated is source) (htrail : IsBlankText trail) :
      IsBlockSource is (lead ++ (source ++ trail))

section Written

variable {cs : List Char} {items : List AttributeItem}

/-- **A blank ends every item**, so items with blanks between them are parts of the text. -/
theorem AreSeparated.exists_isDivided (h : AreSeparated items cs) :
    ∃ ps, IsDivided cs ps ∧ itemsOf ps = items := by
  induction h with
  | @single i source stop hitem =>
    have hdivided := IsDivided.item (i := i) ⟨stop, hitem, Text.stopsAt_nil stop⟩ .nil
    rw [List.append_nil] at hdivided
    exact ⟨_, hdivided, rfl⟩
  | @cons i items source gap rest stop hitem hgap hne _ ih =>
    obtain ⟨ps, hps, hitems⟩ := ih
    obtain ⟨c, gap, rfl⟩ := List.exists_cons_of_ne_nil hne
    have hblank : Text.isBlank c = true := hgap c List.mem_cons_self
    have hstop : StopsAt stop (c :: gap ++ rest) :=
      Text.stopsAt_cons.mpr (hitem.stop_of_isBlank hblank)
    refine ⟨_, .item ⟨stop, hitem, hstop⟩ (hps.prepend hgap), ?_⟩
    rw [itemsOf_item, itemsOf_append, itemsOf_map_blank, hitems, List.nil_append]

theorem IsBlockSource.exists_isDivided (h : IsBlockSource items cs) :
    ∃ ps, IsDivided cs ps ∧ itemsOf ps = items := by
  cases h with
  | empty hcs =>
    have hdivided := IsDivided.nil.prepend hcs
    rw [List.append_nil] at hdivided
    exact ⟨_, hdivided, by simp⟩
  | items hlead hsource htrail =>
    obtain ⟨ps, hps, hitems⟩ := hsource.exists_isDivided
    exact ⟨_, (hps.append htrail).prepend hlead, by simpa using hitems⟩

end Written

/-! ### The items of a block -/

namespace AttributeItem

/-- The name of an id. -/
def idName? : AttributeItem → Option String
  | .id name => some name
  | .className _ | .pair _ _ => none

/-- The name of a class. -/
def classOf? : AttributeItem → Option String
  | .className name => some name
  | .id _ | .pair _ _ => none

/-- The key and the value of a named value. -/
def pairOf? : AttributeItem → Option (String × String)
  | .pair key value => some (key, value)
  | .id _ | .className _ => none

end AttributeItem

namespace AttributeBlock

/-- A block has the last id of the items, and all their classes and named values in order. -/
structure Sorts (b : AttributeBlock) (items : List AttributeItem) : Prop where
  id : b.id = (items.filterMap AttributeItem.idName?).getLast?
  classes : b.classes = items.filterMap AttributeItem.classOf?
  pairs : b.pairs = items.filterMap AttributeItem.pairOf?

theorem sorts_empty : Sorts {} [] := ⟨rfl, rfl, rfl⟩

/-- One more item behind the others. -/
theorem Sorts.add {b : AttributeBlock} {items : List AttributeItem} (h : b.Sorts items)
    (i : AttributeItem) : (b.add i).Sorts (items ++ [i]) := by
  cases i <;> constructor <;>
    simp [AttributeBlock.add, h.id, h.classes, h.pairs, AttributeItem.idName?,
      AttributeItem.classOf?, AttributeItem.pairOf?]

theorem Sorts.foldl_add (more : List AttributeItem) : ∀ {b : AttributeBlock}
    {items : List AttributeItem}, b.Sorts items →
      (more.foldl AttributeBlock.add b).Sorts (items ++ more) := by
  induction more with
  | nil =>
    intro b items h
    rwa [List.append_nil]
  | cons i more ih =>
    intro b items h
    have hmore := ih (h.add i)
    rwa [List.append_assoc] at hmore

theorem sorts_ofItems (items : List AttributeItem) : (ofItems items).Sorts items :=
  sorts_empty.foldl_add items

theorem Sorts.isEmpty_iff {b : AttributeBlock} {items : List AttributeItem} (h : b.Sorts items) :
    b.isEmpty = true ↔ items = [] := by
  rw [isEmpty, h.id, h.classes, h.pairs]
  constructor
  · intro hempty
    cases items with
    | nil => rfl
    | cons i items =>
      cases i <;>
        simp [AttributeItem.idName?, AttributeItem.classOf?, AttributeItem.pairOf?] at hempty
  · rintro rfl
    rfl

end AttributeBlock

/-! ### What is read -/

/-- What is read of a text: of a block that is written in it, the items, and of any text what some
number of rounds finds in it. -/
structure ReadsItems (text : String) : Prop where
  /-- The items of a written block are read, whatever they are and in whatever order. -/
  written : ∀ items, IsBlockSource items text.toList → (AttributeBlock.parse text).Sorts items
  /-- The reading ends. -/
  ends : ∃ items, AttributeItem.Rounds (Text.trim text.toList) items ∧
    AttributeBlock.parse text = AttributeBlock.ofItems items

/-- **Items with blanks between and around them are read as they are written, and of every text the
reading ends.** -/
theorem readsItems_parse (text : String) : ReadsItems text where
  written items h := by
    obtain ⟨ps, hps, hitems⟩ := h.exists_isDivided
    have hparse : AttributeBlock.parse text = AttributeBlock.ofItems items := by
      rw [AttributeBlock.parse, AttributeBlock.parseChars_eq hps, hitems]
    rw [hparse]
    exact AttributeBlock.sorts_ofItems items
  ends := by
    obtain ⟨items, hitems⟩ := AttributeItem.exists_rounds (Text.trim text.toList)
    have hread := AttributeItem.readAll_of_rounds hitems (Nat.le_refl _)
    exact ⟨items, hitems, congrArg AttributeBlock.ofItems hread⟩

/-- An id, a value in which marks and blanks stand, and a value that is an equals sign. -/
theorem readsItems_parse_quotes :
    (AttributeBlock.parse " #a k=\"v .c #d\"\tl='=' ").Sorts
      [.id "a", .pair "k" "v .c #d", .pair "l" "="] := by
  have hname : AttributeItem.IsName ['a'] := ⟨by simp, List.forall_mem_singleton.mpr (by decide)⟩
  have hk : AttributeItem.IsKey ['k'] :=
    ⟨by simp, List.forall_mem_singleton.mpr (by decide), by simp⟩
  have hl : AttributeItem.IsKey ['l'] :=
    ⟨by simp, List.forall_mem_singleton.mpr (by decide), by simp⟩
  have hid : AttributeItem.IsWritten (.id "a") "#a".toList AttributeItem.endsName := .id hname
  have hmarks : ∀ c ∈ ['v', ' ', '.', 'c', ' ', '#', 'd'], c ≠ '\x22' := by simp
  have hdouble : AttributeItem.IsWritten (.pair "k" "v .c #d") "k=\"v .c #d\"".toList
      fun _ => true :=
    .pair hk Text.isBlankText_nil (.doubleQuoted hmarks)
  have hequals : ∀ c ∈ ['='], c ≠ '\x27' := by simp
  have hsingle : AttributeItem.IsWritten (.pair "l" "=") "l='='".toList fun _ => true :=
    .pair hl Text.isBlankText_nil (.singleQuoted hequals)
  have hspace : IsBlankText [' '] := List.forall_mem_singleton.mpr (by decide)
  have htab : IsBlankText ['\t'] := List.forall_mem_singleton.mpr (by decide)
  have hsource := AreSeparated.cons hid hspace (by decide)
    (.cons hdouble htab (by decide) (.single hsingle))
  exact (readsItems_parse _).written _ (.items hspace hsource hspace)

/-- An id and a class without a blank between them, and quotes and marks within values. -/
example : AttributeBlock.parse " #a.b k=\"v .c #d\"\tl='=' #e " =
    { id := some "e", classes := ["b"], pairs := [("k", "v .c #d"), ("l", "=")] } := by
  decide +kernel

end Folio
