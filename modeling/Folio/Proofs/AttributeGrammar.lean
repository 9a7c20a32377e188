import Folio.AttributeBlock
import Folio.Proofs.TextSearch

/-!
# How attribute blocks are written

An item of an attribute block is an id or a class behind its mark, or a named value, in quotes or
without.  Each way of writing an item also says where the item ends: a name at a character that no
name has in it, a value without quotes at a blank, and a value in quotes at its quote, whatever
stands behind that.  Told so, an item can be read in one way only, and it is read by looking for the
first character that cannot belong to it.

## Main definitions

* `AttributeItem.IsWritten` — the ways to write an item, with what may stand behind it.
* `AttributeItem.Begins` — an item stands at the beginning of a text.

## Main results

* `AttributeItem.value?_eq_some_iff`, `AttributeItem.pair?_eq_some_iff` — what the readers of values
  and of named values find.
* `AttributeItem.read?_eq_some_iff` — **what begins at a character that is not blank is read exactly
  if an item is written there.**
-/

namespace Folio.AttributeItem

open Text (IsBlankText StopsAt)

/-! ### The ways to write an item -/

/-- A character at which a name ends. -/
def endsName (c : Char) : Bool := !isNameChar c

/-- The name of an id or of a class. -/
structure IsName (cs : List Char) : Prop where
  ne_nil : cs ≠ []
  plain : ∀ c ∈ cs, isNameChar c = true

/-- The name of a named value. -/
structure IsKey (cs : List Char) : Prop where
  ne_nil : cs ≠ []
  plain : ∀ c ∈ cs, Text.isBlank c = false ∧ c ≠ '='
  unmarked : ∀ c ∈ cs.head?, c ≠ '#' ∧ c ≠ '.'

/-- The ways to write a value, with the characters that may stand behind it. -/
inductive IsWrittenValue : (value source : List Char) → (stop : Char → Bool) → Prop
  | doubleQuoted {value : List Char} (h : ∀ c ∈ value, c ≠ '\x22') :
      IsWrittenValue value ('\x22' :: (value ++ ['\x22'])) fun _ => true
  | singleQuoted {value : List Char} (h : ∀ c ∈ value, c ≠ '\x27') :
      IsWrittenValue value ('\x27' :: (value ++ ['\x27'])) fun _ => true
  | bare {value : List Char} (hplain : ∀ c ∈ value, Text.isBlank c = false)
      (hquote : ∀ c ∈ value.head?, c ≠ '\x22' ∧ c ≠ '\x27') :
      IsWrittenValue value value Text.isBlank

/-- The ways to write an item, with the characters that may stand behind it.  Blanks may stand
between a key and the equals sign. -/
inductive IsWritten : AttributeItem → (source : List Char) → (stop : Char → Bool) → Prop
  | id {name : List Char} (h : IsName name) :
      IsWritten (.id (String.ofList name)) ('#' :: name) endsName
  | className {name : List Char} (h : IsName name) :
      IsWritten (.className (String.ofList name)) ('.' :: name) endsName
  | pair {key gap value source : List Char} {stop : Char → Bool} (hkey : IsKey key)
      (hgap : IsBlankText gap) (hvalue : IsWrittenValue value source stop) :
      IsWritten (.pair (String.ofList key) (String.ofList value)) (key ++ (gap ++ '=' :: source))
        stop

/-- The item stands at the beginning of a text, with `rest` behind it. -/
def Begins (item : AttributeItem) (source rest : List Char) : Prop :=
  ∃ stop, item.IsWritten source stop ∧ StopsAt stop rest

/-! ### The ends of an item -/

theorem isBlank_of_isNameChar {c : Char} (h : isNameChar c = true) : Text.isBlank c = false := by
  simp only [isNameChar, Bool.not_eq_true', Bool.or_eq_false_iff] at h
  exact h.1.1

section Ends

variable {item : AttributeItem} {value source rest : List Char} {stop : Char → Bool} {c : Char}

/-- A blank may stand behind every item. -/
theorem IsWrittenValue.stop_of_isBlank (h : IsWrittenValue value source stop)
    (hc : Text.isBlank c = true) : stop c = true := by
  cases h with
  | doubleQuoted | singleQuoted => rfl
  | bare => exact hc

theorem IsWritten.stop_of_isBlank (h : item.IsWritten source stop) (hc : Text.isBlank c = true) :
    stop c = true := by
  cases h with
  | id | className => simp [endsName, isNameChar, hc]
  | pair _ _ hvalue => exact hvalue.stop_of_isBlank hc

/-- An item begins with a character that is not blank. -/
theorem IsWritten.exists_cons (h : item.IsWritten source stop) :
    ∃ c cs, source = c :: cs ∧ Text.isBlank c = false := by
  cases h with
  | id | className => exact ⟨_, _, rfl, by decide⟩
  | @pair key gap value source stop hkey =>
    obtain ⟨c, key, rfl⟩ := List.exists_cons_of_ne_nil hkey.ne_nil
    exact ⟨c, _, rfl, (hkey.plain c List.mem_cons_self).1⟩

/-- An item ends with a character that is not blank. -/
theorem IsWritten.exists_concat (h : item.IsWritten source stop) :
    ∃ cs c, source = cs ++ [c] ∧ Text.isBlank c = false := by
  -- Behind a mark or an equals sign the last character is that of the name or value, if it has one.
  have hlast : ∀ (mark : Char) {cs : List Char}, Text.isBlank mark = false →
      (∀ c ∈ cs, Text.isBlank c = false) →
        ∃ ds c, mark :: cs = ds ++ [c] ∧ Text.isBlank c = false := by
    intro mark cs hmark hcs
    have hne := List.cons_ne_nil mark cs
    have hall : ∀ c ∈ mark :: cs, Text.isBlank c = false := List.forall_mem_cons.mpr ⟨hmark, hcs⟩
    exact ⟨_, _, (List.dropLast_concat_getLast hne).symm, hall _ (List.getLast_mem hne)⟩
  cases h with
  | id h | className h => exact hlast _ (by decide) fun c hc => isBlank_of_isNameChar (h.plain c hc)
  | @pair key gap value source stop hkey hgap hvalue =>
    cases hvalue with
    | doubleQuoted => exact ⟨key ++ (gap ++ '=' :: '\x22' :: value), '\x22', by simp, by decide⟩
    | singleQuoted => exact ⟨key ++ (gap ++ '=' :: '\x27' :: value), '\x27', by simp, by decide⟩
    | bare hplain =>
      obtain ⟨ds, c, hds, hc⟩ := hlast '=' (by decide) hplain
      exact ⟨key ++ (gap ++ ds), c, by simp [hds], hc⟩

theorem IsWritten.ne_nil (h : item.IsWritten source stop) : source ≠ [] := by
  obtain ⟨c, cs, rfl, -⟩ := h.exists_cons
  exact List.cons_ne_nil c cs

end Ends

/-! ### Names -/

section Names

variable {make : String → AttributeItem} {item : AttributeItem} {cs rest : List Char}

/-- What the reader of names finds. -/
theorem name?_eq_some_iff : name? make cs = (some item, rest) ↔
    ∃ name, IsName name ∧ item = make (String.ofList name) ∧ cs = name ++ rest ∧
      StopsAt endsName rest := by
  constructor
  · intro h
    unfold name? at h
    split at h
    · cases h
    · next hne =>
      obtain ⟨heq, rfl⟩ := Prod.mk.inj h
      refine ⟨_, ⟨hne, fun c hc => List.mem_takeWhile_imp hc⟩, (Option.some.inj heq).symm,
        List.takeWhile_append_dropWhile.symm, Text.stopsAt_dropWhile ?_ _⟩
      intro c hc
      rw [endsName, hc]
      rfl
  · rintro ⟨name, hname, rfl, rfl, hstop⟩
    have hends : ∀ c, endsName c = true → isNameChar c = false := by simp [endsName]
    have htake := Text.takeWhile_append hname.plain hends hstop
    have hdrop := Text.dropWhile_append hname.plain hends hstop
    unfold name?
    rw [htake, hdrop]
    cases name with
    | nil => exact absurd rfl hname.ne_nil
    | cons c name => rfl

theorem name?_none (h : (name? make cs).1 = none) : (name? make cs).2 = cs := by
  unfold name? at h ⊢
  split at h
  · rfl
  · cases h

end Names

/-! ### Named values -/

section Pairs

variable {cs value rest : List Char}

/-- What the reader of values finds. -/
theorem value?_eq_some_iff : value? cs = some (value, rest) ↔
    ∃ source stop, IsWrittenValue value source stop ∧ cs = source ++ rest ∧ StopsAt stop rest := by
  constructor
  · intro h
    unfold value? at h
    split at h
    · obtain ⟨rfl, hne⟩ := Text.splitFirst?_singleton_eq_some_iff.mp h
      exact ⟨_, _, .doubleQuoted hne, by simp, fun _ _ => rfl⟩
    · obtain ⟨rfl, hne⟩ := Text.splitFirst?_singleton_eq_some_iff.mp h
      exact ⟨_, _, .singleQuoted hne, by simp, fun _ _ => rfl⟩
    · next hdouble hsingle =>
      obtain ⟨rfl, rfl⟩ := Prod.mk.inj (Option.some.inj h)
      refine ⟨_, _, .bare (fun c hc => by simpa using List.mem_takeWhile_imp hc) ?_,
        List.takeWhile_append_dropWhile.symm, Text.stopsAt_dropWhile (by simp) _⟩
      intro c hc
      -- The first character of the value is that of the text, which is no quote.
      cases cs with
      | nil => cases hc
      | cons d ds =>
        have hcd : d = c := by
          rw [List.takeWhile_cons] at hc
          split at hc
          · simpa using hc
          · cases hc
        subst hcd
        exact ⟨fun hd => hdouble ds (by rw [hd]), fun hd => hsingle ds (by rw [hd])⟩
  · rintro ⟨source, stop, hvalue, rfl, hstop⟩
    cases hvalue with
    | doubleQuoted hne =>
      have hsplit := Text.splitFirst?_append rest hne
      simpa [value?] using hsplit
    | singleQuoted hne =>
      have hsplit := Text.splitFirst?_append rest hne
      simpa [value?] using hsplit
    | bare hplain hquote =>
      have htake := Text.takeWhile_append (p := fun c => !Text.isBlank c) (by simpa using hplain)
        (by simp) hstop
      have hdrop := Text.dropWhile_append (p := fun c => !Text.isBlank c) (by simpa using hplain)
        (by simp) hstop
      -- No quote stands in front, neither that of a value nor that of what follows no value.
      have hhead : ∀ c ∈ (value ++ rest).head?, c ≠ '\x22' ∧ c ≠ '\x27' := by
        cases value with
        | cons c value => exact hquote
        | nil =>
          intro c hc
          have hc := hstop c hc
          constructor <;> (rintro rfl; revert hc; decide)
      unfold value?
      split
      · next heq => exact absurd rfl (hhead '\x22' (by rw [heq]; rfl)).1
      · next heq => exact absurd rfl (hhead '\x27' (by rw [heq]; rfl)).2
      · rw [htake, hdrop]

/-- Nothing is trimmed in front of a key, for the text begins with no blank. -/
theorem exists_trim_append {c : Char} {before after : List Char} (hblank : Text.isBlank c = false)
    (hcs : c :: cs = before ++ after) :
    ∃ gap, before = Text.trim before ++ gap ∧ IsBlankText gap := by
  obtain ⟨lead, gap, hbefore, hlead, hgap⟩ := Text.exists_trim before
  cases lead with
  | nil => exact ⟨gap, hbefore, hgap⟩
  | cons d lead =>
    rw [hbefore] at hcs
    obtain rfl := (List.cons.inj hcs).1
    rw [hlead c List.mem_cons_self] at hblank
    cases hblank

/-- What is asked of a key that has no equals sign in it. -/
theorem isKey_iff {key : List Char} (hne : ∀ c ∈ key, c ≠ '=') : IsKey key ↔
    ¬ (key.isEmpty || key.any Text.isBlank || key.head? == some '#' || key.head? == some '.')
      = true := by
  simp only [Bool.or_eq_true, not_or, Bool.not_eq_true, List.isEmpty_eq_false_iff,
    List.any_eq_false, beq_eq_false_iff_ne]
  constructor
  · intro h
    exact ⟨⟨⟨h.ne_nil, fun c hc => by simp [(h.plain c hc).1]⟩,
      fun hc => (h.unmarked _ hc).1 rfl⟩, fun hc => (h.unmarked _ hc).2 rfl⟩
  · rintro ⟨⟨⟨hnil, hplain⟩, hhash⟩, hdot⟩
    refine ⟨hnil, fun c hc => ⟨by simpa using hplain c hc, hne c hc⟩, fun c hc => ⟨?_, ?_⟩⟩
    · rintro rfl
      exact hhash hc
    · rintro rfl
      exact hdot hc

/-- What the reader of named values finds. -/
theorem pair?_eq_some_iff {c : Char} {item : AttributeItem} (hblank : Text.isBlank c = false)
    (hmark : c ≠ '#' ∧ c ≠ '.') : pair? (c :: cs) = some (item, rest) ↔
    ∃ source, c :: cs = source ++ rest ∧ item.Begins source rest := by
  constructor
  · intro h
    unfold pair? at h
    split at h
    · cases h
    · next before after hsplit =>
      obtain ⟨hcs, hne⟩ := Text.splitFirst?_singleton_eq_some_iff.mp hsplit
      dsimp only at h
      split at h
      · cases h
      · next hkey =>
        obtain ⟨⟨value, rest'⟩, hvalue, heq⟩ := Option.map_eq_some_iff.mp h
        obtain ⟨rfl, rfl⟩ := Prod.mk.inj heq
        obtain ⟨source, stop, hwritten, rfl, hstop⟩ := value?_eq_some_iff.mp hvalue
        have hkey := (isKey_iff fun d hd => hne d (Text.subset_trim before hd)).mpr hkey
        obtain ⟨gap, hbefore, hgap⟩ := exists_trim_append hblank hcs
        refine ⟨Text.trim before ++ (gap ++ '=' :: source), ?_, stop,
          .pair hkey hgap hwritten, hstop⟩
        have hall : before ++ '=' :: (source ++ rest') = (Text.trim before ++ gap)
            ++ '=' :: (source ++ rest') := congrArg (· ++ '=' :: (source ++ rest')) hbefore
        rw [hcs, hall]
        simp
  · rintro ⟨source, hsource, stop, hwritten, hstop⟩
    cases hwritten with
    | id => exact absurd (List.cons.inj hsource).1 hmark.1
    | className => exact absurd (List.cons.inj hsource).1 hmark.2
    | @pair key gap value source stop hkey hgap hvalue =>
      have hcs : c :: cs = (key ++ gap) ++ '=' :: (source ++ rest) := by simpa using hsource
      have hne : ∀ d ∈ key ++ gap, d ≠ '=' := by
        refine List.forall_mem_append.mpr ⟨fun d hd => (hkey.plain d hd).2, fun d hd => ?_⟩
        rintro rfl
        exact absurd (hgap _ hd) (by decide)
      have hsplit := Text.splitFirst?_append (source ++ rest) hne
      have htrim := Text.trim_append (fun d hd => (hkey.plain d hd).1) hgap
      have hread := value?_eq_some_iff.mpr ⟨source, stop, hvalue, rfl, hstop⟩
      rw [hcs]
      unfold pair?
      rw [hsplit]
      dsimp only
      rw [htrim, hread, if_neg ((isKey_iff fun d hd => (hkey.plain d hd).2).mp hkey)]
      rfl

end Pairs

/-! ### Items -/

section Items

variable {c : Char} {cs rest : List Char} {item : AttributeItem}

/-- **What begins at a character that is not blank is read exactly if an item is written there.** -/
theorem read?_eq_some_iff (hblank : Text.isBlank c = false) :
    read? c cs = (some item, rest) ↔
      ∃ source, c :: cs = source ++ rest ∧ item.Begins source rest := by
  constructor
  · intro h
    unfold read? at h
    split at h
    · next hc =>
      obtain rfl := beq_iff_eq.mp hc
      obtain ⟨name, hname, rfl, rfl, hstop⟩ := name?_eq_some_iff.mp h
      exact ⟨'#' :: name, rfl, endsName, .id hname, hstop⟩
    split at h
    · next hc =>
      obtain rfl := beq_iff_eq.mp hc
      obtain ⟨name, hname, rfl, rfl, hstop⟩ := name?_eq_some_iff.mp h
      exact ⟨'.' :: name, rfl, endsName, .className hname, hstop⟩
    · next hhash hdot =>
      split at h
      · next item' rest' hpair =>
        obtain ⟨heq, rfl⟩ := Prod.mk.inj h
        obtain rfl := Option.some.inj heq
        exact (pair?_eq_some_iff hblank ⟨by simpa using hhash, by simpa using hdot⟩).mp hpair
      · cases h
  · rintro ⟨source, hsource, stop, hwritten, hstop⟩
    have hbegins : item.Begins source rest := ⟨stop, hwritten, hstop⟩
    cases hwritten with
    | id hname =>
      obtain ⟨rfl, rfl⟩ := List.cons.inj hsource
      exact name?_eq_some_iff.mpr ⟨_, hname, rfl, rfl, hstop⟩
    | className hname =>
      obtain ⟨rfl, rfl⟩ := List.cons.inj hsource
      exact name?_eq_some_iff.mpr ⟨_, hname, rfl, rfl, hstop⟩
    | pair hkey =>
      -- A key has no mark in front.
      obtain ⟨d, key, rfl⟩ := List.exists_cons_of_ne_nil hkey.ne_nil
      obtain rfl := (List.cons.inj hsource).1
      have hmark := hkey.unmarked c rfl
      unfold read?
      rw [if_neg (by simpa using hmark.1), if_neg (by simpa using hmark.2),
        (pair?_eq_some_iff hblank hmark).mpr ⟨_, hsource, hbegins⟩]

/-- A character at which nothing is read is passed over. -/
theorem read?_none (h : (read? c cs).1 = none) : read? c cs = (none, cs) := by
  refine Prod.ext h ?_
  unfold read? at h ⊢
  split at h
  · next hc => rw [if_pos hc, name?_none h]
  split at h
  · next hhash hdot => rw [if_neg hhash, if_pos hdot, name?_none h]
  · next hhash hdot =>
    rw [if_neg hhash, if_neg hdot]
    split at h
    · cases h
    · rfl

end Items

end Folio.AttributeItem
