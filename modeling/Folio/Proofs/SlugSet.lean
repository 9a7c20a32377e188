import Folio.Proofs.Lookups
import Folio.Slug
import Mathlib.Data.List.Nodup

/-!
# A counter of slugs is a set of ids

The counter keeps a number for every id that is taken, the one under which a slug is looked for
next time.  A slug with a number behind it is an id like any other, it may be reserved or be the
slug of another text, and so the numbers of different slugs get in each other's way.  What carries
them is that all forms of a slug below its number are taken.  A search that begins at the number
then finds what a search from the start would find: the first form that is free.

## Main definitions

* `slugBase` — the slug of a text that no number stands behind.
* `IsFirstFree` — an id is the first form of a slug that is not taken.
* `SlugCounter.IsFirstFrom` — a search from a number on stops at the first form that is free.
* `SlugCounter.Tracks` — the counter stands for a list of taken ids.
* `SlugCall`, `SlugCounter.idsTaken` — calls on a counter, and the ids that they take.
* `SlugCounter.AnswersAsSet` — a new counter answers calls as a set of ids would.

## Main results

* `SlugCounter.Tracks.unique` — a slug that is asked for is the first that is free.
* `SlugCounter.uniqueFrom_eq_unique` — the search for it ends.
* `SlugCounter.answersAsSet` — **whatever is asked of a new counter, it answers as a set of ids.**
-/

namespace Folio

/-- The slug of a text, and `section` for a text without letters and numbers. -/
def slugBase (text : String) : String :=
  if (slugify text).isEmpty then "section" else slugify text

/-- The id is the slug itself if that is not taken, and otherwise the slug with the least number
behind it, from one on, with which it is not taken. -/
inductive IsFirstFree (taken : List String) (base : String) : String → Prop
  | bare (hfree : base ∉ taken) : IsFirstFree taken base base
  | numbered {n : Nat} (hbase : base ∈ taken) (hn : 1 ≤ n)
      (hfree : base ++ "-" ++ toString n ∉ taken)
      (hleast : ∀ k, 1 ≤ k → k < n → base ++ "-" ++ toString k ∈ taken) :
      IsFirstFree taken base (base ++ "-" ++ toString n)

theorem IsFirstFree.not_mem {taken : List String} {base id : String}
    (h : IsFirstFree taken base id) : id ∉ taken := by
  cases h with
  | bare hfree => exact hfree
  | numbered _ _ hfree _ => exact hfree

/-- There is one first form that is free. -/
theorem IsFirstFree.eq {taken : List String} {base id id' : String}
    (h : IsFirstFree taken base id) (h' : IsFirstFree taken base id') : id = id' := by
  cases h with
  | bare hfree =>
    cases h' with
    | bare => rfl
    | numbered hbase => exact absurd hbase hfree
  | @numbered n hbase hn hfree hleast =>
    cases h' with
    | bare hfree' => exact absurd hbase hfree'
    | @numbered n' _ hn' hfree' hleast' =>
      rcases Nat.lt_trichotomy n n' with hlt | rfl | hlt
      · exact absurd (hleast' n hn hlt) hfree
      · rfl
      · exact absurd (hleast n' hn' hlt) hfree'

theorem slugBase_ne_empty (text : String) : slugBase text ≠ "" := by
  unfold slugBase
  split
  · decide
  · next h => exact fun hempty => h (by rw [hempty]; rfl)

theorem IsFirstFree.ne_empty {taken : List String} {text id : String}
    (h : IsFirstFree taken (slugBase text) id) : id ≠ "" := by
  cases h with
  | bare => exact slugBase_ne_empty text
  | numbered => exact fun hempty => by simpa using congrArg String.toList hempty

namespace SlugCounter

/-! ### Taken ids -/

theorem taken_eq_true_iff {s : SlugCounter} {id : String} :
    s.taken id = true ↔ id ∈ s.counts.map Prod.fst := by
  rw [taken, List.lookup_isSome_iff]
  simp only [List.mem_map, beq_iff_eq]
  exact ⟨fun ⟨p, hp, h⟩ => ⟨p, hp, h.symm⟩, fun ⟨p, hp, h⟩ => ⟨p, hp, h.symm⟩⟩

theorem taken_reserve (s : SlugCounter) (id id' : String) :
    (s.reserve id).taken id' = (id' == id || s.taken id') := by
  unfold reserve
  split
  · next h =>
    by_cases hid : id' = id
    · rw [hid, h, Bool.or_true]
    · rw [beq_false_of_ne hid, Bool.false_or]
  · rw [taken, List.lookup_cons]
    cases id' == id <;> rfl

theorem taken_setCount (s : SlugCounter) (id : String) (n : Nat) (id' : String) :
    (s.setCount id n).taken id' = (id' == id || s.taken id') := by
  rw [Bool.eq_iff_iff, Bool.or_eq_true, taken_eq_true_iff, taken_eq_true_iff, beq_iff_eq, setCount,
    List.map_cons, List.mem_cons]
  by_cases hid : id' = id
  · simp [hid]
  · simp [hid]

/-- The number under which a slug is looked for next; zero if it was never taken. -/
def count (s : SlugCounter) (id : String) : Nat := (s.counts.lookup id).getD 0

/-- No id that is taken has the number zero. -/
def Positive (s : SlugCounter) : Prop := ∀ p ∈ s.counts, 1 ≤ p.2

theorem positive_empty : Positive {} := List.forall_mem_nil _

theorem Positive.reserve {s : SlugCounter} (h : s.Positive) (id : String) :
    (s.reserve id).Positive := by
  unfold SlugCounter.reserve
  split
  · exact h
  · exact List.forall_mem_cons.mpr ⟨Nat.le_refl 1, h⟩

theorem Positive.setCount {s : SlugCounter} (h : s.Positive) (id : String) {n : Nat}
    (hn : 1 ≤ n) : (s.setCount id n).Positive :=
  List.forall_mem_cons.mpr ⟨hn, fun p hp => h p (List.mem_of_mem_filter hp)⟩

/-- A slug that was never asked for is free. -/
theorem Positive.not_taken {s : SlugCounter} (h : s.Positive) {base : String}
    (hzero : s.count base = 0) : s.taken base = false := by
  rw [taken]
  rw [count] at hzero
  cases hlookup : s.counts.lookup base with
  | none => rfl
  | some n =>
    rw [hlookup, Option.getD_some] at hzero
    obtain ⟨before, after, hcounts, -⟩ := List.lookup_eq_some_iff.mp hlookup
    have hn := h (base, n) (hcounts ▸ List.mem_append_right _ List.mem_cons_self)
    simp only at hn
    omega

theorem count_reserve (s : SlugCounter) (id id' : String) :
    (s.reserve id).count id' = if id' = id ∧ s.taken id = false then 1 else s.count id' := by
  unfold reserve
  cases htaken : s.taken id with
  | true => simp
  | false =>
    by_cases hid : id' = id
    · simp [count, hid]
    · rw [if_neg Bool.false_ne_true, if_neg fun h => hid h.1, count, count, List.lookup_cons,
        beq_false_of_ne hid]

theorem count_setCount (s : SlugCounter) (id id' : String) (n : Nat) :
    (s.setCount id n).count id' = if id' = id then n else s.count id' := by
  rw [count, count, setCount, lookup_replaced]
  split <;> rfl

/-! ### Numbered slugs -/

theorem numbered_injective (base : String) : Function.Injective (numbered base) := by
  have hsuffix : ∀ n, numbered base n = base ++ if n = 0 then "" else "-" ++ toString n := by
    intro n
    unfold numbered
    by_cases hn : n = 0 <;> simp [hn, String.append_assoc]
  intro a b hab
  rw [hsuffix, hsuffix] at hab
  have hends := (String.append_right_inj base).mp hab
  by_cases ha : a = 0 <;> by_cases hb : b = 0
  · rw [ha, hb]
  · rw [if_pos ha, if_neg hb] at hends
    exact absurd (congrArg String.toList hends) (by simp)
  · rw [if_neg ha, if_pos hb] at hends
    exact absurd (congrArg String.toList hends) (by simp)
  · rw [if_neg ha, if_neg hb] at hends
    have hdigits := congrArg (fun s : String => Nat.ofDigitChars 10 s.toList 0)
      ((String.append_right_inj "-").mp hends)
    simpa [Nat.toString_eq_repr, Nat.repr] using hdigits

/-- Not all forms of a slug are taken if there are more of them than taken ids. -/
theorem exists_not_taken (s : SlugCounter) (base : String) (n : Nat) :
    ∃ k ≤ s.counts.length, s.taken (numbered base (n + k)) = false := by
  by_contra hall
  push Not at hall
  have hforms : ((List.range (s.counts.length + 1)).map fun k => numbered base (n + k)).Nodup := by
    refine List.Nodup.map (fun a b hab => ?_) List.nodup_range
    exact Nat.add_left_cancel (numbered_injective base hab)
  have hsubset : (List.range (s.counts.length + 1)).map (fun k => numbered base (n + k))
      ⊆ s.counts.map Prod.fst := by
    intro form hform
    obtain ⟨k, hk, rfl⟩ := List.mem_map.mp hform
    have hle := Nat.lt_succ_iff.mp (List.mem_range.mp hk)
    exact taken_eq_true_iff.mp (by simpa using hall k hle)
  have hlength := hforms.length_le_of_subset hsubset
  simp only [List.length_map, List.length_range] at hlength
  omega

theorem numbered_of_pos (base : String) {n : Nat} (hn : 1 ≤ n) :
    numbered base n = base ++ "-" ++ toString n := by
  rw [numbered, if_neg (by simpa using Nat.one_le_iff_ne_zero.mp hn)]

/-! ### The search for a slug -/

/-- The form of a slug with the number `m` is the first from the number `n` on that is free. -/
structure IsFirstFrom (s : SlugCounter) (base : String) (n m : Nat) : Prop where
  free : s.taken (numbered base m) = false
  le : n ≤ m
  below : ∀ k, n ≤ k → k < m → s.taken (numbered base k) = true

theorem IsFirstFrom.eq {s : SlugCounter} {base : String} {n m m' : Nat}
    (h : s.IsFirstFrom base n m) (h' : s.IsFirstFrom base n m') : m = m' := by
  rcases Nat.lt_trichotomy m m' with hlt | heq | hlt
  · exact absurd (h'.below m h.le hlt) (by simp [h.free])
  · exact heq
  · exact absurd (h.below m' h'.le hlt) (by simp [h'.free])

/-- The first free form from a number on is found if it is among those that are tried. -/
theorem uniqueFrom_spec {s : SlugCounter} {base : String} : ∀ {fuel n : Nat},
    (n = 0 → s.taken base = false) →
    (∃ k < fuel, s.taken (numbered base (n + k)) = false) →
    ∃ m, s.IsFirstFrom base n m ∧ s.uniqueFrom base fuel n
      = (numbered base m, (s.setCount base (m + 1)).reserve (numbered base m)) := by
  intro fuel
  induction fuel with
  | zero =>
    rintro n - ⟨k, hk, -⟩
    exact absurd hk (Nat.not_lt_zero k)
  | succ fuel ih =>
    rintro n hbase ⟨k, hk, hfree⟩
    rw [uniqueFrom]
    split
    · next hcond =>
      refine ⟨n, ⟨?_, Nat.le_refl n, fun k hle hlt => absurd hlt (Nat.not_lt.mpr hle)⟩, rfl⟩
      rw [Bool.or_eq_true, beq_iff_eq, Bool.not_eq_true'] at hcond
      rcases hcond with rfl | hcond
      · exact hbase rfl
      · exact hcond
    · next hcond =>
      rw [Bool.or_eq_true, not_or, Bool.not_eq_true', Bool.not_eq_false] at hcond
      -- This form is taken, so the free one is another.
      have hk' : k ≠ 0 := by
        rintro rfl
        rw [Nat.add_zero, hcond.2] at hfree
        cases hfree
      have hlater : ∃ k < fuel, s.taken (numbered base (n + 1 + k)) = false :=
        ⟨k - 1, by omega, by rwa [show n + 1 + (k - 1) = n + k by omega]⟩
      obtain ⟨m, hm, hresult⟩ := ih (fun h => absurd h (Nat.succ_ne_zero n)) hlater
      refine ⟨m, ⟨hm.free, Nat.le_of_succ_le hm.le, fun i hi him => ?_⟩, hresult⟩
      rcases Nat.eq_or_lt_of_le hi with rfl | hi
      · exact hcond.2
      · exact hm.below i hi him

/-- A slug is looked for from its number on. -/
theorem unique_eq (s : SlugCounter) (text : String) :
    s.unique text = s.uniqueFrom (slugBase text) (s.counts.length + 1) (s.count (slugBase text)) :=
  rfl

/-- The search for a slug finds the first form from its number on that is free. -/
theorem exists_uniqueFrom_eq {s : SlugCounter} (h : s.Positive) (base : String) {fuel : Nat}
    (hfuel : s.counts.length < fuel) :
    ∃ m, s.IsFirstFrom base (s.count base) m ∧ s.uniqueFrom base fuel (s.count base)
      = (numbered base m, (s.setCount base (m + 1)).reserve (numbered base m)) := by
  obtain ⟨k, hk, hfree⟩ := s.exists_not_taken base (s.count base)
  exact uniqueFrom_spec h.not_taken ⟨k, Nat.lt_of_le_of_lt hk hfuel, hfree⟩

/-- **The search for a slug ends**: it comes to the same however many more rounds it may take. -/
theorem uniqueFrom_eq_unique {s : SlugCounter} (h : s.Positive) (text : String) {fuel : Nat}
    (hfuel : s.counts.length < fuel) :
    s.uniqueFrom (slugBase text) fuel (s.count (slugBase text)) = s.unique text := by
  obtain ⟨m, hm, hresult⟩ := exists_uniqueFrom_eq h (slugBase text) hfuel
  obtain ⟨m', hm', hresult'⟩ :=
    exists_uniqueFrom_eq h (slugBase text) (Nat.lt_add_one s.counts.length)
  rw [unique_eq, hresult, hresult', hm.eq hm']

/-! ### What a counter stands for -/

/-- All forms of a slug below its number are taken. -/
def Gapless (s : SlugCounter) : Prop :=
  ∀ base k, 1 ≤ k → k < s.count base → s.taken (numbered base k) = true

theorem Gapless.reserve {s : SlugCounter} (h : s.Gapless) (id : String) :
    (s.reserve id).Gapless := by
  intro base k hk hlt
  rw [count_reserve] at hlt
  rw [taken_reserve]
  split at hlt
  · omega
  · rw [h base k hk hlt, Bool.or_true]

/-- A number may go up to the form that is taken with it. -/
theorem Gapless.take {s : SlugCounter} (h : s.Gapless) {base : String} {m : Nat}
    (hm : s.IsFirstFrom base (s.count base) m) :
    ((s.setCount base (m + 1)).reserve (numbered base m)).Gapless := by
  intro base' k hk hlt
  rw [count_reserve, count_setCount] at hlt
  rw [taken_reserve, taken_setCount]
  split at hlt
  · omega
  · split at hlt
    · next hbase =>
      subst hbase
      rcases Nat.eq_or_lt_of_le (Nat.lt_succ_iff.mp hlt) with rfl | hkm
      · rw [beq_self_eq_true, Bool.true_or]
      · have htaken : s.taken (numbered base' k) = true :=
          (Nat.lt_or_ge k (s.count base')).elim (h base' k hk) (hm.below k · hkm)
        rw [htaken, Bool.or_true, Bool.or_true]
    · rw [h base' k hk hlt, Bool.or_true, Bool.or_true]

/-- The counter stands for these ids: they are taken and no others, and the numbers leave no
gaps. -/
structure Tracks (s : SlugCounter) (ids : List String) : Prop where
  taken_iff : ∀ id, s.taken id = true ↔ id ∈ ids
  positive : s.Positive
  gapless : s.Gapless

namespace Tracks

variable {s : SlugCounter} {ids : List String}

/-- A new counter stands for no ids. -/
theorem empty : Tracks {} [] where
  taken_iff id := by simp [taken]
  positive := positive_empty
  gapless base k hk hlt := absurd hlt (by simp [count])

theorem taken_eq_false_iff (h : s.Tracks ids) (id : String) : s.taken id = false ↔ id ∉ ids := by
  rw [← h.taken_iff, Bool.not_eq_true]

theorem reserve (h : s.Tracks ids) (id : String) : (s.reserve id).Tracks (ids ++ [id]) where
  taken_iff id' := by
    rw [taken_reserve, Bool.or_eq_true, beq_iff_eq, h.taken_iff, List.mem_append,
      List.mem_singleton, or_comm]
  positive := h.positive.reserve id
  gapless := h.gapless.reserve id

theorem foldl_reserve (more : List String) : ∀ {s : SlugCounter} {ids : List String},
    s.Tracks ids → (more.foldl SlugCounter.reserve s).Tracks (ids ++ more) := by
  induction more with
  | nil => exact fun h => by rwa [List.append_nil]
  | cons id more ih =>
    intro s ids h
    rw [List.append_cons]
    exact ih (h.reserve id)

/-- A slug has been tried before any of its numbered forms: now, or when it got its number. -/
theorem mem_of_pos (h : s.Tracks ids) {base : String} {m : Nat}
    (hm : s.IsFirstFrom base (s.count base) m) (hpos : 1 ≤ m) : base ∈ ids := by
  rw [← h.taken_iff]
  rcases Nat.eq_zero_or_pos (s.count base) with hzero | hcount
  · exact hm.below 0 (Nat.le_of_eq hzero) hpos
  · by_contra hnot
    have hnone : s.counts.lookup base = none := by
      rwa [taken, Bool.not_eq_true, Option.isSome_eq_false_iff, Option.isNone_iff_eq_none] at hnot
    rw [count, hnone, Option.getD_none] at hcount
    cases hcount

/-- The first form from the number of a slug on is the first of all. -/
theorem isFirstFree (h : s.Tracks ids) {base : String} {m : Nat}
    (hm : s.IsFirstFrom base (s.count base) m) : IsFirstFree ids base (numbered base m) := by
  have hfree := (h.taken_eq_false_iff _).mp hm.free
  rcases Nat.eq_zero_or_pos m with rfl | hpos
  · exact .bare hfree
  · rw [numbered_of_pos base hpos] at hfree ⊢
    refine .numbered (h.mem_of_pos hm hpos) hpos hfree fun k hk hkm => ?_
    rw [← numbered_of_pos base hk, ← h.taken_iff]
    exact (Nat.lt_or_ge k (s.count base)).elim (h.gapless base k hk) (hm.below k · hkm)

/-- The form that is taken is the only id that is new. -/
theorem take (h : s.Tracks ids) {base : String} {m : Nat}
    (hm : s.IsFirstFrom base (s.count base) m) :
    ((s.setCount base (m + 1)).reserve (numbered base m)).Tracks (ids ++ [numbered base m]) where
  taken_iff id := by
    rw [taken_reserve, taken_setCount, Bool.or_eq_true, Bool.or_eq_true, beq_iff_eq, beq_iff_eq,
      h.taken_iff, List.mem_append, List.mem_singleton]
    constructor
    · rintro (hid | rfl | hid)
      · exact .inr hid
      · rcases Nat.eq_zero_or_pos m with rfl | hpos
        · exact .inr rfl
        · exact .inl (h.mem_of_pos hm hpos)
      · exact .inl hid
    · exact fun hid => hid.elim (.inr ∘ .inr) .inl
  positive := (h.positive.setCount _ (Nat.succ_pos m)).reserve _
  gapless := h.gapless.take hm

/-- **A slug that is asked for is the first that is free**, and it is taken from then on. -/
theorem unique (h : s.Tracks ids) (text : String) :
    IsFirstFree ids (slugBase text) (s.unique text).1 ∧
      (s.unique text).2.Tracks (ids ++ [(s.unique text).1]) := by
  obtain ⟨m, hm, hresult⟩ :=
    exists_uniqueFrom_eq h.positive (slugBase text) (Nat.lt_add_one s.counts.length)
  rw [unique_eq, hresult]
  dsimp only
  exact ⟨h.isFirstFree hm, h.take hm⟩

end Tracks

end SlugCounter

/-! ### Calls -/

/-- What is asked of a counter. -/
inductive SlugCall where
  /-- An id is reserved. -/
  | reserve (id : String)
  /-- A slug for a text is asked for. -/
  | unique (text : String)
  deriving DecidableEq, Repr

namespace SlugCounter

/-- The id that a call takes, and the counter behind it. -/
def perform (s : SlugCounter) : SlugCall → String × SlugCounter
  | .reserve id => (id, s.reserve id)
  | .unique text => s.unique text

/-- The counter behind calls. -/
def performAll (s : SlugCounter) (calls : List SlugCall) : SlugCounter :=
  calls.foldl (fun s call => (s.perform call).2) s

/-- The ids that calls take, one for each: the id that is reserved, or the slug that is returned. -/
def idsTaken (s : SlugCounter) : List SlugCall → List String
  | [] => []
  | call :: calls => (s.perform call).1 :: (s.perform call).2.idsTaken calls

/-- A call takes its id and no other. -/
theorem Tracks.perform {s : SlugCounter} {ids : List String} (h : s.Tracks ids)
    (call : SlugCall) : (s.perform call).2.Tracks (ids ++ [(s.perform call).1]) := by
  cases call with
  | reserve id => exact h.reserve id
  | unique text => exact (h.unique text).2

theorem Tracks.performAll (calls : List SlugCall) : ∀ {s : SlugCounter} {ids : List String},
    s.Tracks ids → (s.performAll calls).Tracks (ids ++ s.idsTaken calls) := by
  induction calls with
  | nil => exact fun h => by rwa [idsTaken, List.append_nil]
  | cons call calls ih =>
    intro s ids h
    rw [idsTaken, List.append_cons]
    exact ih (h.perform call)

theorem take_idsTaken (calls : List SlugCall) : ∀ (s : SlugCounter) (n : Nat),
    (s.idsTaken calls).take n = s.idsTaken (calls.take n) := by
  induction calls with
  | nil => intro s n; rw [idsTaken, List.take_nil, List.take_nil, idsTaken]
  | cons call calls ih =>
    intro s n
    cases n with
    | zero => rfl
    | succ n => rw [idsTaken, List.take_succ_cons, List.take_succ_cons, idsTaken, ih]

/-- The id that a call takes is what the counter behind the calls before gives. -/
theorem getElem?_idsTaken {call : SlugCall} {calls : List SlugCall} :
    ∀ {s : SlugCounter} {n : Nat}, calls[n]? = some call →
      (s.idsTaken calls)[n]? = some ((s.performAll (calls.take n)).perform call).1 := by
  induction calls with
  | nil => intro s n h; simp at h
  | cons first calls ih =>
    intro s n h
    cases n with
    | zero =>
      rw [List.getElem?_cons_zero, Option.some.injEq] at h
      rw [h]
      rfl
    | succ n =>
      rw [List.getElem?_cons_succ] at h
      rw [idsTaken, List.getElem?_cons_succ, ih h]
      rfl

/-- A new counter answers the calls as a set of ids would. -/
structure AnswersAsSet (calls : List SlugCall) : Prop where
  /-- Those ids are taken that have been reserved or returned. -/
  taken_iff : ∀ (n : Nat) (id : String),
    (performAll {} (calls.take n)).taken id = true ↔ id ∈ (idsTaken {} calls).take n
  /-- The slug that is returned is the one that is free first. -/
  unique_iff : ∀ (n : Nat) (text : String), calls[n]? = some (SlugCall.unique text) → ∀ id,
    (idsTaken {} calls)[n]? = some id
      ↔ IsFirstFree ((idsTaken {} calls).take n) (slugBase text) id
  /-- It is no id that has been reserved or returned before. -/
  distinct : ∀ (m n : Nat) (text : String), m < n → calls[n]? = some (SlugCall.unique text) →
    (idsTaken {} calls)[m]? ≠ (idsTaken {} calls)[n]?
  /-- The search for it ends: more rounds come to the same. -/
  ends : ∀ (n : Nat) (text : String), calls[n]? = some (SlugCall.unique text) →
    let s := performAll {} (calls.take n)
    ∀ fuel, s.counts.length < fuel →
      s.uniqueFrom (slugBase text) fuel (s.count (slugBase text)) = s.unique text

/-- **Whatever is asked of a new counter, it answers as a set of ids**: a slug that is asked for is
the one that is free first among the ids reserved or returned before, so it is none of them. -/
theorem answersAsSet (calls : List SlugCall) : AnswersAsSet calls := by
  have htracks : ∀ n, (performAll {} (calls.take n)).Tracks ((idsTaken {} calls).take n) := by
    intro n
    rw [take_idsTaken, ← List.nil_append (idsTaken {} (calls.take n))]
    exact Tracks.empty.performAll (calls.take n)
  have hfirst : ∀ (n : Nat) (text : String), calls[n]? = some (SlugCall.unique text) → ∃ id,
      (idsTaken {} calls)[n]? = some id ∧
        IsFirstFree ((idsTaken {} calls).take n) (slugBase text) id := by
    intro n text hcall
    exact ⟨_, getElem?_idsTaken hcall, ((htracks n).unique text).1⟩
  refine ⟨fun n => (htracks n).taken_iff, fun n text hcall id => ?_,
    fun m n text hmn hcall heq => ?_,
    fun n text _ fuel hfuel => uniqueFrom_eq_unique (htracks n).positive text hfuel⟩
  · obtain ⟨id', hid', hfree⟩ := hfirst n text hcall
    rw [hid', Option.some.injEq]
    exact ⟨fun h => h ▸ hfree, hfree.eq⟩
  · obtain ⟨id, hid, hfree⟩ := hfirst n text hcall
    rw [hid] at heq
    have hbefore : ((idsTaken {} calls).take n)[m]? = some id := by
      rw [List.getElem?_take_of_lt hmn, heq]
    exact hfree.not_mem (List.mem_of_getElem? hbefore)

example : idsTaken {} [.reserve "faq-2", .unique "FAQ 1", .unique "FAQ", .unique "faq"]
    = ["faq-2", "faq-1", "faq", "faq-3"] := by decide +kernel

end SlugCounter

end Folio
