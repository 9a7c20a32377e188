import Folio.Proofs.HeadingPass
import Folio.Proofs.SlugSet

/-!
# Slugs are fresh

The ids that headings already have, also those further down, are taken before the first slug is.
Then each heading without an id gets the first form of its slug that is free, in the order of the
document.  So a slug that is given is none of the ids that headings had, and none that has been
given before.

## Main definitions

* `Anchors.lacksId` — the token begins a heading without an id.
* `Anchors.generatedIn`, `Anchors.generatedIds` — the ids of the headings that had none.
* `Anchors.GivesIds` — the headings that had no id have got one, and nothing else has changed.

## Main results

* `Anchors.nodup_generatedFrom` — no slug is given twice.
* `Anchors.count_explicitIds_revise` — **every generated id belongs to one heading only.**
* `Anchors.givesIds_revise` — **the headings without an id get the first free forms of their slugs,
  and nothing else changes.**
-/

namespace Folio

/-- A new attribute goes to the end. -/
theorem Attributes.set_of_get?_eq_none {attrs : Attributes} {name : String}
    (h : attrs.get? name = none) (value : String) :
    attrs.set name value = attrs ++ [(name, value)] := by
  induction attrs with
  | nil => rfl
  | cons p attrs ih =>
    obtain ⟨n, v⟩ := p
    rw [get?, List.lookup_cons] at h
    split at h
    · cases h
    · next hname =>
      have hne : (n == name) = false := by
        rw [beq_eq_false_iff_ne] at hname ⊢
        exact Ne.symm hname
      rw [set, if_neg (by simp [hne]), ih h, List.cons_append]

namespace Plugin.Anchors

/-! ### Headings without an id -/

/-- The token begins a heading without an id. -/
def lacksId (t : Token) : Bool := t.headingLevel?.isSome && (t.attr? "id").isNone

theorem lacksId_eq_true_iff {t : Token} :
    lacksId t = true ↔ t.headingLevel?.isSome = true ∧ t.attr? "id" = none := by
  rw [lacksId, Bool.and_eq_true, Option.isNone_iff_eq_none]

theorem assign_of_lacksId {t : Token} (h : lacksId t = true) (slugs : SlugCounter)
    (ts : List Token) : assign slugs (t :: ts)
      = t.setAttr "id" (slugs.unique (runText ts)).1
        :: assign (slugs.unique (runText ts)).2 ts := by
  rw [lacksId] at h
  rw [assign, if_pos h]

theorem assign_of_not_lacksId {t : Token} (h : lacksId t = false) (slugs : SlugCounter)
    (ts : List Token) : assign slugs (t :: ts) = t :: assign slugs ts := by
  rw [lacksId] at h
  rw [assign, h, if_neg Bool.false_ne_true]

theorem length_assign (ts : List Token) : ∀ slugs, (assign slugs ts).length = ts.length := by
  induction ts with
  | nil => exact fun _ => rfl
  | cons t ts ih =>
    intro slugs
    cases ht : lacksId t with
    | true => rw [assign_of_lacksId ht, List.length_cons, List.length_cons, ih]
    | false => rw [assign_of_not_lacksId ht, List.length_cons, List.length_cons, ih]

/-! ### The ids that are given -/

/-- The ids that tokens have, where the tokens before begin headings without one. -/
def generatedIn (before after : List Token) : List String :=
  (before.zip after).filterMap fun p => if lacksId p.1 then p.2.attr? "id" else none

/-- The ids that the headings get that have none, with these slugs taken. -/
def generatedFrom (slugs : SlugCounter) (ts : List Token) : List String :=
  generatedIn ts (assign slugs ts)

/-- The ids that the headings of a document get that have none. -/
def generatedIds (ts : List Token) : List String := generatedIn ts (revise ts)

theorem generatedIn_cons_of_lacksId {t : Token} (h : lacksId t = true) (id : String)
    (ts out : List Token) :
    generatedIn (t :: ts) (t.setAttr "id" id :: out) = id :: generatedIn ts out := by
  rw [generatedIn, List.zip_cons_cons]
  refine List.filterMap_cons_some ?_
  rw [if_pos h, Token.attr?_setAttr]

theorem generatedIn_cons_of_not_lacksId {t : Token} (h : lacksId t = false) (t' : Token)
    (ts out : List Token) : generatedIn (t :: ts) (t' :: out) = generatedIn ts out := by
  rw [generatedIn, List.zip_cons_cons]
  exact List.filterMap_cons_none (by rw [h]; rfl)

theorem generatedFrom_of_lacksId {t : Token} (h : lacksId t = true) (slugs : SlugCounter)
    (ts : List Token) : generatedFrom slugs (t :: ts)
      = (slugs.unique (runText ts)).1 :: generatedFrom (slugs.unique (runText ts)).2 ts := by
  rw [generatedFrom, assign_of_lacksId h, generatedIn_cons_of_lacksId h, generatedFrom]

theorem generatedFrom_of_not_lacksId {t : Token} (h : lacksId t = false) (slugs : SlugCounter)
    (ts : List Token) : generatedFrom slugs (t :: ts) = generatedFrom slugs ts := by
  rw [generatedFrom, assign_of_not_lacksId h, generatedIn_cons_of_not_lacksId h, generatedFrom]

/-- **No slug is given twice**, and none that was taken before. -/
theorem nodup_generatedFrom (ts : List Token) : ∀ {slugs : SlugCounter} {taken : List String},
    slugs.Tracks taken →
      (generatedFrom slugs ts).Nodup ∧ ∀ id ∈ generatedFrom slugs ts, id ∉ taken := by
  induction ts with
  | nil => exact fun _ => ⟨List.nodup_nil, List.forall_mem_nil _⟩
  | cons t ts ih =>
    intro slugs taken hslugs
    cases ht : lacksId t with
    | false =>
      rw [generatedFrom_of_not_lacksId ht]
      exact ih hslugs
    | true =>
      obtain ⟨hfirst, htracks⟩ := hslugs.unique (runText ts)
      obtain ⟨hnodup, hfresh⟩ := ih htracks
      rw [generatedFrom_of_lacksId ht]
      refine ⟨List.nodup_cons.mpr ⟨fun hmem => ?_, hnodup⟩, List.forall_mem_cons.mpr
        ⟨hfirst.not_mem, fun id hid hmem => ?_⟩⟩
      · exact hfresh _ hmem (List.mem_append_right _ (List.mem_singleton_self _))
      · exact hfresh id hid (List.mem_append_left _ hmem)

/-- The ids of the headings are those that they had and those that they got. -/
theorem count_explicitIds_assign (id : String) (ts : List Token) : ∀ slugs,
    (explicitIds (assign slugs ts)).count id
      = (generatedFrom slugs ts).count id + (explicitIds ts).count id := by
  induction ts with
  | nil => exact fun _ => rfl
  | cons t ts ih =>
    intro slugs
    cases ht : lacksId t with
    | true =>
      obtain ⟨hl, hid⟩ := lacksId_eq_true_iff.mp ht
      have hset : ∀ value : String, (t.setAttr "id" value).headingLevel?.isSome = true :=
        fun _ => hl
      have hnew : explicitIds (assign slugs (t :: ts)) = (slugs.unique (runText ts)).1
          :: explicitIds (assign (slugs.unique (runText ts)).2 ts) := by
        rw [assign_of_lacksId ht]
        refine List.filterMap_cons_some ?_
        rw [if_pos (hset _), Token.attr?_setAttr]
      have hold : explicitIds (t :: ts) = explicitIds ts :=
        List.filterMap_cons_none (by rw [if_pos hl, hid])
      rw [hnew, hold, generatedFrom_of_lacksId ht, List.count_cons, List.count_cons, ih]
      omega
    | false =>
      rw [assign_of_not_lacksId ht, generatedFrom_of_not_lacksId ht, explicitIds, explicitIds,
        List.filterMap_cons, List.filterMap_cons]
      split
      · exact ih slugs
      · rw [List.count_cons, List.count_cons]
        have htail := ih slugs
        rw [explicitIds, explicitIds] at htail
        rw [htail, Nat.add_assoc]

/-- The counter that the headings are given their ids by stands for the ids that they have. -/
theorem tracks_explicitIds (ts : List Token) :
    ((explicitIds ts).foldl SlugCounter.reserve {}).Tracks (explicitIds ts) :=
  SlugCounter.Tracks.empty.foldl_reserve (explicitIds ts)

/-- **Every generated id belongs to one heading only.** -/
theorem count_explicitIds_revise {ts : List Token} {id : String} (hid : id ∈ generatedIds ts) :
    (explicitIds (revise ts)).count id = 1 := by
  obtain ⟨hnodup, hfresh⟩ := nodup_generatedFrom ts (tracks_explicitIds ts)
  have hgenerated : id ∈ generatedFrom ((explicitIds ts).foldl SlugCounter.reserve {}) ts := hid
  rw [revise, count_explicitIds_assign, List.count_eq_one_of_mem hnodup hgenerated,
    List.count_eq_zero_of_not_mem (hfresh id hgenerated)]

/-! ### The tokens -/

theorem getElem?_assign_of_not_lacksId {t : Token} (ht : lacksId t = false) {ts : List Token} :
    ∀ {slugs : SlugCounter} {i : Nat}, ts[i]? = some t → (assign slugs ts)[i]? = some t := by
  induction ts with
  | nil => intro slugs i h; simp at h
  | cons u ts ih =>
    intro slugs i h
    cases i with
    | zero =>
      obtain rfl : u = t := by simpa using h
      rw [assign_of_not_lacksId ht, List.getElem?_cons_zero]
    | succ i =>
      rw [List.getElem?_cons_succ] at h
      cases hu : lacksId u with
      | true => rw [assign_of_lacksId hu, List.getElem?_cons_succ, ih h]
      | false => rw [assign_of_not_lacksId hu, List.getElem?_cons_succ, ih h]

/-- A heading without an id gets the form of its slug that is free first among the ids that were
taken and those that headings before it have got. -/
theorem exists_getElem?_assign {t : Token} (ht : lacksId t = true) {ts : List Token} :
    ∀ {slugs : SlugCounter} {taken : List String} {i : Nat}, slugs.Tracks taken →
      ts[i]? = some t → ∃ id, (assign slugs ts)[i]? = some (t.setAttr "id" id) ∧
        IsFirstFree (taken ++ generatedIn (ts.take i) ((assign slugs ts).take i))
          (slugBase (runText (ts.drop (i + 1)))) id := by
  induction ts with
  | nil => intro slugs taken i _ h; simp at h
  | cons u ts ih =>
    intro slugs taken i hslugs h
    cases i with
    | zero =>
      obtain rfl : u = t := by simpa using h
      refine ⟨(slugs.unique (runText ts)).1, ?_, ?_⟩
      · rw [assign_of_lacksId ht, List.getElem?_cons_zero]
      · rw [List.take_zero, List.take_zero, generatedIn, List.zip_nil_left, List.filterMap_nil,
          List.append_nil]
        exact (hslugs.unique (runText ts)).1
    | succ i =>
      rw [List.getElem?_cons_succ] at h
      cases hu : lacksId u with
      | false =>
        obtain ⟨id, hget, hfirst⟩ := ih hslugs h
        refine ⟨id, ?_, ?_⟩
        · rw [assign_of_not_lacksId hu, List.getElem?_cons_succ, hget]
        · rwa [assign_of_not_lacksId hu, List.take_succ_cons, List.take_succ_cons,
            generatedIn_cons_of_not_lacksId hu, List.drop_succ_cons]
      | true =>
        -- What this heading gets is taken for those behind it.
        obtain ⟨id, hget, hfirst⟩ := ih (hslugs.unique (runText ts)).2 h
        refine ⟨id, ?_, ?_⟩
        · rw [assign_of_lacksId hu, List.getElem?_cons_succ, hget]
        · rwa [assign_of_lacksId hu, List.take_succ_cons, List.take_succ_cons,
            generatedIn_cons_of_lacksId hu, List.drop_succ_cons, List.append_cons]

/-- The headings that had no id have got one, and nothing else has changed. -/
structure GivesIds (ts out : List Token) : Prop where
  /-- There are as many tokens. -/
  length_eq : out.length = ts.length
  /-- A token that begins no heading, or a heading with an id, is as it was. -/
  kept : ∀ (i : Nat) (t : Token), ts[i]? = some t → lacksId t = false → out[i]? = some t
  /-- A heading without an id gets a new attribute and no other change: the form of its slug that
  is free first among the ids of all headings and those that headings before it have got. -/
  given : ∀ (i : Nat) (t : Token), ts[i]? = some t → lacksId t = true → ∃ id,
    out[i]? = some { t with attrs := t.attrs ++ [("id", id)] } ∧ id ≠ "" ∧ id ∉ explicitIds ts ∧
      IsFirstFree (explicitIds ts ++ generatedIn (ts.take i) (out.take i))
        (slugBase (runText (ts.drop (i + 1)))) id
  /-- No two headings get the same. -/
  nodup : (generatedIn ts out).Nodup
  /-- Every heading has an id. -/
  present : ∀ t ∈ out, t.headingLevel?.isSome = true → (t.attr? "id").isSome = true

/-- **The headings without an id get the first free forms of their slugs**, and nothing else
changes. -/
theorem givesIds_revise (ts : List Token) : GivesIds ts (revise ts) := by
  have hslugs := tracks_explicitIds ts
  have hkept : ∀ (i : Nat) (t : Token), ts[i]? = some t → lacksId t = false →
      (revise ts)[i]? = some t := fun i t h ht => getElem?_assign_of_not_lacksId ht h
  have hgiven : ∀ (i : Nat) (t : Token), ts[i]? = some t → lacksId t = true → ∃ id,
      (revise ts)[i]? = some (t.setAttr "id" id) ∧
        IsFirstFree (explicitIds ts ++ generatedIn (ts.take i) ((revise ts).take i))
          (slugBase (runText (ts.drop (i + 1)))) id :=
    fun i t h ht => exists_getElem?_assign ht hslugs h
  refine ⟨length_assign ts _, hkept, fun i t h ht => ?_, (nodup_generatedFrom ts hslugs).1,
    fun t' ht' hlevel => ?_⟩
  · obtain ⟨id, hget, hfirst⟩ := hgiven i t h ht
    rw [Token.setAttr, Attributes.set_of_get?_eq_none (lacksId_eq_true_iff.mp ht).2] at hget
    exact ⟨id, hget, hfirst.ne_empty, fun hmem => hfirst.not_mem (List.mem_append_left _ hmem),
      hfirst⟩
  · obtain ⟨i, hi⟩ := List.mem_iff_getElem?.mp ht'
    have hlt : i < ts.length := by
      rw [← length_assign ts]
      exact (List.getElem?_eq_some_iff.mp hi).1
    cases ht : lacksId ts[i] with
    | true =>
      obtain ⟨id, hget, -⟩ := hgiven i ts[i] (List.getElem?_eq_getElem hlt) ht
      obtain rfl := Option.some.inj (hi.symm.trans hget)
      rw [Token.attr?_setAttr]
      rfl
    | false =>
      have hget := hkept i ts[i] (List.getElem?_eq_getElem hlt) ht
      obtain rfl := Option.some.inj (hi.symm.trans hget)
      rwa [lacksId, hlevel, Bool.true_and, Option.isNone_eq_false_iff] at ht

end Plugin.Anchors

end Folio
