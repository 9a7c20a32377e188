import Folio.Proofs.Outlines
import Mathlib.Order.Bounds.Basic

/-!
# Parents in an outline

A heading is added to an outline by a descent along its last headings, which goes on as long as
these have a lower level and stops at the first one that has not.  That the descent stops at the
closest heading of a lower level is due to the order of the outline: below a heading all levels are
higher than its own, and behind a heading come no higher ones on the same rank.  So once the descent
stops at a heading, nothing in or before it on this rank has a lower level, and once the descent
goes into a heading, what stands before that heading does not matter any more.

## Main definitions

* `Heading.parents` — for each heading, from top to bottom, the place of the one it stands below.
* `Heading.AreOrdered` — levels rise from a heading to those below it, and never rise on one rank.
* `closestLower?` — a search for the last of some levels that is lower than another.
* `IsClosestLower` — the place of that level.
* `IsOutlineOf` — an outline of a list of headings.

## Main results

* `Heading.areOrdered_insertInto` — adding a heading keeps the order.
* `Heading.parentsBelow_insertInto` — a heading is added below the closest one of a lower level.
* `isOutlineOf_outline` — **the nested outline of a document is the outline of its flat one.**
-/

namespace Folio

/-! ### The closest lower level -/

/-- The place of the last of some levels that is lower than `level`, counted from `place` at the
head of the list; `found` if there is none. -/
def closestLower? (level : Nat) : (found : Option Nat) → (place : Nat) → List Nat → Option Nat
  | found, _, [] => found
  | found, place, l :: ls =>
    closestLower? level (if l < level then some place else found) (place + 1) ls

/-- The place of the last of some levels that is lower than `level`, if there is one. -/
def IsClosestLower (levels : List Nat) (level : Nat) : Option Nat → Prop
  | some place => IsGreatest {i | ∃ l, levels[i]? = some l ∧ l < level} place
  | none => ∀ l ∈ levels, level ≤ l

section ClosestLower

variable {level : Nat}

theorem closestLower?_append (ls ls' : List Nat) : ∀ (found : Option Nat) (place : Nat),
    closestLower? level found place (ls ++ ls')
      = closestLower? level (closestLower? level found place ls) (place + ls.length) ls' := by
  induction ls with
  | nil => intro found place; rfl
  | cons l ls ih =>
    intro found place
    rw [List.cons_append, closestLower?, ih, closestLower?, List.length_cons, Nat.add_right_comm,
      Nat.add_assoc]

theorem closestLower?_of_forall {ls : List Nat} (h : ∀ l ∈ ls, level ≤ l) :
    ∀ (found : Option Nat) (place : Nat), closestLower? level found place ls = found := by
  induction ls with
  | nil => intro found place; rfl
  | cons l ls ih =>
    intro found place
    obtain ⟨hl, hls⟩ := List.forall_mem_cons.mp h
    rw [closestLower?, if_neg (Nat.not_lt.mpr hl), ih hls]

/-- The search finds the closest lower level. -/
theorem isClosestLower_closestLower? (ls : List Nat) :
    IsClosestLower ls level (closestLower? level none 0 ls) := by
  induction ls using List.reverseRecOn with
  | nil => exact List.forall_mem_nil _
  | append_singleton ls l ih =>
    rw [closestLower?_append, Nat.zero_add, closestLower?, closestLower?]
    split
    · next hl =>
      refine ⟨⟨l, by simp, hl⟩, fun i hi => ?_⟩
      obtain ⟨l', hget, -⟩ := hi
      have hplace := (List.getElem?_eq_some_iff.mp hget).1
      simp only [List.length_append, List.length_singleton] at hplace
      omega
    · next hl =>
      have hl := Nat.not_lt.mp hl
      cases hfound : closestLower? level none 0 ls with
      | none =>
        rw [hfound] at ih
        exact List.forall_mem_append.mpr ⟨ih, List.forall_mem_singleton.mpr hl⟩
      | some place =>
        rw [hfound] at ih
        obtain ⟨⟨l', hget, hlower⟩, hgreatest⟩ := ih
        have hplace := (List.getElem?_eq_some_iff.mp hget).1
        refine ⟨⟨l', by rwa [List.getElem?_append_left hplace], hlower⟩, fun i hi => ?_⟩
        obtain ⟨l'', hget', hlower'⟩ := hi
        rcases Nat.lt_or_ge i ls.length with hi | hi
        · rw [List.getElem?_append_left hi] at hget'
          exact hgreatest ⟨l'', hget', hlower'⟩
        · -- The level that was added is not lower.
          rw [List.getElem?_append_right hi] at hget'
          obtain rfl := List.mem_singleton.mp (List.mem_of_getElem? hget')
          exact absurd hlower' (Nat.not_lt.mpr hl)

end ClosestLower

namespace Heading

/-! ### Levels and parents from top to bottom -/

/-- The levels of the headings of an outline from top to bottom. -/
def levels (hs : List Heading) : List Nat := (preorder hs).map Prod.fst

/-- A heading with no headings below it. -/
def ofEntry (entry : Nat × String × String) : Heading := ⟨entry.1, entry.2.1, entry.2.2, []⟩

mutual

/-- The places of the parents of a heading, which has `place` and stands below `parent`, and of the
headings below it. -/
def parentsFrom (parent : Option Nat) (place : Nat) : Heading → List (Option Nat)
  | ⟨_, _, _, items⟩ => parent :: parentsBelow (some place) (place + 1) items

/-- The places of the parents of headings that stand below `parent`, from `place` on, and of the
headings below them. -/
def parentsBelow (parent : Option Nat) (place : Nat) : List Heading → List (Option Nat)
  | [] => []
  | h :: hs => parentsFrom parent place h ++ parentsBelow parent (place + h.entries.length) hs

end

/-- For each heading of an outline, from top to bottom, the place of the heading that it stands
below; none for a heading that stands below no other. -/
def parents (hs : List Heading) : List (Option Nat) := parentsBelow none 0 hs

mutual

/-- All headings below a heading have higher levels, and are ordered. -/
def IsOrdered : Heading → Prop
  | ⟨level, _, _, items⟩ => (∀ item ∈ items, level < item.level) ∧ AreOrdered items

/-- No heading is followed on its rank by one of a higher level, and each of them is ordered. -/
def AreOrdered : List Heading → Prop
  | [] => True
  | h :: hs => h.IsOrdered ∧ (∀ next ∈ hs.head?, next.level ≤ h.level) ∧ AreOrdered hs

end

theorem isOrdered_mk (level : Nat) (title id : String) (items : List Heading) :
    IsOrdered ⟨level, title, id, items⟩
      ↔ (∀ item ∈ items, level < item.level) ∧ AreOrdered items := by rw [IsOrdered]

@[simp] theorem areOrdered_nil : AreOrdered [] := by rw [AreOrdered]; trivial

theorem areOrdered_cons (h : Heading) (hs : List Heading) : AreOrdered (h :: hs)
    ↔ h.IsOrdered ∧ (∀ next ∈ hs.head?, next.level ≤ h.level) ∧ AreOrdered hs := by rw [AreOrdered]

theorem levels_cons (h : Heading) (hs : List Heading) :
    levels (h :: hs) = h.entries.map Prod.fst ++ levels hs := by
  rw [levels, preorder_cons, List.map_append, levels]

theorem entries_eq (h : Heading) : h.entries.map Prod.fst = h.level :: levels h.items := by
  cases h
  rw [entries_mk, List.map_cons, levels]

theorem parentsBelow_cons (parent : Option Nat) (place : Nat) (h : Heading) (hs : List Heading) :
    parentsBelow parent place (h :: hs) = parentsFrom parent place h
      ++ parentsBelow parent (place + h.entries.length) hs := by rw [parentsBelow]

theorem parentsBelow_singleton (parent : Option Nat) (place level : Nat) (title id : String)
    (items : List Heading) : parentsBelow parent place [⟨level, title, id, items⟩]
      = parent :: parentsBelow (some place) (place + 1) items := by
  rw [parentsBelow, parentsBelow, parentsFrom, List.append_nil]

mutual

/-- No heading below a heading has a lower level. -/
theorem le_of_mem_entries : ∀ {h : Heading}, h.IsOrdered →
    ∀ l ∈ h.entries.map Prod.fst, h.level ≤ l
  | ⟨level, title, id, items⟩, hord, l, hl => by
    rw [isOrdered_mk] at hord
    rw [entries_eq] at hl
    rcases List.mem_cons.mp hl with rfl | hl
    · exact Nat.le_refl _
    · exact Nat.le_of_lt (le_of_mem_levels hord.2 hord.1 l hl)

/-- The levels of a rank bound all levels below it. -/
theorem le_of_mem_levels : ∀ {hs : List Heading} {n : Nat}, AreOrdered hs →
    (∀ h ∈ hs, n ≤ h.level) → ∀ l ∈ levels hs, n ≤ l
  | [], _, _, _, l, hl => by simp [levels] at hl
  | h :: hs, n, hord, hall, l, hl => by
    rw [areOrdered_cons] at hord
    obtain ⟨hfirst, hrest⟩ := List.forall_mem_cons.mp hall
    rw [levels_cons] at hl
    rcases List.mem_append.mp hl with hl | hl
    · exact Nat.le_trans hfirst (le_of_mem_entries hord.1 l hl)
    · exact le_of_mem_levels hord.2.2 hrest l hl

end

/-! ### Adding a heading -/

variable {h : Heading}

/-- What holds of all levels on a rank holds of them after a heading is added. -/
theorem forall_level_insertInto {p : Nat → Prop} (hp : p h.level) {hs : List Heading}
    (hall : ∀ i ∈ hs, p i.level) : ∀ i ∈ h.insertInto hs, p i.level := by
  fun_induction insertInto h hs with
  | case1 => exact List.forall_mem_singleton.mpr hp
  | case2 level title id items hlt ih => simpa using hall
  | case3 level title id items hge =>
    exact List.forall_mem_append.mpr ⟨hall, List.forall_mem_singleton.mpr hp⟩
  | case4 first second rest ih =>
    obtain ⟨hfirst, hrest⟩ := List.forall_mem_cons.mp hall
    exact List.forall_mem_cons.mpr ⟨hfirst, ih hrest⟩

/-- The first heading of a rank keeps its level. -/
theorem head?_insertInto_cons (first : Heading) (rest : List Heading) :
    ∃ first', (h.insertInto (first :: rest)).head? = some first' ∧ first'.level = first.level := by
  cases rest with
  | nil =>
    cases first
    rw [insertInto]
    split <;> exact ⟨_, rfl, rfl⟩
  | cons second rest =>
    rw [insertInto]
    exact ⟨first, rfl, rfl⟩

/-- **Adding a heading keeps the order.** -/
theorem areOrdered_insertInto (hitems : h.items = []) {hs : List Heading} (hs' : AreOrdered hs) :
    AreOrdered (h.insertInto hs) := by
  have hsingle : h.IsOrdered := by
    cases h
    cases hitems
    exact (isOrdered_mk _ _ _ _).mpr ⟨List.forall_mem_nil _, areOrdered_nil⟩
  fun_induction insertInto h hs with
  | case1 => exact (areOrdered_cons _ _).mpr ⟨hsingle, by simp, areOrdered_nil⟩
  | case2 level title id items hlt ih =>
    rw [areOrdered_cons, isOrdered_mk] at hs' ⊢
    obtain ⟨⟨hbelow, hitems'⟩, hnext, -⟩ := hs'
    exact ⟨⟨forall_level_insertInto hlt hbelow, ih hitems'⟩, hnext, areOrdered_nil⟩
  | case3 level title id items hge =>
    rw [areOrdered_cons] at hs' ⊢
    refine ⟨hs'.1, ?_, (areOrdered_cons _ _).mpr ⟨hsingle, by simp, areOrdered_nil⟩⟩
    simpa using hge
  | case4 first second rest ih =>
    rw [areOrdered_cons] at hs' ⊢
    obtain ⟨hfirst, hnext, hrest⟩ := hs'
    obtain ⟨second', hhead, hlevel⟩ := head?_insertInto_cons (h := h) second rest
    refine ⟨hfirst, ?_, ih hrest⟩
    rw [hhead]
    simpa [hlevel] using hnext

/-- **A heading is added below the closest one before it that has a lower level.** -/
theorem parentsBelow_insertInto (hitems : h.items = []) {hs : List Heading} (hs' : AreOrdered hs) :
    ∀ (parent : Option Nat) (place : Nat), parentsBelow parent place (h.insertInto hs)
      = parentsBelow parent place hs ++ [closestLower? h.level parent place (levels hs)] := by
  have hsingle : ∀ (parent : Option Nat) (place : Nat),
      parentsBelow parent place [h] = [parent] := by
    intro parent place
    cases h
    cases hitems
    rw [parentsBelow_singleton, parentsBelow]
  fun_induction insertInto h hs with
  | case1 => exact hsingle
  | case2 level title id items hlt ih =>
    -- The descent goes on, so what stands before the last heading does not matter.
    intro parent place
    rw [areOrdered_cons, isOrdered_mk] at hs'
    rw [parentsBelow_singleton, ih hs'.1.2, parentsBelow_singleton, levels_cons, entries_eq,
      List.cons_append, List.cons_append, closestLower?, if_pos hlt]
    simp [levels]
  | case3 level title id items hge =>
    -- The descent stops, and no heading on this rank or below it has a lower level.
    intro parent place
    have hall := le_of_mem_levels hs' (List.forall_mem_singleton.mpr (Nat.not_lt.mp hge))
    rw [closestLower?_of_forall hall, parentsBelow_cons, hsingle, parentsBelow_cons, parentsBelow,
      List.append_nil]
  | case4 first second rest ih =>
    intro parent place
    rw [areOrdered_cons] at hs'
    obtain ⟨hfirst, hnext, hrest⟩ := hs'
    have hnext : second.level ≤ first.level := by simpa using hnext
    have hskip : closestLower? h.level parent place (levels (first :: second :: rest))
        = closestLower? h.level parent (place + first.entries.length)
            (levels (second :: rest)) := by
      rw [levels_cons, closestLower?_append, List.length_map]
      by_cases hlt : first.level < h.level
      · -- The second heading is lower too, and closer than all in the first one.
        have hlt' := Nat.lt_of_le_of_lt hnext hlt
        rw [levels_cons, entries_eq second, List.cons_append, closestLower?, closestLower?,
          if_pos hlt', if_pos hlt']
      · have hall : ∀ l ∈ first.entries.map Prod.fst, h.level ≤ l := fun l hl =>
          Nat.le_trans (Nat.not_lt.mp hlt) (le_of_mem_entries hfirst l hl)
        rw [closestLower?_of_forall hall]
    rw [parentsBelow_cons, ih hrest, hskip, parentsBelow_cons parent place first,
      List.append_assoc]

/-! ### Adding all headings -/

/-- The headings that have been added are ordered, and each has the parent that it got. -/
structure IsBuiltFrom (nested hs : List Heading) : Prop where
  ordered : AreOrdered nested
  levels : levels nested = hs.map level
  length : (parents nested).length = hs.length
  parents : ∀ i h, hs[i]? = some h → ∃ parent, (parents nested)[i]? = some parent ∧
    IsClosestLower ((hs.take i).map level) h.level parent

theorem IsBuiltFrom.nil : IsBuiltFrom [] [] where
  ordered := areOrdered_nil
  levels := rfl
  length := by
    rw [Heading.parents, parentsBelow]
    rfl
  parents i h hi := by simp at hi

/-- One more heading. -/
theorem IsBuiltFrom.insertInto {nested hs : List Heading} (hbuilt : IsBuiltFrom nested hs)
    (hitems : h.items = []) : IsBuiltFrom (h.insertInto nested) (hs ++ [h]) := by
  have hparents : Heading.parents (h.insertInto nested) = Heading.parents nested
      ++ [closestLower? h.level none 0 (hs.map level)] := by
    rw [Heading.parents, parentsBelow_insertInto hitems hbuilt.ordered, hbuilt.levels,
      Heading.parents]
  have hlevels : Heading.levels (h.insertInto nested) = (hs ++ [h]).map level := by
    rw [Heading.levels, preorder_insertInto, List.map_append, ← Heading.levels, hbuilt.levels,
      entries_eq, hitems, List.map_append]
    rfl
  refine ⟨areOrdered_insertInto hitems hbuilt.ordered, hlevels, ?_, fun i h' hi => ?_⟩
  · simp [hparents, hbuilt.length]
  · rw [hparents]
    rcases Nat.lt_or_ge i hs.length with hlt | hge
    · rw [List.getElem?_append_left hlt] at hi
      obtain ⟨parent, hget, hclosest⟩ := hbuilt.parents i h' hi
      refine ⟨parent, ?_, ?_⟩
      · rwa [List.getElem?_append_left (by rwa [hbuilt.length])]
      · rwa [List.take_append_of_le_length (Nat.le_of_lt hlt)]
    · -- The heading that has been added is the last one.
      rw [List.getElem?_append_right hge] at hi
      obtain rfl : i = hs.length := by
        have hplace := (List.getElem?_eq_some_iff.mp hi).1
        simp only [List.length_singleton] at hplace
        omega
      obtain rfl : h = h' := by simpa using hi
      refine ⟨closestLower? h.level none 0 (hs.map level), ?_, ?_⟩
      · rw [List.getElem?_append_right (Nat.le_of_eq hbuilt.length), hbuilt.length, Nat.sub_self]
        rfl
      · rw [List.take_left]
        exact isClosestLower_closestLower? _

theorem isBuiltFrom_foldl (hs : List Heading) : ∀ {nested done : List Heading},
    IsBuiltFrom nested done → (∀ h ∈ hs, h.items = []) →
      IsBuiltFrom (hs.foldl (fun items h => h.insertInto items) nested) (done ++ hs) := by
  induction hs with
  | nil =>
    intro nested done hbuilt _
    rwa [List.append_nil]
  | cons h hs ih =>
    intro nested done hbuilt hitems
    obtain ⟨hh, hhs⟩ := List.forall_mem_cons.mp hitems
    rw [List.foldl_cons, List.append_cons]
    exact ih (hbuilt.insertInto hh) hhs

/-- Headings without headings below them are what their entries say. -/
theorem map_ofEntry_preorder {hs : List Heading} (hitems : ∀ h ∈ hs, h.items = []) :
    (preorder hs).map ofEntry = hs := by
  induction hs with
  | nil => rfl
  | cons h hs ih =>
    obtain ⟨hh, hhs⟩ := List.forall_mem_cons.mp hitems
    rw [preorder_cons, List.map_append, ih hhs]
    cases h
    cases hh
    rw [entries_mk, preorder_nil]
    rfl

end Heading

/-! ### The outline of a document -/

/-- A nested outline of a list of headings. -/
structure IsOutlineOf (nested flat : List Heading) : Prop where
  /-- From top to bottom the outline lists the headings, each without those below it. -/
  listed : (Heading.preorder nested).map Heading.ofEntry = flat
  /-- The parent of a heading is the closest one before it that has a lower level; without such a
  heading it has no parent. -/
  parents : ∀ i h, flat[i]? = some h → ∃ parent, (Heading.parents nested)[i]? = some parent ∧
    IsClosestLower ((flat.take i).map Heading.level) h.level parent
  /-- Levels rise from a heading to those below it, and never rise on one rank. -/
  ordered : Heading.AreOrdered nested

theorem items_of_mem_flatOutline {ts : List Token} : ∀ h ∈ flatOutline ts, h.items = [] := by
  induction ts with
  | nil => exact List.forall_mem_nil _
  | cons t ts ih =>
    cases hlevel : t.headingLevel? with
    | none => rwa [flatOutline_cons_none hlevel]
    | some level =>
      rw [flatOutline_cons_some hlevel]
      exact List.forall_mem_cons.mpr ⟨rfl, ih⟩

/-- **The nested outline of a document is the outline of its flat one.** -/
theorem isOutlineOf_outline (ts : List Token) :
    IsOutlineOf (outline false ts) (outline true ts) := by
  have hitems : ∀ h ∈ flatOutline ts, h.items = [] := items_of_mem_flatOutline
  have hbuilt := Heading.isBuiltFrom_foldl (flatOutline ts) .nil hitems
  rw [List.nil_append] at hbuilt
  refine ⟨?_, hbuilt.parents, hbuilt.ordered⟩
  rw [preorder_outline, Heading.map_ofEntry_preorder hitems]
  rfl

/-- Behind a deep heading, one that has no lower one before it stands below no other. -/
example : Heading.parents (outline false
    [.opening (.heading 3) 0, .opening (.heading 2) 0, .opening (.heading 4) 0])
      = [none, none, some 1] := by
  cbv

end Folio
