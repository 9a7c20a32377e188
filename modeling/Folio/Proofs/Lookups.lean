import Mathlib.Data.List.Basic

/-!
# Lists of keys and values

What is found under a key where the pairs under one key give way to a new pair.

## Main results

* `lookup_replaced` — the value of a key behind a replacement.
-/

namespace Folio

variable {κ ν : Type} [BEq κ] [LawfulBEq κ]

/-- The pairs under one key do not matter for another key. -/
theorem lookup_filter_ne {key k : κ} (h : k ≠ key) (pairs : List (κ × ν)) :
    (pairs.filter fun p => p.1 != key).lookup k = pairs.lookup k := by
  induction pairs with
  | nil => rfl
  | cons p pairs ih =>
    by_cases hp : p.1 = key
    · rw [List.filter_cons_of_neg (by simp [hp]), ih, List.lookup_cons, beq_false_of_ne (hp ▸ h)]
    · rw [List.filter_cons_of_pos (by simpa using hp), List.lookup_cons, List.lookup_cons, ih]

/-- Behind a replacement the new value is found under its key, and all other keys have the values
that they had. -/
theorem lookup_replaced [DecidableEq κ] (key k : κ) (value : ν) (pairs : List (κ × ν)) :
    ((key, value) :: pairs.filter fun p => p.1 != key).lookup k
      = if k = key then some value else pairs.lookup k := by
  by_cases hk : k = key
  · rw [if_pos hk, hk, List.lookup_cons, beq_self_eq_true]
  · rw [if_neg hk, List.lookup_cons, beq_false_of_ne hk]
    exact lookup_filter_ne hk pairs

end Folio
