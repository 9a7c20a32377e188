/-!
# Sets of code points

A property of characters is given by the code points that have it, as inclusive ranges in
increasing order.

## Main definitions

* `Ranges` — a set of code points.
* `Ranges.contains` — membership.
-/

namespace Folio.Text

/-- A set of code points: inclusive ranges in increasing order. -/
abbrev Ranges := List (Nat × Nat)

/-- `n` lies in one of the ranges.  The search ends at the first range that begins above `n`. -/
def Ranges.contains : Ranges → Nat → Bool
  | [], _ => false
  | (lo, hi) :: rest, n => if n < lo then false else n ≤ hi || Ranges.contains rest n

@[simp] theorem Ranges.contains_nil (n : Nat) : Ranges.contains [] n = false := rfl

/-- A code point in the set lies in one of its ranges. -/
theorem Ranges.exists_of_contains {r : Ranges} {n : Nat} (h : r.contains n = true) :
    ∃ p ∈ r, p.1 ≤ n ∧ n ≤ p.2 := by
  induction r with
  | nil => simp at h
  | cons p rest ih =>
    obtain ⟨lo, hi⟩ := p
    unfold Ranges.contains at h
    split at h
    · simp at h
    · rename_i hlo
      rcases Bool.or_eq_true_iff.1 h with hn | hr
      · exact ⟨(lo, hi), by simp, by omega, by simpa using hn⟩
      · obtain ⟨q, hq, hl, hu⟩ := ih hr
        exact ⟨q, List.mem_cons_of_mem _ hq, hl, hu⟩

end Folio.Text
