import Mathlib.Data.List.Basic

/-!
# Words of brackets

The tokens of a document, the tags of a page and the events of a reader all open and close
things.  What they have in common is a word of brackets, each with a key that says what it opens
or closes.  A word is balanced when a stack of keys explains every closing bracket and is empty
at the end.

## Main definitions

* `BracketOf` — an opening or a closing bracket with its key.
* `BracketOf.scan` — the stack after a word.
* `BracketOf.IsBalanced` — the word takes the empty stack to the empty stack.
* `BracketOf.excess` — how many more brackets of a word open than close.

## Main results

* `BracketOf.exists_closing_of_scan` — a key that a word takes off the stack is taken off by one
  closing bracket, and the word before that bracket is balanced.
* `BracketOf.scan_flatMap` — replacing brackets by brackets with other keys, and all else by
  balanced words, keeps a word balanced.
-/

namespace Folio

/-- An opening or a closing bracket. -/
inductive BracketOf (κ : Type) where
  | opening (key : κ)
  | closing (key : κ)
  deriving DecidableEq, Repr

namespace BracketOf

variable {κ μ : Type}

/-- The bracket with its key replaced; none if the new key is none. -/
def map? (f : κ → Option μ) : BracketOf κ → Option (BracketOf μ)
  | .opening k => (f k).map .opening
  | .closing k => (f k).map .closing

section Scan

variable [DecidableEq κ]

/-- The stack of open keys after a word, innermost first; none if a closing bracket does not
close the innermost one. -/
def scan : List κ → List (BracketOf κ) → Option (List κ)
  | stack, [] => some stack
  | stack, .opening k :: bs => scan (k :: stack) bs
  | [], .closing _ :: _ => none
  | top :: stack, .closing k :: bs => if top = k then scan stack bs else none

/-- Every opening bracket has its closing bracket. -/
def IsBalanced (bs : List (BracketOf κ)) : Prop := scan [] bs = some []

instance (bs : List (BracketOf κ)) : Decidable (IsBalanced bs) :=
  inferInstanceAs (Decidable (scan [] bs = some []))

@[simp] theorem scan_nil (stack : List κ) : scan stack [] = some stack := by
  cases stack <;> rfl

@[simp] theorem scan_opening (stack : List κ) (k : κ) (bs : List (BracketOf κ)) :
    scan stack (.opening k :: bs) = scan (k :: stack) bs := by
  cases stack <;> rfl

@[simp] theorem scan_closing_nil (k : κ) (bs : List (BracketOf κ)) :
    scan [] (.closing k :: bs) = none := rfl

@[simp] theorem scan_closing_cons (top k : κ) (stack : List κ) (bs : List (BracketOf κ)) :
    scan (top :: stack) (.closing k :: bs) = if top = k then scan stack bs else none := rfl

theorem scan_append (stack : List κ) (xs ys : List (BracketOf κ)) :
    scan stack (xs ++ ys) = (scan stack xs).bind fun s => scan s ys := by
  induction xs generalizing stack with
  | nil => simp
  | cons b xs ih =>
    cases b with
    | opening k => simp [ih]
    | closing k =>
      cases stack with
      | nil => rfl
      | cons top stack =>
        by_cases h : top = k
        · simp [h, ih]
        · simp [h]

theorem scan_append_of_eq {stack s : List κ} {xs : List (BracketOf κ)} (h : scan stack xs = some s)
    (ys : List (BracketOf κ)) : scan stack (xs ++ ys) = scan s ys := by
  rw [scan_append, h]
  rfl

/-- What lies below the keys that a word needs makes no difference. -/
theorem scan_append_stack : ∀ {bs : List (BracketOf κ)} {stack s : List κ},
    scan stack bs = some s → ∀ below, scan (stack ++ below) bs = some (s ++ below) := by
  intro bs
  induction bs with
  | nil => intro stack s h below; simp_all
  | cons b bs ih =>
    intro stack s h below
    cases b with
    | opening k =>
      rw [scan_opening] at h ⊢
      exact ih h below
    | closing k =>
      cases stack with
      | nil => simp at h
      | cons top stack =>
        rw [scan_closing_cons] at h
        split at h
        · next htop =>
          rw [List.cons_append, scan_closing_cons, if_pos htop]
          exact ih h below
        · simp at h

/-! ### Balanced words -/

theorem balanced_nil : IsBalanced ([] : List (BracketOf κ)) := rfl

theorem IsBalanced.scan_eq {bs : List (BracketOf κ)} (h : IsBalanced bs) (stack : List κ) :
    scan stack bs = some stack := by
  simpa using scan_append_stack h stack

theorem IsBalanced.scan_append {bs : List (BracketOf κ)} (h : IsBalanced bs) (stack : List κ)
    (rest : List (BracketOf κ)) : scan stack (bs ++ rest) = scan stack rest :=
  scan_append_of_eq (h.scan_eq stack) rest

theorem IsBalanced.append {xs ys : List (BracketOf κ)} (hx : IsBalanced xs) (hy : IsBalanced ys) :
    IsBalanced (xs ++ ys) := by
  unfold IsBalanced
  rw [hx.scan_append, hy]

/-- A balanced word between two brackets of one key is balanced. -/
theorem IsBalanced.enclose {bs : List (BracketOf κ)} (h : IsBalanced bs) (k : κ) :
    IsBalanced (.opening k :: bs ++ [BracketOf.closing k]) := by
  unfold IsBalanced
  rw [List.cons_append, scan_opening, h.scan_append]
  simp

/-- What stands around a balanced word is balanced without it as it is with it. -/
theorem scan_remove {m : List (BracketOf κ)} (hm : IsBalanced m) (stack : List κ)
    (xs ys : List (BracketOf κ)) : scan stack (xs ++ m ++ ys) = scan stack (xs ++ ys) := by
  rw [List.append_assoc, BracketOf.scan_append, BracketOf.scan_append stack xs ys]
  cases scan stack xs with
  | none => rfl
  | some s => exact hm.scan_append s ys

theorem balanced_remove {m xs ys : List (BracketOf κ)} (hm : IsBalanced m) :
    IsBalanced (xs ++ m ++ ys) ↔ IsBalanced (xs ++ ys) := by
  unfold IsBalanced
  rw [scan_remove hm]

/-- **A key that a word takes off the stack has its closing bracket**, and the word before that
bracket is balanced. -/
theorem exists_closing_of_scan : ∀ {bs : List (BracketOf κ)} {k : κ} {stack s : List κ},
    scan (k :: stack) bs = some s → s.length ≤ stack.length →
      ∃ body rest, bs = body ++ BracketOf.closing k :: rest ∧ IsBalanced body ∧
        scan stack rest = some s := by
  intro bs
  -- Strong induction on the length: the word behind an inner pair is scanned next.
  induction hn : bs.length using Nat.strongRecOn generalizing bs with
  | ind n ih =>
    intro k stack s h hlen
    cases bs with
    | nil =>
      simp only [scan_nil, Option.some.injEq] at h
      subst h
      simp only [List.length_cons] at hlen
      omega
    | cons b bs =>
      cases b with
      | closing k' =>
        rw [scan_closing_cons] at h
        split at h
        · next hk => exact ⟨[], bs, by simp [hk], balanced_nil, h⟩
        · simp at h
      | opening k' =>
        rw [scan_opening] at h
        simp only [List.length_cons] at hn
        obtain ⟨inner, rest, rfl, hinner, hrest⟩ :=
          ih bs.length (by omega) rfl h (by simp; omega)
        simp only [List.length_append, List.length_cons] at hn
        obtain ⟨body, rest', rfl, hbody, hrest'⟩ :=
          ih rest.length (by omega) rfl hrest hlen
        refine ⟨.opening k' :: inner ++ [BracketOf.closing k'] ++ body, rest', by simp, ?_, hrest'⟩
        exact (hinner.enclose k').append hbody

/-! ### Replacing brackets -/

/-- A step of a scan with the keys replaced. -/
theorem scan_map? [DecidableEq μ] (f : κ → Option μ) {b : BracketOf κ} {stack s : List κ}
    (h : scan stack [b] = some s) :
    scan (stack.filterMap f) (b.map? f).toList = some (s.filterMap f) := by
  cases b with
  | opening k =>
    simp only [scan_opening, scan_nil, Option.some.injEq] at h
    subst h
    cases hk : f k <;> simp [map?, hk]
  | closing k =>
    cases stack with
    | nil => simp at h
    | cons top stack =>
      rw [scan_closing_cons] at h
      split at h
      · next htop =>
        simp only [scan_nil, Option.some.injEq] at h
        subst h
        subst htop
        cases hk : f top <;> simp [map?, hk]
      · simp at h

/-- **Brackets become brackets with other keys or vanish, all else becomes balanced words**: a
scan of the first word then becomes a scan of the second. -/
theorem scan_flatMap [DecidableEq μ] {α : Type} (f : κ → Option μ)
    (bracket? : α → Option (BracketOf κ))
    (word : α → List (BracketOf μ)) {xs : List α}
    (hsome : ∀ x ∈ xs, ∀ b, bracket? x = some b → word x = (b.map? f).toList)
    (hnone : ∀ x ∈ xs, bracket? x = none → IsBalanced (word x)) :
    ∀ {stack s : List κ}, scan stack (xs.filterMap bracket?) = some s →
      scan (stack.filterMap f) (xs.flatMap word) = some (s.filterMap f) := by
  induction xs with
  | nil => intro stack s h; simp_all
  | cons x xs ih =>
    intro stack s h
    have hsome' : ∀ y ∈ xs, ∀ b, bracket? y = some b → word y = (b.map? f).toList :=
      fun y hy => hsome y (List.mem_cons_of_mem x hy)
    have hnone' : ∀ y ∈ xs, bracket? y = none → IsBalanced (word y) :=
      fun y hy => hnone y (List.mem_cons_of_mem x hy)
    rw [List.flatMap_cons]
    cases hx : bracket? x with
    | none =>
      rw [List.filterMap_cons_none hx] at h
      rw [(hnone x List.mem_cons_self hx).scan_append]
      exact ih hsome' hnone' h
    | some b =>
      rw [List.filterMap_cons_some hx, ← List.singleton_append, scan_append] at h
      obtain ⟨mid, hmid, h⟩ := Option.bind_eq_some_iff.mp h
      rw [hsome x List.mem_cons_self b hx, scan_append_of_eq (scan_map? f hmid)]
      exact ih hsome' hnone' h

theorem balanced_flatMap [DecidableEq μ] {α : Type} (f : κ → Option μ)
    (bracket? : α → Option (BracketOf κ)) (word : α → List (BracketOf μ)) {xs : List α}
    (hsome : ∀ x ∈ xs, ∀ b, bracket? x = some b → word x = (b.map? f).toList)
    (hnone : ∀ x ∈ xs, bracket? x = none → IsBalanced (word x))
    (h : IsBalanced (xs.filterMap bracket?)) : IsBalanced (xs.flatMap word) := by
  simpa [IsBalanced] using scan_flatMap f bracket? word hsome hnone h

/-- A balanced word stays balanced if keys are replaced and the brackets of some are left out. -/
theorem IsBalanced.filterMap_map? [DecidableEq μ] (f : κ → Option μ) {bs : List (BracketOf κ)}
    (h : IsBalanced bs) : IsBalanced (bs.filterMap (map? f)) := by
  have hsome : ∀ b ∈ bs, ∀ b', some b = some b' → (b.map? f).toList = (b'.map? f).toList := by
    intro b _ b' heq
    rw [Option.some.inj heq]
  have hflat := balanced_flatMap f some (fun b => (b.map? f).toList) hsome
    (fun b _ hnone => absurd hnone (by simp)) (by simpa using h)
  rwa [← List.filterMap_eq_flatMap_toList] at hflat

end Scan

/-! ### Counting brackets -/

/-- How many more brackets of a word open than close. -/
def excess : List (BracketOf κ) → Int
  | [] => 0
  | .opening _ :: bs => excess bs + 1
  | .closing _ :: bs => excess bs - 1

theorem excess_append (xs ys : List (BracketOf κ)) : excess (xs ++ ys) = excess xs + excess ys := by
  induction xs with
  | nil => simp [excess]
  | cons b xs ih =>
    cases b with
    | opening k =>
      rw [List.cons_append, excess, excess, ih]
      omega
    | closing k =>
      rw [List.cons_append, excess, excess, ih]
      omega

/-- A word opens as many brackets more than it closes as it leaves more keys on the stack. -/
theorem excess_of_scan [DecidableEq κ] : ∀ {bs : List (BracketOf κ)} {stack s : List κ},
    scan stack bs = some s → excess bs = (s.length : Int) - stack.length := by
  intro bs
  induction bs with
  | nil =>
    intro stack s h
    rw [scan_nil, Option.some.injEq] at h
    simp [excess, h]
  | cons b bs ih =>
    intro stack s h
    cases b with
    | opening k =>
      rw [scan_opening] at h
      have hrest := ih h
      rw [List.length_cons] at hrest
      rw [excess]
      omega
    | closing k =>
      cases stack with
      | nil => simp at h
      | cons top stack =>
        rw [scan_closing_cons] at h
        split at h
        · have hrest := ih h
          rw [excess, List.length_cons]
          omega
        · cases h

theorem IsBalanced.excess_eq [DecidableEq κ] {bs : List (BracketOf κ)} (h : IsBalanced bs) :
    excess bs = 0 := by
  simpa using excess_of_scan h

end BracketOf

end Folio
