import Folio.Proofs.Bracket
import Folio.Token.Pairing

/-!
# Nested lists of tokens

A list of tokens is nested when it consists of single tokens and of pairs of one kind with a
nested list between them.  This is what the balance check accepts, and in a nested list counting
the tokens of one kind finds the partner of an opening token.

## Main definitions

* `bracketsBy`, `brackets` — the opening and closing tokens of a list as a word of brackets.
* `shownBrackets` — the same with the kind and the visibility of a token as its key.
* `Nested` — nested lists, as a grammar.
* `Counting`, `counting` — counting the tokens of a kind with a counter that does not go below zero.

## Main results

* `checkBalance_eq_ok_iff`, `nested_iff_balanced` — the balance check, the scan of the brackets
  and the grammar agree.
* `exists_partner` — in a balanced list every opening token has its partner.
* `counting_pair` — counting from an opening token is back at zero at its partner.
* `findClose?_eq` — a search forwards finds the partner.
-/

namespace Folio

open BracketOf (IsBalanced scan)

/-! ### Tokens as brackets -/

/-- The bracket that a token is; none if it stands alone. -/
def Token.bracketBy? {κ : Type} (key : Token → κ) (t : Token) : Option (BracketOf κ) :=
  match t.nesting with
  | .opening => some (.opening (key t))
  | .closing => some (.closing (key t))
  | .single => none

/-- The opening and closing tokens of a list. -/
def bracketsBy {κ : Type} (key : Token → κ) (tokens : List Token) : List (BracketOf κ) :=
  tokens.filterMap (Token.bracketBy? key)

/-- The opening and closing tokens of a list, by their kinds. -/
def brackets (tokens : List Token) : List (BracketOf Kind) := bracketsBy Token.kind tokens

/-- The kind of a token, and whether the renderer passes over it. -/
def Token.shown (t : Token) : Kind × Bool := (t.kind, t.hidden)

/-- The opening and closing tokens of a list, by their kinds and their visibility. -/
def shownBrackets (tokens : List Token) : List (BracketOf (Kind × Bool)) :=
  bracketsBy Token.shown tokens

section BracketsBy

variable {κ μ : Type} (key : Token → κ)

theorem bracketBy?_opening {t : Token} (h : t.nesting = .opening) :
    t.bracketBy? key = some (.opening (key t)) := by
  rw [Token.bracketBy?, h]

theorem bracketBy?_closing {t : Token} (h : t.nesting = .closing) :
    t.bracketBy? key = some (.closing (key t)) := by
  rw [Token.bracketBy?, h]

theorem bracketBy?_single {t : Token} (h : t.nesting = .single) :
    t.bracketBy? key = none := by
  rw [Token.bracketBy?, h]

theorem bracketBy?_eq_some {t : Token} {b : BracketOf κ} (h : t.bracketBy? key = some b) :
    (t.nesting = .opening ∧ b = .opening (key t)) ∨
      (t.nesting = .closing ∧ b = .closing (key t)) := by
  unfold Token.bracketBy? at h
  split at h
  · next hn => exact .inl ⟨hn, (Option.some.inj h).symm⟩
  · next hn => exact .inr ⟨hn, (Option.some.inj h).symm⟩
  · simp at h

theorem bracketBy?_eq_none_iff {t : Token} : t.bracketBy? key = none ↔ t.nesting = .single := by
  cases h : t.nesting <;> simp [Token.bracketBy?, h]

@[simp] theorem bracketsBy_nil : bracketsBy key [] = [] := rfl

theorem bracketsBy_cons (t : Token) (ts : List Token) :
    bracketsBy key (t :: ts) = (t.bracketBy? key).toList ++ bracketsBy key ts := by
  cases h : t.bracketBy? key with
  | none => rw [bracketsBy, List.filterMap_cons_none h]; rfl
  | some b => rw [bracketsBy, List.filterMap_cons_some h]; rfl

@[simp] theorem bracketsBy_append (xs ys : List Token) :
    bracketsBy key (xs ++ ys) = bracketsBy key xs ++ bracketsBy key ys :=
  List.filterMap_append

theorem bracketsBy_cons_opening {t : Token} (h : t.nesting = .opening) (ts : List Token) :
    bracketsBy key (t :: ts) = .opening (key t) :: bracketsBy key ts := by
  rw [bracketsBy_cons, bracketBy?_opening key h]
  rfl

theorem bracketsBy_cons_closing {t : Token} (h : t.nesting = .closing) (ts : List Token) :
    bracketsBy key (t :: ts) = .closing (key t) :: bracketsBy key ts := by
  rw [bracketsBy_cons, bracketBy?_closing key h]
  rfl

theorem bracketsBy_cons_single {t : Token} (h : t.nesting = .single) (ts : List Token) :
    bracketsBy key (t :: ts) = bracketsBy key ts := by
  rw [bracketsBy_cons, bracketBy?_single key h]
  rfl

/-- Tokens that stand alone can be left out. -/
theorem bracketsBy_filter {p : Token → Bool} {ts : List Token}
    (h : ∀ t ∈ ts, p t = false → t.nesting = .single) :
    bracketsBy key (ts.filter p) = bracketsBy key ts := by
  induction ts with
  | nil => rfl
  | cons t ts ih =>
    have ih := ih fun u hu => h u (List.mem_cons_of_mem t hu)
    cases hp : p t with
    | true => rw [List.filter_cons_of_pos hp, bracketsBy_cons, ih, bracketsBy_cons]
    | false =>
      rw [List.filter_cons_of_neg (by simp [hp]), ih,
        bracketsBy_cons_single key (h t List.mem_cons_self hp)]

/-- Behind the same tokens a list can be replaced by one that does the same to every stack. -/
theorem scan_bracketsBy_append_of_imp [DecidableEq κ] (pre : List Token) {ts us : List Token}
    {stack s : List κ} (h : scan stack (bracketsBy key (pre ++ ts)) = some s)
    (himp : ∀ mid, scan mid (bracketsBy key ts) = some s →
      scan mid (bracketsBy key us) = some s) :
    scan stack (bracketsBy key (pre ++ us)) = some s := by
  rw [bracketsBy_append, BracketOf.scan_append] at h ⊢
  obtain ⟨mid, hmid, h⟩ := Option.bind_eq_some_iff.mp h
  rw [hmid]
  exact himp mid h

/-- Tokens that are balanced by a key are balanced by what the key determines. -/
theorem balanced_bracketsBy_of_comp [DecidableEq κ] [DecidableEq μ] (f : κ → μ)
    {ts : List Token} (h : IsBalanced (bracketsBy key ts)) :
    IsBalanced (bracketsBy (fun t => f (key t)) ts) := by
  have hsome : ∀ t ∈ ts, ∀ b, t.bracketBy? key = some b →
      (t.bracketBy? fun t => f (key t)).toList = (b.map? fun k => some (f k)).toList := by
    intro t _ b hb
    rcases bracketBy?_eq_some key hb with ⟨hn, rfl⟩ | ⟨hn, rfl⟩
    · rw [bracketBy?_opening _ hn]
      rfl
    · rw [bracketBy?_closing _ hn]
      rfl
  have hnone : ∀ t ∈ ts, t.bracketBy? key = none →
      IsBalanced (t.bracketBy? fun t => f (key t)).toList := by
    intro t _ hb
    rw [bracketBy?_eq_none_iff] at hb
    rw [bracketBy?_single _ hb]
    rfl
  -- Every bracket becomes the one bracket with the coarser key.
  have hmap := BracketOf.balanced_flatMap (fun k => some (f k)) _ _ hsome hnone h
  rwa [← List.filterMap_eq_flatMap_toList] at hmap

end BracketsBy

theorem balanced_of_shown {ts : List Token} (h : IsBalanced (shownBrackets ts)) :
    IsBalanced (brackets ts) :=
  balanced_bracketsBy_of_comp Token.shown Prod.fst h

/-! ### The balance check -/

theorem checkBalanceFrom_opening {t : Token} (h : t.nesting = .opening)
    (stack : List (Nat × Kind)) (index : Nat) (ts : List Token) :
    checkBalanceFrom stack index (t :: ts)
      = checkBalanceFrom ((index, t.kind) :: stack) (index + 1) ts := by
  cases stack <;> simp [checkBalanceFrom, h]

theorem checkBalanceFrom_single {t : Token} (h : t.nesting = .single)
    (stack : List (Nat × Kind)) (index : Nat) (ts : List Token) :
    checkBalanceFrom stack index (t :: ts) = checkBalanceFrom stack (index + 1) ts := by
  cases stack <;> simp [checkBalanceFrom, h]

/-- The balance check scans the brackets. -/
theorem checkBalanceFrom_eq_ok_iff : ∀ (ts : List Token) (stack : List (Nat × Kind)) (index : Nat),
    checkBalanceFrom stack index ts = .ok () ↔
      scan (stack.map Prod.snd) (brackets ts) = some [] := by
  intro ts
  induction ts with
  | nil =>
    intro stack index
    cases stack <;> simp [checkBalanceFrom, brackets]
  | cons t ts ih =>
    intro stack index
    cases hn : t.nesting with
    | opening =>
      rw [brackets, bracketsBy_cons_opening _ hn, BracketOf.scan_opening,
        checkBalanceFrom_opening hn]
      exact ih ((index, t.kind) :: stack) (index + 1)
    | single =>
      rw [brackets, bracketsBy_cons_single _ hn, checkBalanceFrom_single hn]
      exact ih stack (index + 1)
    | closing =>
      rw [brackets, bracketsBy_cons_closing _ hn]
      cases stack with
      | nil => simp [checkBalanceFrom, hn]
      | cons top stack =>
        obtain ⟨start, kind⟩ := top
        rw [List.map_cons, BracketOf.scan_closing_cons]
        by_cases hk : kind = t.kind
        · simpa [checkBalanceFrom, hn, hk, brackets] using ih stack (index + 1)
        · simp [checkBalanceFrom, hn, hk]

theorem checkBalance_eq_ok_iff {ts : List Token} :
    checkBalance ts = .ok () ↔ IsBalanced (brackets ts) :=
  checkBalanceFrom_eq_ok_iff ts [] 0

/-! ### The grammar -/

/-- Single tokens, and pairs of one kind with nested tokens between them. -/
inductive Nested : List Token → Prop
  | nil : Nested []
  | single {t : Token} {ts : List Token} (ht : t.nesting = .single) (hts : Nested ts) :
      Nested (t :: ts)
  | pair {o c : Token} {body rest : List Token} (ho : o.nesting = .opening)
      (hc : c.nesting = .closing) (hk : c.kind = o.kind) (hbody : Nested body)
      (hrest : Nested rest) : Nested (o :: body ++ c :: rest)

theorem Nested.append {xs ys : List Token} (hx : Nested xs) (hy : Nested ys) :
    Nested (xs ++ ys) := by
  induction hx with
  | nil => exact hy
  | single ht _ ih => exact .single ht ih
  | @pair o c body rest ho hc hk hbody _ _ ih =>
    rw [List.append_assoc, List.cons_append]
    exact .pair ho hc hk hbody ih

theorem Nested.balanced {ts : List Token} (h : Nested ts) : IsBalanced (brackets ts) := by
  induction h with
  | nil => rfl
  | single ht _ ih => rwa [brackets, bracketsBy_cons_single _ ht]
  | @pair o c body rest ho hc hk _ _ ihbody ihrest =>
    rw [brackets, bracketsBy_append, bracketsBy_cons_opening _ ho, bracketsBy_cons_closing _ hc,
      hk, List.append_cons]
    exact (ihbody.enclose o.kind).append ihrest

section Partner

variable {κ : Type} (key : Token → κ)

/-- A decomposition of the brackets of a list is one of the list. -/
theorem exists_eq_append_of_bracketsBy_eq {ts : List Token} {xs ys : List (BracketOf κ)}
    {b : BracketOf κ} (h : bracketsBy key ts = xs ++ b :: ys) :
    ∃ body c rest, ts = body ++ c :: rest ∧ bracketsBy key body = xs ∧
      c.bracketBy? key = some b ∧ bracketsBy key rest = ys := by
  obtain ⟨body, tail, rfl, hbody, htail⟩ := List.filterMap_eq_append_iff.mp h
  obtain ⟨singles, c, rest, rfl, hsingles, hc, hrest⟩ := List.filterMap_eq_cons_iff.mp htail
  refine ⟨body ++ singles, c, rest, by simp, ?_, hc, hrest⟩
  rw [bracketsBy_append, bracketsBy, hbody, bracketsBy,
    List.filterMap_eq_nil_iff.mpr hsingles, List.append_nil]

/-- **An opening token that the rest of a list takes off the stack has its partner there**, and
what stands between them is balanced. -/
theorem exists_partner_of_scan [DecidableEq κ] {k : κ} {stack s : List κ} {ts : List Token}
    (h : scan (k :: stack) (bracketsBy key ts) = some s) (hlen : s.length ≤ stack.length) :
    ∃ body c rest, ts = body ++ c :: rest ∧ c.nesting = .closing ∧ key c = k ∧
      IsBalanced (bracketsBy key body) ∧ scan stack (bracketsBy key rest) = some s := by
  obtain ⟨xs, ys, hxy, hbal, hrest⟩ := BracketOf.exists_closing_of_scan h hlen
  obtain ⟨body, c, rest, rfl, rfl, hc, rfl⟩ := exists_eq_append_of_bracketsBy_eq key hxy
  have hcn : c.nesting = .closing := by
    cases hn : c.nesting <;> simp_all [Token.bracketBy?]
  rw [bracketBy?_closing _ hcn, Option.some.injEq, BracketOf.closing.injEq] at hc
  exact ⟨body, c, rest, rfl, hcn, hc, hbal, hrest⟩

/-- **In a balanced list every opening token has its partner**, and what stands between them is
balanced. -/
theorem exists_partner [DecidableEq κ] {before tail : List Token} {o : Token}
    (ho : o.nesting = .opening) (h : IsBalanced (bracketsBy key (before ++ o :: tail))) :
    ∃ body c rest, tail = body ++ c :: rest ∧ c.nesting = .closing ∧ key c = key o ∧
      IsBalanced (bracketsBy key body) := by
  rw [bracketsBy_append, IsBalanced, BracketOf.scan_append] at h
  obtain ⟨stack, -, h⟩ := Option.bind_eq_some_iff.mp h
  rw [bracketsBy_cons_opening _ ho, BracketOf.scan_opening] at h
  obtain ⟨body, c, rest, htail, hc, hk, hbody, -⟩ := exists_partner_of_scan key h (by simp)
  exact ⟨body, c, rest, htail, hc, hk, hbody⟩

/-- What an opening token, a balanced list and the partner do to a scan: nothing. -/
theorem balanced_pair [DecidableEq κ] {o c : Token} {body : List Token} (ho : o.nesting = .opening)
    (hc : c.nesting = .closing) (hk : key c = key o) (hbody : IsBalanced (bracketsBy key body)) :
    IsBalanced (bracketsBy key (o :: body ++ [c])) := by
  rw [bracketsBy_append, bracketsBy_cons_opening _ ho, bracketsBy_cons_closing _ hc, hk]
  exact hbody.enclose (key o)

end Partner

/-- A place in a list splits it. -/
theorem exists_eq_append_of_getElem? {ts : List Token} {i : Nat} {t : Token}
    (h : ts[i]? = some t) : ∃ pre tail, ts = pre ++ t :: tail ∧ pre.length = i := by
  obtain ⟨hi, rfl⟩ := List.getElem?_eq_some_iff.mp h
  refine ⟨ts.take i, ts.drop (i + 1), ?_, by simp; omega⟩
  rw [List.getElem_cons_drop, List.take_append_drop]

theorem nested_of_balanced : ∀ {ts : List Token}, IsBalanced (brackets ts) → Nested ts := by
  intro ts
  -- Strong induction on the length: what stands inside of a pair and behind it is shorter.
  induction hn : ts.length using Nat.strongRecOn generalizing ts with
  | ind n ih =>
    intro h
    cases ts with
    | nil => exact .nil
    | cons t ts =>
      simp only [List.length_cons] at hn
      cases ht : t.nesting with
      | single =>
        rw [brackets, bracketsBy_cons_single _ ht] at h
        exact .single ht (ih ts.length (by omega) rfl h)
      | closing =>
        rw [brackets, bracketsBy_cons_closing _ ht] at h
        exact absurd h (by simp [IsBalanced])
      | opening =>
        rw [brackets, bracketsBy_cons_opening _ ht, IsBalanced, BracketOf.scan_opening] at h
        obtain ⟨body, c, rest, rfl, hc, hk, hbody, hrest⟩ :=
          exists_partner_of_scan Token.kind h (by simp)
        simp only [List.length_append, List.length_cons] at hn
        exact .pair ht hc hk (ih body.length (by omega) rfl hbody)
          (ih rest.length (by omega) rfl hrest)

theorem nested_iff_balanced {ts : List Token} : Nested ts ↔ IsBalanced (brackets ts) :=
  ⟨Nested.balanced, nested_of_balanced⟩

/-! ### Partners -/

/-- What counting tokens comes to. -/
inductive Counting where
  /-- The counter is back at zero after so many steps. -/
  | back (steps : Nat)
  /-- The list ends before it is. -/
  | ended
  /-- The counter would have to go below zero. -/
  | below
  deriving DecidableEq, Repr

/-- Counts the tokens of a kind, up for one nesting and down for another, from `depth` on. -/
def counting (kind : Kind) (up down : Nesting) : (depth steps : Nat) → List Token → Counting
  | _, _, [] => .ended
  | depth, steps, t :: ts =>
    if t.kind ≠ kind then counting kind up down depth (steps + 1) ts
    else if t.nesting = up then counting kind up down (depth + 1) (steps + 1) ts
    else if t.nesting = down then
      if depth = 0 then .below
      else if depth = 1 then .back steps
      else counting kind up down (depth - 1) (steps + 1) ts
    else counting kind up down depth (steps + 1) ts

section Counting

variable {kind : Kind} {up down : Nesting} {t : Token}

theorem counting_of_ne (h : t.kind ≠ kind) (depth steps : Nat) (ts : List Token) :
    counting kind up down depth steps (t :: ts) = counting kind up down depth (steps + 1) ts := by
  rw [counting, if_pos h]

theorem counting_of_single (h : t.nesting = .single) (hup : up ≠ .single) (hdown : down ≠ .single)
    (depth steps : Nat) (ts : List Token) :
    counting kind up down depth steps (t :: ts) = counting kind up down depth (steps + 1) ts := by
  rw [counting, h, if_neg hup.symm, if_neg hdown.symm, ite_self]

theorem counting_up (hk : t.kind = kind) (h : t.nesting = up) (depth steps : Nat)
    (ts : List Token) : counting kind up down depth steps (t :: ts)
      = counting kind up down (depth + 1) (steps + 1) ts := by
  rw [counting, if_neg (not_not_intro hk), if_pos h]

theorem counting_down (hk : t.kind = kind) (h : t.nesting = down) (hne : down ≠ up)
    {depth : Nat} (hd : 2 ≤ depth) (steps : Nat) (ts : List Token) :
    counting kind up down depth steps (t :: ts)
      = counting kind up down (depth - 1) (steps + 1) ts := by
  rw [counting, if_neg (not_not_intro hk), h, if_neg hne, if_pos rfl, if_neg (by omega),
    if_neg (by omega)]

theorem counting_back (hk : t.kind = kind) (h : t.nesting = down) (hne : down ≠ up) (steps : Nat)
    (ts : List Token) : counting kind up down 1 steps (t :: ts) = .back steps := by
  rw [counting, if_neg (not_not_intro hk), h, if_neg hne, if_pos rfl, if_neg Nat.one_ne_zero,
    if_pos rfl]

end Counting

/-- Counting passes over a nested list, and never takes the counter lower there. -/
theorem counting_append {xs : List Token} (h : Nested xs) (kind : Kind) :
    ∀ (depth steps : Nat) (ys : List Token), 1 ≤ depth →
      counting kind .opening .closing depth steps (xs ++ ys)
        = counting kind .opening .closing depth (steps + xs.length) ys := by
  induction h with
  | nil => intro depth steps ys _; rfl
  | @single t ts ht _ ih =>
    intro depth steps ys hd
    rw [List.cons_append, counting_of_single ht (by decide) (by decide), ih _ _ _ hd,
      List.length_cons, Nat.add_right_comm, Nat.add_assoc]
  | @pair o c body rest ho hc hk _ _ ihbody ihrest =>
    intro depth steps ys hd
    have hsteps : steps + 1 + body.length + 1 + rest.length
        = steps + (o :: body ++ c :: rest).length := by simp; omega
    rw [← hsteps, ← ihrest depth _ ys hd]
    simp only [List.cons_append, List.append_assoc]
    -- Tokens of the kind that is counted change the depth by one and back.
    by_cases hko : o.kind = kind
    · rw [counting_up hko ho, ihbody _ _ _ (Nat.le_add_left 1 depth),
        counting_down (hk.trans hko) hc (by decide) (Nat.add_le_add_right hd 1), Nat.add_sub_cancel]
    · rw [counting_of_ne hko, ihbody _ _ _ hd, counting_of_ne (hk.trans_ne hko)]

/-- From an opening token, a nested list and the partner take the counter back to zero. -/
theorem counting_pair {o c : Token} {body : List Token} (ho : o.nesting = .opening)
    (hc : c.nesting = .closing) (hk : c.kind = o.kind) (hbody : Nested body) (rest : List Token) :
    counting o.kind .opening .closing 0 0 (o :: (body ++ c :: rest)) = .back (1 + body.length) := by
  rw [counting_up rfl ho, counting_append hbody o.kind _ _ _ (Nat.le_refl 1),
    counting_back hk hc (by decide)]

/-- A search forwards finds the token at which counting is back at zero. -/
theorem closeAfter?_of_counting {kind : Kind} {ts : List Token} : ∀ {depth steps n : Nat},
    counting kind .opening .closing depth steps ts = .back n →
    ∀ index, closeAfter? kind depth (index + steps) ts = some (index + n) := by
  induction ts with
  | nil => intro depth steps n h; cases h
  | cons t ts ih =>
    intro depth steps n h index
    rw [closeAfter?]
    by_cases hk : t.kind = kind
    · rw [if_neg (by simp [hk])]
      cases hn : t.nesting with
      | opening =>
        rw [counting_up hk hn] at h
        exact ih h index
      | single =>
        rw [counting_of_single hn (by decide) (by decide)] at h
        exact ih h index
      | closing =>
        rcases Nat.lt_trichotomy depth 1 with hd | rfl | hd
        · simp [counting, hk, hn, Nat.lt_one_iff.mp hd] at h
        · rw [counting_back hk hn (by decide)] at h
          cases h
          rfl
        · rw [counting_down hk hn (by decide) hd] at h
          dsimp only
          rw [if_neg (by omega)]
          exact ih h index
    · rw [if_pos (by simpa using hk)]
      rw [counting_of_ne hk] at h
      exact ih h index

/-- **Counting finds the partner**: the closing token of the same kind behind a nested list. -/
theorem findClose?_eq {o c : Token} {body : List Token} (ho : o.nesting = .opening)
    (hc : c.nesting = .closing) (hk : c.kind = o.kind) (hbody : Nested body)
    (pre rest : List Token) :
    findClose? (pre ++ o :: (body ++ c :: rest)) pre.length
      = some (pre.length + 1 + body.length) := by
  have hget : (pre ++ o :: (body ++ c :: rest))[pre.length]? = some o := by simp
  rw [findClose?, hget]
  simp only [Token.isOpening, ho, beq_self_eq_true, if_true, List.drop_left]
  rw [Nat.add_assoc]
  exact closeAfter?_of_counting (counting_pair ho hc hk hbody rest) pre.length

/-- A search forwards begins at an opening token. -/
theorem findClose?_eq_none {tokens : List Token} {i : Nat}
    (h : ∀ o, tokens[i]? = some o → o.nesting ≠ .opening) : findClose? tokens i = none := by
  rw [findClose?]
  split
  · next t ht => exact if_neg (by simpa [Token.isOpening] using h t ht)
  · rfl

end Folio
