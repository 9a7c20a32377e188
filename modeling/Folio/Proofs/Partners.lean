import Folio.Proofs.Nesting

/-!
# Partners

The balance check keeps the open containers on a stack with all kinds on it, and a closing token
takes the innermost one off: the two tokens are partners.  The searches for a partner keep no stack.
They count the tokens of one kind, forwards from an opening token or backwards from a closing one,
and overlook all tokens of other kinds.

In a balanced list both come to the same.  What stands between partners is nested, so it takes the
counter up as often as down, and never below the one that the search began with.  Counting
backwards is counting forwards in the mirror image of the list.

## Main definitions

* `pairsFrom`, `pairs` — the balance check with a record of what it takes off its stack.
* `ArePartners` — an opening and a closing token of one kind with a nested list between them.
* `mirror` — a list read backwards, with opening and closing tokens exchanged.
* `Counting`, `counting` — a search that tells when its counter would go below zero.
* `PairsUp` — the searches find the pairs of a record.

## Main results

* `map_pairsFrom` — the record is one of the balance check.
* `findOpen?_eq` — counting backwards finds the partner.
* `pairsUp_of_checkBalance` — **in a balanced list the two searches are the two directions of the
  pairing that the balance check makes.**
-/

namespace Folio

/-! ### What the balance check takes off its stack -/

/-- The balance check from `index` on, with a record: the indices of every opening token that is
taken off the stack and of the closing token that takes it off. -/
def pairsFrom : List (Nat × Kind) → Nat → List Token → Except Imbalance (List (Nat × Nat))
  | [], _, [] => .ok []
  | (start, kind) :: _, _, [] => .error (.unclosed kind start)
  | stack, index, t :: ts =>
    match t.nesting with
    | .opening => pairsFrom ((index, t.kind) :: stack) (index + 1) ts
    | .closing =>
      match stack with
      | [] => .error (.unmatched t.kind index)
      | (start, kind) :: rest =>
        if kind == t.kind then (pairsFrom rest (index + 1) ts).map ((start, index) :: ·)
        else .error (.crossed kind t.kind index start)
    | .single => pairsFrom stack (index + 1) ts

/-- The pairs of tokens that the balance check takes off its stack. -/
def pairs (tokens : List Token) : Except Imbalance (List (Nat × Nat)) := pairsFrom [] 0 tokens

theorem pairsFrom_opening {t : Token} (h : t.nesting = .opening) (stack : List (Nat × Kind))
    (index : Nat) (ts : List Token) :
    pairsFrom stack index (t :: ts) = pairsFrom ((index, t.kind) :: stack) (index + 1) ts := by
  cases stack <;> simp [pairsFrom, h]

theorem pairsFrom_single {t : Token} (h : t.nesting = .single) (stack : List (Nat × Kind))
    (index : Nat) (ts : List Token) :
    pairsFrom stack index (t :: ts) = pairsFrom stack (index + 1) ts := by
  cases stack <;> simp [pairsFrom, h]

theorem pairsFrom_closing {t : Token} (h : t.nesting = .closing) (start index : Nat)
    (stack : List (Nat × Kind)) (ts : List Token) :
    pairsFrom ((start, t.kind) :: stack) index (t :: ts)
      = (pairsFrom stack (index + 1) ts).map ((start, index) :: ·) := by
  simp [pairsFrom, h]

/-- **The record is one of the balance check**: without the pairs it is the check itself. -/
theorem map_pairsFrom (ts : List Token) : ∀ (stack : List (Nat × Kind)) (index : Nat),
    (pairsFrom stack index ts).map (fun _ => ()) = checkBalanceFrom stack index ts := by
  induction ts with
  | nil => intro stack index; cases stack <;> rfl
  | cons t ts ih =>
    intro stack index
    cases hn : t.nesting with
    | opening => rw [pairsFrom_opening hn, checkBalanceFrom_opening hn, ih]
    | single => rw [pairsFrom_single hn, checkBalanceFrom_single hn, ih]
    | closing =>
      cases stack with
      | nil => simp [pairsFrom, checkBalanceFrom, hn, Except.map]
      | cons top stack =>
        obtain ⟨start, kind⟩ := top
        by_cases hk : kind = t.kind
        · subst hk
          have hrest := ih stack (index + 1)
          rw [pairsFrom_closing hn]
          simp only [checkBalanceFrom, hn, beq_self_eq_true, if_true, ← hrest]
          cases pairsFrom stack (index + 1) ts <;> rfl
        · simp [pairsFrom, checkBalanceFrom, hn, hk, Except.map]

/-! ### Partners -/

/-- The tokens with these two indices open and close a container of one kind, and what stands
between them is nested. -/
inductive ArePartners : List Token → Nat → Nat → Prop
  | intro (pre : List Token) {o : Token} {body : List Token} {c : Token} (rest : List Token)
      (ho : o.nesting = .opening) (hc : c.nesting = .closing) (hk : c.kind = o.kind)
      (hbody : Nested body) :
      ArePartners (pre ++ o :: (body ++ c :: rest)) pre.length (pre.length + 1 + body.length)

namespace ArePartners

variable {ts : List Token} {i j : Nat}

theorem append_left (h : ArePartners ts i j) (xs : List Token) :
    ArePartners (xs ++ ts) (xs.length + i) (xs.length + j) := by
  cases h with
  | intro pre rest ho hc hk hbody =>
    simpa [Nat.add_assoc] using intro (xs ++ pre) rest ho hc hk hbody

theorem append_right (h : ArePartners ts i j) (ys : List Token) : ArePartners (ts ++ ys) i j := by
  cases h with
  | intro pre rest ho hc hk hbody =>
    simpa using intro pre (rest ++ ys) ho hc hk hbody

end ArePartners

/-- The record of a list that begins at `index`: its pairs are partners, and every opening and every
closing token is in it. -/
structure Records (index : Nat) (ts : List Token) (ps : List (Nat × Nat)) : Prop where
  sound : ∀ p ∈ ps, ∃ i j, p = (index + i, index + j) ∧ ArePartners ts i j
  opening : ∀ i t, ts[i]? = some t → t.nesting = .opening → ∃ j, (index + i, j) ∈ ps
  closing : ∀ j t, ts[j]? = some t → t.nesting = .closing → ∃ i, (i, index + j) ∈ ps

namespace Records

variable {index : Nat} {ts us : List Token} {ps qs : List (Nat × Nat)}

theorem nil (index : Nat) : Records index [] [] where
  sound := List.forall_mem_nil _
  opening i t h := by simp at h
  closing j t h := by simp at h

theorem of_single {t : Token} (ht : t.nesting = .single) (index : Nat) : Records index [t] [] where
  sound := List.forall_mem_nil _
  opening i u h hu := by
    rw [List.mem_singleton.mp (List.mem_of_getElem? h), ht] at hu
    cases hu
  closing j u h hu := by
    rw [List.mem_singleton.mp (List.mem_of_getElem? h), ht] at hu
    cases hu

theorem append (h : Records index ts ps) (h' : Records (index + ts.length) us qs) :
    Records index (ts ++ us) (ps ++ qs) where
  sound p hp := by
    rcases List.mem_append.mp hp with hp | hp
    · obtain ⟨i, j, rfl, hpair⟩ := h.sound p hp
      exact ⟨i, j, rfl, hpair.append_right us⟩
    · obtain ⟨i, j, rfl, hpair⟩ := h'.sound p hp
      exact ⟨ts.length + i, ts.length + j, by rw [Nat.add_assoc, Nat.add_assoc],
        hpair.append_left ts⟩
  opening i t hi ht := by
    rcases Nat.lt_or_ge i ts.length with hlt | hge
    · rw [List.getElem?_append_left hlt] at hi
      obtain ⟨j, hj⟩ := h.opening i t hi ht
      exact ⟨j, List.mem_append_left qs hj⟩
    · rw [List.getElem?_append_right hge] at hi
      obtain ⟨j, hj⟩ := h'.opening _ t hi ht
      rw [Nat.add_assoc, Nat.add_sub_cancel' hge] at hj
      exact ⟨j, List.mem_append_right ps hj⟩
  closing j t hj ht := by
    rcases Nat.lt_or_ge j ts.length with hlt | hge
    · rw [List.getElem?_append_left hlt] at hj
      obtain ⟨i, hi⟩ := h.closing j t hj ht
      exact ⟨i, List.mem_append_left qs hi⟩
    · rw [List.getElem?_append_right hge] at hj
      obtain ⟨i, hi⟩ := h'.closing _ t hj ht
      rw [Nat.add_assoc, Nat.add_sub_cancel' hge] at hi
      exact ⟨i, List.mem_append_right ps hi⟩

/-- The pair around a nested list is recorded behind the pairs in it. -/
theorem enclose {o c : Token} {body : List Token} (h : Records (index + 1) body ps)
    (hbody : Nested body) (ho : o.nesting = .opening) (hc : c.nesting = .closing)
    (hk : c.kind = o.kind) :
    Records index (o :: body ++ [c]) (ps ++ [(index, index + 1 + body.length)]) where
  sound p hp := by
    rcases List.mem_append.mp hp with hp | hp
    · obtain ⟨i, j, rfl, hpair⟩ := h.sound p hp
      exact ⟨1 + i, 1 + j, by rw [Nat.add_assoc, Nat.add_assoc],
        (hpair.append_left [o]).append_right [c]⟩
    · rw [List.mem_singleton] at hp
      have hpair := ArePartners.intro [] [] ho hc hk hbody
      exact ⟨0, 0 + 1 + body.length, by rw [hp]; simp; omega, by simpa using hpair⟩
  opening i t hi ht := by
    cases i with
    | zero => exact ⟨_, List.mem_append_right ps (List.mem_singleton_self _)⟩
    | succ i =>
      rw [List.cons_append, List.getElem?_cons_succ] at hi
      rcases Nat.lt_or_ge i body.length with hlt | hge
      · rw [List.getElem?_append_left hlt] at hi
        obtain ⟨j, hj⟩ := h.opening i t hi ht
        rw [Nat.add_right_comm, Nat.add_assoc] at hj
        exact ⟨j, List.mem_append_left _ hj⟩
      · rw [List.getElem?_append_right hge] at hi
        rw [List.mem_singleton.mp (List.mem_of_getElem? hi), hc] at ht
        cases ht
  closing j t hj ht := by
    cases j with
    | zero =>
      obtain rfl : o = t := by simpa using hj
      rw [ho] at ht
      cases ht
    | succ j =>
      rw [List.cons_append, List.getElem?_cons_succ] at hj
      rcases Nat.lt_or_ge j body.length with hlt | hge
      · rw [List.getElem?_append_left hlt] at hj
        obtain ⟨i, hi⟩ := h.closing j t hj ht
        rw [Nat.add_right_comm, Nat.add_assoc] at hi
        exact ⟨i, List.mem_append_left _ hi⟩
      · rw [List.getElem?_append_right hge] at hj
        have hlast : j - body.length < 1 := (List.getElem?_eq_some_iff.mp hj).1
        obtain rfl : j = body.length := by omega
        rw [← Nat.add_assoc, Nat.add_right_comm]
        exact ⟨index, List.mem_append_right ps (List.mem_singleton_self _)⟩

end Records

/-- The balance check passes over a nested list, and records all tokens in it. -/
theorem exists_records {xs : List Token} (h : Nested xs) : ∀ index : Nat, ∃ ps,
    Records index xs ps ∧ ∀ stack ys, pairsFrom stack index (xs ++ ys)
      = (pairsFrom stack (index + xs.length) ys).map (ps ++ ·) := by
  induction h with
  | nil =>
    intro index
    refine ⟨[], .nil index, fun stack ys => ?_⟩
    cases hys : pairsFrom stack index ys <;> simp [hys, Except.map]
  | @single t ts ht _ ih =>
    intro index
    obtain ⟨ps, hps, heq⟩ := ih (index + 1)
    refine ⟨ps, (Records.of_single ht index).append hps, fun stack ys => ?_⟩
    rw [List.cons_append, pairsFrom_single ht, heq, List.length_cons, Nat.add_right_comm,
      Nat.add_assoc]
  | @pair o c body rest ho hc hk hbody _ ihbody ihrest =>
    intro index
    obtain ⟨ps, hps, hbodyEq⟩ := ihbody (index + 1)
    obtain ⟨qs, hqs, hrestEq⟩ := ihrest (index + (o :: body ++ [c]).length)
    refine ⟨ps ++ [(index, index + 1 + body.length)] ++ qs, ?_, fun stack ys => ?_⟩
    · rw [List.append_cons]
      exact (hps.enclose hbody ho hc hk).append hqs
    · have hlength : index + 1 + body.length + 1 = index + (o :: body ++ [c]).length := by
        simp only [List.cons_append, List.length_cons, List.length_append, List.length_nil]
        omega
      have hall : index + (o :: body ++ [c]).length + rest.length
          = index + (o :: (body ++ c :: rest)).length := by
        simp only [List.cons_append, List.length_cons, List.length_append, List.length_nil]
        omega
      simp only [List.cons_append, List.append_assoc]
      rw [pairsFrom_opening ho, hbodyEq, ← hk, pairsFrom_closing hc, hlength, hrestEq, hall]
      generalize pairsFrom stack (index + (o :: (body ++ c :: rest)).length) ys = result
      cases result <;> simp [Except.map]

/-! ### Counting backwards -/

/-- An opening token becomes a closing one, and the other way round. -/
def Nesting.flip : Nesting → Nesting
  | .opening => .closing
  | .closing => .opening
  | .single => .single

/-- The token with its nesting exchanged. -/
def Token.flip (t : Token) : Token := { t with nesting := t.nesting.flip }

/-- The list read backwards, with opening and closing tokens exchanged. -/
def mirror (ts : List Token) : List Token := (ts.map Token.flip).reverse

theorem nested_mirror {ts : List Token} (h : Nested ts) : Nested (mirror ts) := by
  induction h with
  | nil => exact .nil
  | @single t ts ht _ ih =>
    have hmirror : mirror (t :: ts) = mirror ts ++ [t.flip] := by simp [mirror]
    rw [hmirror]
    exact ih.append (.single (by rw [Token.flip, ht]; rfl) .nil)
  | @pair o c body rest ho hc hk _ _ ihbody ihrest =>
    have hmirror : mirror (o :: body ++ c :: rest)
        = mirror rest ++ (c.flip :: mirror body ++ o.flip :: []) := by simp [mirror]
    rw [hmirror]
    exact ihrest.append (.pair (by rw [Token.flip, hc]; rfl) (by rw [Token.flip, ho]; rfl) hk.symm
      ihbody .nil)

/-- Counting the other way is counting with opening and closing tokens exchanged. -/
theorem counting_flip (kind : Kind) (ts : List Token) : ∀ depth steps : Nat,
    counting kind .closing .opening depth steps ts
      = counting kind .opening .closing depth steps (ts.map Token.flip) := by
  induction ts with
  | nil => exact fun _ _ => rfl
  | cons t ts ih =>
    intro depth steps
    have hkind : t.flip.kind = t.kind := rfl
    cases hn : t.nesting <;>
      simp only [List.map_cons, counting, Token.flip, Nesting.flip, hn, reduceCtorEq, if_true,
        if_false, ih]

/-- From a closing token backwards, a nested list and the partner take the counter back to zero. -/
theorem counting_pair_backwards {o c : Token} {body : List Token} (ho : o.nesting = .opening)
    (hc : c.nesting = .closing) (hk : c.kind = o.kind) (hbody : Nested body) (pre : List Token) :
    counting c.kind .closing .opening 0 0 (pre ++ o :: (body ++ [c])).reverse
      = .back (1 + body.length) := by
  have hmirror : (pre ++ o :: (body ++ [c])).reverse.map Token.flip
      = c.flip :: (mirror body ++ o.flip :: mirror pre) := by simp [mirror]
  have hpair := counting_pair (o := c.flip) (c := o.flip) (by rw [Token.flip, hc]; rfl)
    (by rw [Token.flip, ho]; rfl) hk.symm (nested_mirror hbody) (mirror pre)
  rw [counting_flip, hmirror]
  rwa [mirror, List.length_reverse, List.length_map] at hpair

/-- A search backwards finds the token at which counting is back at zero. -/
theorem openBefore?_of_counting {kind : Kind} {ts : List Token} : ∀ {depth steps n : Nat},
    counting kind .closing .opening depth steps ts = .back n →
    ∀ index, openBefore? kind (depth : Int) (index - steps) ts = some (index - n) := by
  induction ts with
  | nil => intro depth steps n h; cases h
  | cons t ts ih =>
    intro depth steps n h index
    rw [openBefore?, Nat.sub_sub]
    by_cases hk : t.kind = kind
    · rw [if_neg (by simp [hk])]
      cases hn : t.nesting with
      | closing =>
        rw [counting_up hk hn] at h
        exact mod_cast ih h index
      | single =>
        rw [counting_of_single hn (by decide) (by decide)] at h
        exact ih h index
      | opening =>
        rcases Nat.lt_trichotomy depth 1 with hd | rfl | hd
        · simp [counting, hk, hn, Nat.lt_one_iff.mp hd] at h
        · rw [counting_back hk hn (by decide)] at h
          cases h
          rfl
        · rw [counting_down hk hn (by decide) hd] at h
          dsimp only
          have hpred : (depth : Int) - 1 = (depth - 1 : Nat) := by omega
          rw [if_neg (by omega), hpred]
          exact ih h index
    · rw [if_pos (by simpa using hk)]
      rw [counting_of_ne hk] at h
      exact ih h index

/-- A list is cut behind its token `c`. -/
theorem take_partner (pre : List Token) (o : Token) (body : List Token) (c : Token)
    (rest : List Token) :
    (pre ++ o :: (body ++ c :: rest))[pre.length + 1 + body.length]? = some c ∧
      (pre ++ o :: (body ++ c :: rest)).take (pre.length + 1 + body.length + 1)
        = pre ++ o :: (body ++ [c]) := by
  have hsplit : pre ++ o :: (body ++ c :: rest) = (pre ++ o :: body) ++ c :: rest := by simp
  have hlength : (pre ++ o :: body).length = pre.length + 1 + body.length := by simp; omega
  rw [hsplit, ← hlength]
  constructor
  · rw [List.getElem?_append_right (Nat.le_refl _), Nat.sub_self, List.getElem?_cons_zero]
  · rw [List.take_length_add_append]
    simp

/-- **Counting backwards finds the partner**: the opening token of the same kind before a nested
list. -/
theorem findOpen?_eq {o c : Token} {body : List Token} (ho : o.nesting = .opening)
    (hc : c.nesting = .closing) (hk : c.kind = o.kind) (hbody : Nested body)
    (pre rest : List Token) :
    findOpen? (pre ++ o :: (body ++ c :: rest)) (pre.length + 1 + body.length)
      = some pre.length := by
  obtain ⟨hget, htake⟩ := take_partner pre o body c rest
  rw [findOpen?, hget]
  simp only [hc, htake]
  have hback := openBefore?_of_counting (counting_pair_backwards ho hc hk hbody pre)
    (pre.length + 1 + body.length)
  rw [Nat.sub_zero, Nat.add_assoc, Nat.add_sub_cancel] at hback
  rwa [← Nat.add_assoc] at hback

/-! ### The pairing -/

/-- The searches for a partner find the pairs of a record of the list, in both directions. -/
structure PairsUp (tokens : List Token) (ps : List (Nat × Nat)) : Prop where
  /-- Every opening token is in a pair. -/
  opening : ∀ (i : Nat) (o : Token), tokens[i]? = some o → o.nesting = .opening →
    ∃ j, (i, j) ∈ ps
  /-- Every closing token is in a pair. -/
  closing : ∀ (j : Nat) (c : Token), tokens[j]? = some c → c.nesting = .closing →
    ∃ i, (i, j) ∈ ps
  /-- The search forwards finds the second of a pair at the first. -/
  close_iff : ∀ i j : Nat, findClose? tokens i = some j ↔ (i, j) ∈ ps
  /-- The search backwards finds the first of a pair at the second. -/
  open_iff : ∀ (i j : Nat) (c : Token), tokens[j]? = some c → c.nesting = .closing →
    (findOpen? tokens j = some i ↔ (i, j) ∈ ps)
  /-- The search forwards finds nothing at a place where no token opens anything. -/
  close_eq_none : ∀ i : Nat, (∀ o, tokens[i]? = some o → o.nesting ≠ .opening) →
    findClose? tokens i = none
  /-- What stands between the two of a pair is balanced. -/
  between : ∀ i j : Nat, (i, j) ∈ ps →
    i < j ∧ checkBalance ((tokens.drop (i + 1)).take (j - (i + 1))) = .ok ()
  /-- From the first of a pair, which is an opening token, the counter is back at zero at the
  second, and never below. -/
  forwards : ∀ i j : Nat, (i, j) ∈ ps → ∃ o, tokens[i]? = some o ∧ o.nesting = .opening ∧
    counting o.kind .opening .closing 0 0 (tokens.drop i) = .back (j - i)
  /-- From the second of a pair, which is a closing token, the counter is back at zero at the
  first, and never below. -/
  backwards : ∀ i j : Nat, (i, j) ∈ ps → ∃ c, tokens[j]? = some c ∧ c.nesting = .closing ∧
    counting c.kind .closing .opening 0 0 (tokens.take (j + 1)).reverse = .back (j - i)

namespace ArePartners

variable {ts : List Token} {i j : Nat}

theorem forwards (h : ArePartners ts i j) : ∃ o, ts[i]? = some o ∧ o.nesting = .opening ∧
    counting o.kind .opening .closing 0 0 (ts.drop i) = .back (j - i) := by
  cases h with
  | @intro pre o body c rest ho hc hk hbody =>
    refine ⟨o, by simp, ho, ?_⟩
    rw [List.drop_left, counting_pair ho hc hk hbody, Nat.add_assoc, Nat.add_sub_cancel_left]

theorem backwards (h : ArePartners ts i j) : ∃ c, ts[j]? = some c ∧ c.nesting = .closing ∧
    counting c.kind .closing .opening 0 0 (ts.take (j + 1)).reverse = .back (j - i) := by
  cases h with
  | @intro pre o body c rest ho hc hk hbody =>
    obtain ⟨hget, htake⟩ := take_partner pre o body c rest
    refine ⟨c, hget, hc, ?_⟩
    rw [htake, counting_pair_backwards ho hc hk hbody, Nat.add_assoc, Nat.add_sub_cancel_left]

theorem findClose?_eq_some (h : ArePartners ts i j) : findClose? ts i = some j := by
  cases h with
  | intro pre rest ho hc hk hbody => exact findClose?_eq ho hc hk hbody pre rest

theorem findOpen?_eq_some (h : ArePartners ts i j) : findOpen? ts j = some i := by
  cases h with
  | intro pre rest ho hc hk hbody => exact findOpen?_eq ho hc hk hbody pre rest

theorem between (h : ArePartners ts i j) :
    i < j ∧ checkBalance ((ts.drop (i + 1)).take (j - (i + 1))) = .ok () := by
  cases h with
  | @intro pre o body c rest ho hc hk hbody =>
    have hsplit : pre ++ o :: (body ++ c :: rest) = (pre ++ [o]) ++ (body ++ c :: rest) := by simp
    have hlength : (pre ++ [o]).length = pre.length + 1 := by simp
    refine ⟨by omega, ?_⟩
    rw [hsplit, ← hlength, List.drop_left, Nat.add_sub_cancel_left, List.take_left]
    exact checkBalance_eq_ok_iff.mpr hbody.balanced

end ArePartners

/-- **The two searches are the two directions of the pairing that the balance check makes** of the
opening and the closing tokens of a balanced list. -/
theorem pairsUp_of_checkBalance {tokens : List Token} (h : checkBalance tokens = .ok ()) :
    ∃ ps, pairs tokens = .ok ps ∧ PairsUp tokens ps := by
  obtain ⟨ps, hrecords, hpass⟩ :=
    exists_records (nested_of_balanced (checkBalance_eq_ok_iff.mp h)) 0
  have hpairs : pairs tokens = .ok ps := by
    simpa [pairs, pairsFrom, Except.map] using hpass [] []
  have hpartners : ∀ i j, (i, j) ∈ ps → ArePartners tokens i j := by
    intro i j hmem
    obtain ⟨i', j', heq, hpair⟩ := hrecords.sound (i, j) hmem
    rw [Nat.zero_add, Nat.zero_add] at heq
    obtain ⟨rfl, rfl⟩ := Prod.mk.inj heq
    exact hpair
  have hopening : ∀ (i : Nat) (o : Token), tokens[i]? = some o → o.nesting = .opening →
      ∃ j, (i, j) ∈ ps := by simpa using hrecords.opening
  have hclosing : ∀ (j : Nat) (c : Token), tokens[j]? = some c → c.nesting = .closing →
      ∃ i, (i, j) ∈ ps := by simpa using hrecords.closing
  have hnone : ∀ i : Nat, (∀ o, tokens[i]? = some o → o.nesting ≠ .opening) →
      findClose? tokens i = none := fun i hi => findClose?_eq_none hi
  refine ⟨ps, hpairs, hopening, hclosing, fun i j => ⟨fun hfind => ?_, fun hmem =>
    (hpartners i j hmem).findClose?_eq_some⟩, fun i j c hc hcn => ⟨fun hfind => ?_, fun hmem =>
    (hpartners i j hmem).findOpen?_eq_some⟩, hnone, fun i j hmem => (hpartners i j hmem).between,
    fun i j hmem => (hpartners i j hmem).forwards, fun i j hmem => (hpartners i j hmem).backwards⟩
  · -- Only opening tokens have a result, and theirs is the one of their pair.
    by_cases hi : ∀ o, tokens[i]? = some o → o.nesting ≠ .opening
    · rw [hnone i hi] at hfind
      cases hfind
    · push Not at hi
      obtain ⟨o, ho, hon⟩ := hi
      obtain ⟨j', hmem⟩ := hopening i o ho hon
      rw [(hpartners i j' hmem).findClose?_eq_some, Option.some.injEq] at hfind
      rwa [← hfind]
  · obtain ⟨i', hmem⟩ := hclosing j c hc hcn
    rw [(hpartners i' j hmem).findOpen?_eq_some, Option.some.injEq] at hfind
    rwa [← hfind]

/-- A quote in a list in a quote, and a rule behind the list. -/
def nestedQuotes : List Token :=
  [.opening .blockquote 0, .opening .bulletList 1, .opening .blockquote 2, .closing .blockquote 2,
    .closing .bulletList 1, .leaf .rule 1, .closing .blockquote 0]

theorem pairsUp_nestedQuotes :
    checkBalance nestedQuotes = .ok () ∧
      ∃ ps, pairs nestedQuotes = .ok ps ∧ PairsUp nestedQuotes ps :=
  ⟨rfl, pairsUp_of_checkBalance rfl⟩

end Folio
