import Folio.Proofs.Partners
import Mathlib.Order.Bounds.Basic

/-!
# What breaks a balance

The balance check reads a list once and stops at the first token that it cannot explain.  A prefix
of a nested list leaves some containers open, and the stack of the check is the list of them: each
with its place, the innermost first, and nested lists between them.  So the prefix can always be
completed, by closing what is open.  A closing token that does not close the innermost container
cannot be completed to anything, and no other token is like that.

## Main definitions

* `BeginsNested` — a nested list can begin so.
* `BreaksAt` — the first token with which no nested list can begin.
* `IsOpenBefore` — a token begins a container that is still open at a place.
* `Opens` — the containers that a list leaves open.
* `Imbalance.Describes` — what an imbalance says about a list.

## Main results

* `Opens.isGreatest` — the top of the stack is the innermost container that is open.
* `describes_of_checkBalanceFrom` — what the check finds behind a prefix is so.
* `locates_checkBalance` — **the balance check accepts the nested lists, and of every other list it
  tells the first place at which, and why, it is no prefix of one.**
-/

namespace Folio

open BracketOf (IsBalanced scan)

/-! ### Prefixes of nested lists -/

/-- A nested list can begin so. -/
def BeginsNested (ts : List Token) : Prop := ∃ rest, Nested (ts ++ rest)

/-- The token at this place is the first one with which no nested list can begin. -/
def BreaksAt (ts : List Token) (index : Nat) : Prop :=
  ∀ n, BeginsNested (ts.take n) ↔ n ≤ index

/-- The token at a place has this nesting and this kind. -/
def TokenAt (ts : List Token) (index : Nat) (nesting : Nesting) (kind : Kind) : Prop :=
  ∃ t, ts[index]? = some t ∧ t.nesting = nesting ∧ t.kind = kind

/-- The token at `start` begins a container that no token before `index` ends. -/
structure IsOpenBefore (ts : List Token) (index start : Nat) : Prop where
  lt : start < index
  opening : ∃ t, ts[start]? = some t ∧ t.nesting = .opening
  unclosed : ∀ j, ArePartners ts start j → index ≤ j

/-- What an imbalance says about a list. -/
def Imbalance.Describes (ts : List Token) : Imbalance → Prop
  | .crossed opened closed index start =>
    BreaksAt ts index ∧ TokenAt ts index .closing closed ∧ opened ≠ closed ∧
      TokenAt ts start .opening opened ∧ IsGreatest {i | IsOpenBefore ts index i} start
  | .unmatched closed index =>
    BreaksAt ts index ∧ TokenAt ts index .closing closed ∧ ∀ i, ¬ IsOpenBefore ts index i
  | .unclosed opened start =>
    BeginsNested ts ∧ TokenAt ts start .opening opened ∧
      IsGreatest {i | IsOpenBefore ts ts.length i} start

section Prefixes

variable {ts us : List Token} {index index' : Nat}

theorem Nested.beginsNested (h : Nested ts) : BeginsNested ts := ⟨[], by rwa [List.append_nil]⟩

theorem BeginsNested.of_append (h : BeginsNested (ts ++ us)) : BeginsNested ts := by
  obtain ⟨rest, hrest⟩ := h
  exact ⟨us ++ rest, by rwa [← List.append_assoc]⟩

theorem BeginsNested.take (h : BeginsNested ts) (n : Nat) : BeginsNested (ts.take n) := by
  rw [← List.take_append_drop n ts] at h
  exact h.of_append

theorem BeginsNested.exists_scan (h : BeginsNested ts) :
    ∃ stack, scan [] (brackets ts) = some stack := by
  obtain ⟨rest, hrest⟩ := h
  have hscan := hrest.balanced
  rw [brackets, bracketsBy_append, IsBalanced, BracketOf.scan_append] at hscan
  obtain ⟨stack, hstack, -⟩ := Option.bind_eq_some_iff.mp hscan
  exact ⟨stack, hstack⟩

theorem breaksAt_of_append {t : Token} (h : BeginsNested ts) (ht : ¬ BeginsNested (ts ++ [t])) :
    BreaksAt (ts ++ t :: us) ts.length := by
  intro n
  constructor
  · intro hn
    by_contra hlt
    have hlen : (ts ++ [t]).length ≤ n := by simp; omega
    rw [List.append_cons, List.take_append, List.take_of_length_le hlen] at hn
    exact ht hn.of_append
  · intro hn
    rw [List.take_append_of_le_length hn]
    exact h.take n

theorem BreaksAt.eq (h : BreaksAt ts index) (h' : BreaksAt ts index') : index = index' :=
  Nat.le_antisymm ((h' index).mp ((h index).mpr (Nat.le_refl _)))
    ((h index').mp ((h' index').mpr (Nat.le_refl _)))

theorem BreaksAt.not_beginsNested (h : BreaksAt ts index) : ¬ BeginsNested ts := fun hts =>
  absurd ((h (index + 1)).mp (hts.take _)) (Nat.not_succ_le_self index)

theorem TokenAt.kind_eq {nesting : Nesting} {k k' : Kind} (h : TokenAt ts index nesting k)
    (h' : TokenAt ts index nesting k') : k = k' := by
  obtain ⟨t, ht, -, rfl⟩ := h
  obtain ⟨t', ht', -, rfl⟩ := h'
  rw [ht, Option.some.injEq] at ht'
  rw [ht']

end Prefixes

/-! ### Open containers -/

theorem ArePartners.exists_eq {ts : List Token} {i j : Nat} (h : ArePartners ts i j) :
    ∃ (pre : List Token) (o : Token) (body : List Token) (c : Token) (rest : List Token),
      ts = pre ++ o :: (body ++ c :: rest) ∧ pre.length = i ∧ j = i + 1 + body.length ∧
        c.nesting = .closing ∧ Nested body := by
  cases h with
  | @intro pre o body c rest ho hc hk hbody =>
    exact ⟨pre, o, body, c, rest, rfl, rfl, rfl, hc, hbody⟩

/-- No container that begins in a nested list is open behind it. -/
theorem not_isOpenBefore_of_nested {pre body rest : List Token} (hbody : Nested body) {i : Nat}
    (hi : pre.length ≤ i) : ¬ IsOpenBefore (pre ++ (body ++ rest)) (pre ++ body).length i := by
  rintro ⟨hlt, ⟨o, ho, hon⟩, hunclosed⟩
  rw [List.length_append] at hlt
  rw [List.getElem?_append_right hi, List.getElem?_append_left (by omega)] at ho
  obtain ⟨before, tail, rfl, hlen⟩ := exists_eq_append_of_getElem? ho
  obtain ⟨inner, c, after, rfl, hc, hk, hinner⟩ := exists_partner Token.kind hon hbody.balanced
  have hpair := ((ArePartners.intro before after hon hc hk
    (nested_of_balanced hinner)).append_right rest).append_left pre
  have hj := hunclosed _ (by rwa [hlen, Nat.add_sub_cancel' hi] at hpair)
  simp only [List.length_append, List.length_cons] at hj
  omega

/-- A token is open behind the nested list that follows it. -/
theorem isOpenBefore_of_nested {pre body rest : List Token} {o : Token} (ho : o.nesting = .opening)
    (hbody : Nested body) :
    IsOpenBefore (pre ++ o :: (body ++ rest)) (pre ++ o :: body).length pre.length := by
  refine ⟨by simp, ⟨o, by simp, ho⟩, fun j hj => ?_⟩
  obtain ⟨pre', o', inner, c, after, heq, hlen, rfl, hc, hinner⟩ := hj.exists_eq
  obtain ⟨rfl, hcons⟩ := List.append_inj heq hlen.symm
  obtain ⟨rfl, htail⟩ := List.cons.inj hcons
  by_contra hlt
  simp only [List.length_append, List.length_cons] at hlt
  -- A partner within the nested list would close a container that does not begin there.
  obtain ⟨mid, rfl⟩ : ∃ mid, body = inner ++ c :: mid := by
    rw [List.append_cons] at htail
    have hprefix : inner ++ [c] <+: body :=
      List.prefix_of_prefix_length_le ⟨after, htail.symm⟩ (List.prefix_append body rest)
        (by simp; omega)
    obtain ⟨mid, rfl⟩ := hprefix
    exact ⟨mid, by simp⟩
  have hscan := hbody.balanced
  have hpass := hinner.balanced
  rw [brackets] at hscan hpass
  rw [bracketsBy_append, bracketsBy_cons_closing _ hc, IsBalanced, hpass.scan_append] at hscan
  cases hscan

/-- The containers that a list leaves open, each with its place and its kind, the innermost
first. -/
inductive Opens : List Token → List (Nat × Kind) → Prop
  | nested {ts : List Token} (hts : Nested ts) : Opens ts []
  | opening {pre : List Token} {stack : List (Nat × Kind)} {o : Token} {body : List Token}
      (hpre : Opens pre stack) (ho : o.nesting = .opening) (hbody : Nested body) :
      Opens (pre ++ o :: body) ((pre.length, o.kind) :: stack)

namespace Opens

variable {ts xs : List Token} {stack : List (Nat × Kind)} {start : Nat} {kind : Kind} {t : Token}

theorem append (h : Opens ts stack) (hxs : Nested xs) : Opens (ts ++ xs) stack := by
  cases h with
  | nested hts => exact .nested (hts.append hxs)
  | opening hpre ho hbody =>
    rw [List.append_assoc, List.cons_append]
    exact .opening hpre ho (hbody.append hxs)

theorem push (h : Opens ts stack) (ht : t.nesting = .opening) :
    Opens (ts ++ [t]) ((ts.length, t.kind) :: stack) := .opening h ht .nil

theorem single (h : Opens ts stack) (ht : t.nesting = .single) : Opens (ts ++ [t]) stack :=
  h.append (.single ht .nil)

theorem pop (h : Opens ts ((start, kind) :: stack)) (ht : t.nesting = .closing)
    (hk : t.kind = kind) : Opens (ts ++ [t]) stack := by
  cases h with
  | opening hpre ho hbody =>
    rw [List.append_assoc, List.cons_append]
    exact hpre.append (.pair ho ht hk hbody .nil)

theorem scan_eq (h : Opens ts stack) : scan [] (brackets ts) = some (stack.map Prod.snd) := by
  induction h with
  | nested hts => exact hts.balanced
  | @opening pre stack o body _ ho hbody ih =>
    rw [brackets] at ih
    rw [brackets, bracketsBy_append, BracketOf.scan_append_of_eq ih,
      bracketsBy_cons_opening _ ho, BracketOf.scan_opening]
    exact hbody.balanced.scan_eq _

/-- What is left open can be closed. -/
theorem beginsNested (h : Opens ts stack) : BeginsNested ts := by
  induction h with
  | nested hts => exact hts.beginsNested
  | @opening pre stack o body _ ho hbody ih =>
    obtain ⟨rest, hrest⟩ := ih
    have hpair : Nested (o :: body ++ [Token.closing o.kind 0]) := .pair ho rfl rfl hbody .nil
    refine ⟨Token.closing o.kind 0 :: rest, nested_of_balanced ?_⟩
    have hremove : IsBalanced (brackets pre ++ brackets (o :: body ++ [Token.closing o.kind 0]) ++
        brackets rest) ↔ IsBalanced (brackets pre ++ brackets rest) :=
      BracketOf.balanced_remove hpair.balanced
    simp only [brackets, ← bracketsBy_append] at hremove
    have hall := hremove.mpr hrest.balanced
    simpa [brackets] using hall

/-- **The top of the stack is the innermost container that is open.** -/
theorem isGreatest (h : Opens ts ((start, kind) :: stack)) (rest : List Token) :
    TokenAt (ts ++ rest) start .opening kind ∧
      IsGreatest {i | IsOpenBefore (ts ++ rest) ts.length i} start := by
  cases h with
  | @opening pre stack o body hpre ho hbody =>
    rw [List.append_assoc, List.cons_append]
    refine ⟨⟨o, by simp, ho, rfl⟩, isOpenBefore_of_nested ho hbody, fun i hi => ?_⟩
    by_contra hlt
    have hi : IsOpenBefore ((pre ++ [o]) ++ (body ++ rest)) ((pre ++ [o]) ++ body).length i := by
      simpa using hi
    exact not_isOpenBefore_of_nested hbody (by simp; omega) hi

theorem not_isOpenBefore (h : Opens ts []) (rest : List Token) (i : Nat) :
    ¬ IsOpenBefore (ts ++ rest) ts.length i := by
  cases h with
  | nested hts =>
    intro hi
    have hi : IsOpenBefore ([] ++ (ts ++ rest)) ([] ++ ts).length i := hi
    exact not_isOpenBefore_of_nested hts (Nat.zero_le i) hi

/-- A closing token has to close the innermost container. -/
theorem breaksAt (h : Opens ts stack) (ht : t.nesting = .closing)
    (hstack : ∀ top ∈ stack.head?, top.2 ≠ t.kind) (rest : List Token) :
    BreaksAt (ts ++ t :: rest) ts.length := by
  refine breaksAt_of_append h.beginsNested fun hbegins => ?_
  obtain ⟨s, hs⟩ := hbegins.exists_scan
  have hscan := h.scan_eq
  rw [brackets] at hscan
  rw [brackets, bracketsBy_append, BracketOf.scan_append_of_eq hscan,
    bracketsBy_cons_closing _ ht] at hs
  cases stack with
  | nil => cases hs
  | cons top stack =>
    rw [List.map_cons, BracketOf.scan_closing_cons, if_neg (hstack top rfl)] at hs
    cases hs

end Opens

/-! ### The check -/

/-- **What the check finds behind a prefix is so.**  Its stack holds what the prefix leaves open. -/
theorem describes_of_checkBalanceFrom {e : Imbalance} (ts : List Token) :
    ∀ (pre : List Token) (stack : List (Nat × Kind)), Opens pre stack →
      checkBalanceFrom stack pre.length ts = .error e → e.Describes (pre ++ ts) := by
  induction ts with
  | nil =>
    intro pre stack hopens herror
    cases stack with
    | nil => cases herror
    | cons top stack =>
      obtain ⟨start, kind⟩ := top
      cases herror
      obtain ⟨htoken, hgreatest⟩ := hopens.isGreatest []
      rw [List.append_nil] at htoken hgreatest ⊢
      exact ⟨hopens.beginsNested, htoken, hgreatest⟩
  | cons t ts ih =>
    intro pre stack hopens herror
    have hlength : (pre ++ [t]).length = pre.length + 1 := by simp
    have htoken : (pre ++ t :: ts)[pre.length]? = some t := by simp
    cases hn : t.nesting with
    | opening =>
      rw [checkBalanceFrom_opening hn, ← hlength] at herror
      rw [List.append_cons]
      exact ih _ _ (hopens.push hn) herror
    | single =>
      rw [checkBalanceFrom_single hn, ← hlength] at herror
      rw [List.append_cons]
      exact ih _ _ (hopens.single hn) herror
    | closing =>
      cases stack with
      | nil =>
        obtain rfl : Imbalance.unmatched t.kind pre.length = e := by
          simpa [checkBalanceFrom, hn] using herror
        exact ⟨hopens.breaksAt hn (by simp) ts, ⟨t, htoken, hn, rfl⟩, hopens.not_isOpenBefore _⟩
      | cons top stack =>
        obtain ⟨start, kind⟩ := top
        by_cases hk : kind = t.kind
        · rw [checkBalanceFrom] at herror
          simp only [hn, hk, beq_self_eq_true, if_true, ← hlength] at herror
          rw [List.append_cons]
          exact ih _ _ (hopens.pop hn hk.symm) herror
        · obtain rfl : Imbalance.crossed kind t.kind pre.length start = e := by
            simpa [checkBalanceFrom, hn, hk] using herror
          exact ⟨hopens.breaksAt hn (by simpa using hk) ts, ⟨t, htoken, hn, rfl⟩, hk,
            hopens.isGreatest _⟩

/-- A list has at most one imbalance. -/
theorem Imbalance.Describes.eq {ts : List Token} {e e' : Imbalance} (h : e.Describes ts)
    (h' : e'.Describes ts) : e = e' := by
  cases e with
  | crossed opened closed index start =>
    obtain ⟨hbreaks, hclosed, -, hopened, hgreatest⟩ := h
    cases e' with
    | crossed opened' closed' index' start' =>
      obtain ⟨hbreaks', hclosed', -, hopened', hgreatest'⟩ := h'
      obtain rfl := hbreaks.eq hbreaks'
      obtain rfl := hgreatest.unique hgreatest'
      rw [hclosed.kind_eq hclosed', hopened.kind_eq hopened']
    | unmatched closed' index' =>
      obtain ⟨hbreaks', -, hnone⟩ := h'
      obtain rfl := hbreaks.eq hbreaks'
      exact absurd hgreatest.1 (hnone start)
    | unclosed opened' start' => exact absurd h'.1 hbreaks.not_beginsNested
  | unmatched closed index =>
    obtain ⟨hbreaks, hclosed, hnone⟩ := h
    cases e' with
    | crossed opened' closed' index' start' =>
      obtain ⟨hbreaks', -, -, -, hgreatest'⟩ := h'
      obtain rfl := hbreaks.eq hbreaks'
      exact absurd hgreatest'.1 (hnone start')
    | unmatched closed' index' =>
      obtain ⟨hbreaks', hclosed', -⟩ := h'
      obtain rfl := hbreaks.eq hbreaks'
      rw [hclosed.kind_eq hclosed']
    | unclosed opened' start' => exact absurd h'.1 hbreaks.not_beginsNested
  | unclosed opened start =>
    obtain ⟨hbegins, hopened, hgreatest⟩ := h
    cases e' with
    | crossed opened' closed' index' start' => exact absurd hbegins h'.1.not_beginsNested
    | unmatched closed' index' => exact absurd hbegins h'.1.not_beginsNested
    | unclosed opened' start' =>
      obtain ⟨-, hopened', hgreatest'⟩ := h'
      obtain rfl := hgreatest.unique hgreatest'
      rw [hopened.kind_eq hopened']

/-- A nested list has none. -/
theorem Nested.not_describes {ts : List Token} (h : Nested ts) (e : Imbalance) :
    ¬ e.Describes ts := by
  intro he
  cases e with
  | crossed opened closed index start => exact he.1.not_beginsNested h.beginsNested
  | unmatched closed index => exact he.1.not_beginsNested h.beginsNested
  | unclosed opened start =>
    exact (Opens.nested h).not_isOpenBefore [] start (by simpa using he.2.2.1)

/-- **The balance check accepts exactly the nested lists.**  Of every other list it reports what
breaks the balance: the first token with which no nested list can begin, together with the innermost
container that is open there, or the last container that stays open. -/
theorem locates_checkBalance (ts : List Token) :
    (checkBalance ts = .ok () ↔ Nested ts) ∧
      ∀ e, checkBalance ts = .error e ↔ e.Describes ts := by
  have hok : checkBalance ts = .ok () ↔ Nested ts :=
    checkBalance_eq_ok_iff.trans nested_iff_balanced.symm
  have hsound : ∀ e, checkBalance ts = .error e → e.Describes ts := fun e herror =>
    describes_of_checkBalanceFrom ts [] [] (.nested .nil) herror
  refine ⟨hok, fun e => ⟨hsound e, fun he => ?_⟩⟩
  -- The check reports something, and a list has one imbalance only.
  cases hcheck : checkBalance ts with
  | ok => exact absurd he ((hok.mp hcheck).not_describes e)
  | error e' => rw [(hsound e' hcheck).eq he]

/-- The quote is closed while the list item in it is open. -/
example : checkBalance [.opening .blockquote 0, .leaf .rule 1, .opening .listItem 1,
    .closing .blockquote 0] = .error (.crossed .listItem .blockquote 3 2) := rfl

end Folio
