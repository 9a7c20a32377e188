import Folio.Proofs.ElementBlocks

/-!
# The blocks that a token is given

The block at the end of a run goes to the block around the run, which begins one token before the
run, or two tokens before it if the first of these is hidden.  So a token can be given the block of
the next token or of the one behind that, and of no other, and never of both, for a run begins
nothing.  What becomes of a token can thus be told from the token, the two tokens behind it, and
whether something in front of it takes its own block.

The plugin goes through the tokens once.  What it has made of the tokens that it has passed is what
would become of them if no token followed: one more token changes this by the block that it gives
away, and by nothing else.

## Main definitions

* `Attributes.received?` — the block that a token is given by the two tokens behind it.
* `Attributes.own` — a token without the blocks in its own texts.
* `Attributes.passed` — what becomes of the tokens that have been passed.

## Main results

* `Attributes.passed_singleton` — **one more token gives its block away, and changes nothing else
  before it.**
* `Attributes.getElem?_revise` — **what becomes of a token.**
-/

namespace Folio

namespace Plugin.Attributes

variable {d : Delimiters}

/-! ### What becomes of a token -/

/-- The block at the end of a run, behind the blocks of its elements. -/
def endBlock? (d : Delimiters) (run : Token) : Option AttributeBlock :=
  if run.kind = .inline then (stripChildren? d (toElements d run.children)).map Prod.snd else none

/-- The block that a token is given by the tokens behind it. -/
def received? (d : Delimiters) (t : Token) : (behind : List Token) → Option AttributeBlock
  | [] => none
  | next :: behind =>
    if t.isOpening && !t.hidden && next.kind == .inline then endBlock? d next
    else if t.kind == .listItem && t.isOpening && next.isOpening && next.hidden then
      behind.head?.bind (endBlock? d)
    else none

/-- A token without the blocks in its own texts, given the tokens before it, last first. -/
def own (d : Delimiters) (before : List Token) (t : Token) : Token :=
  match t.kind with
  | .fence => toFence d t
  | .inline => strippedRun d before t
  | _ => t

/-- What becomes of tokens that have been passed, last first, when the tokens of `behind` have been
passed as well. -/
def passed (d : Delimiters) : (before behind : List Token) → List Token
  | [], _ => []
  | t :: before, behind =>
    attach (received? d t behind) (own d before t) :: passed d before (t :: behind)

theorem own_of_fence {t : Token} (h : t.kind = .fence) (before : List Token) :
    own d before t = toFence d t := by
  rw [own, h]

theorem own_of_inline {t : Token} (h : t.kind = .inline) (before : List Token) :
    own d before t = strippedRun d before t := by
  rw [own, h]

theorem own_of_ne {t : Token} (hf : t.kind ≠ .fence) (hi : t.kind ≠ .inline)
    (before : List Token) : own d before t = t := by
  unfold own
  split
  · next h => exact absurd h hf
  · next h => exact absurd h hi
  · rfl

theorem sameShape_own (before : List Token) (t : Token) : SameShape t (own d before t) := by
  unfold own
  split
  · exact (attaches_toFence (isAttachment_sameButAttrs d) t).sameShape
  · exact sameShape_strippedRun
  · exact ⟨rfl, rfl, rfl⟩

theorem forall₂_passed (before : List Token) :
    ∀ behind, List.Forall₂ SameShape before (passed d before behind) := by
  induction before with
  | nil => exact fun _ => .nil
  | cons t before ih =>
    exact fun behind =>
      .cons ((sameShape_own before t).trans (changesAttrs_attach _ _).sameButAttrs.sameShape) (ih _)

/-- The tokens that have been passed when the run `t` has given away the block at its end. -/
def giveEnd (d : Delimiters) (t : Token) (done : List Token) : List Token :=
  match endBlock? d t with
  | some block => (modifyOwner? block.apply done).getD done
  | none => done

/-- What one step does. -/
theorem reviseAfter_cons {before done : List Token} (h : List.Forall₂ SameShape before done)
    (t : Token) (ts : List Token) :
    reviseAfter d done (t :: ts) = reviseAfter d (own d before t :: giveEnd d t done) ts := by
  by_cases hi : t.kind = .inline
  · have howner := hasOwner_congr h
    rw [reviseAfter_inline d hi, own_of_inline hi, giveEnd, endBlock?, if_pos hi]
    cases hs : stripChildren? d (toElements d t.children) with
    | none =>
      rw [toBlock?_of_none d hs, strippedRun_of_none hs]
      rfl
    | some found =>
      obtain ⟨rest, block⟩ := found
      have hsome := isSome_modifyOwner? block.apply done
      rw [toBlock?_of_some d hs]
      cases hm : modifyOwner? block.apply done with
      | none =>
        rw [hm, howner] at hsome
        rw [strippedRun_of_noOwner hsome.symm]
        simp [hm]
      | some done' =>
        rw [hm, howner] at hsome
        rw [strippedRun_of_owner hs hsome.symm]
        simp [hm]
  · rw [giveEnd, endBlock?, if_neg hi, reviseAfter]
    split
    · next hf => rw [own_of_fence hf]
    · next h => exact absurd h hi
    · next hf _ => rw [own_of_ne hf hi]

/-! ### The tokens that have been passed -/

/-- The tokens that hold inline content begin nothing. -/
def RunsAreSingle (ts : List Token) : Prop := ∀ t ∈ ts, t.kind = .inline → t.nesting = .single

theorem RunsAreSingle.ne_of_isOpening {ts : List Token} (h : RunsAreSingle ts) {t : Token}
    (ht : t ∈ ts) (ho : t.isOpening = true) : t.kind ≠ .inline := by
  intro hk
  have hn := h t ht hk
  simp [Token.isOpening, hn] at ho

theorem received?_singleton (t next : Token) : received? d t [next]
    = if t.isOpening && !t.hidden && next.kind == .inline then endBlock? d next else none := by
  simp [received?]

/-- What an opening token and the run behind it give to the token before them. -/
theorem received?_opening {o : Token} (ho : o.isOpening = true) (hk : o.kind ≠ .inline)
    (t run : Token) (behind : List Token) : received? d t (o :: run :: behind)
      = if t.kind == .listItem && t.isOpening && o.hidden then endBlock? d run else none := by
  simp [received?, ho, hk]

/-- A token is given nothing from more than two tokens behind it. -/
theorem passed_congr (before : List Token) : ∀ (t next : Token) (behind behind' : List Token),
    passed d before (t :: next :: behind) = passed d before (t :: next :: behind') := by
  induction before with
  | nil => exact fun _ _ _ _ => rfl
  | cons u before ih =>
    intro t next behind behind'
    have hreceived : received? d u (t :: next :: behind)
        = received? d u (t :: next :: behind') := rfl
    rw [passed, passed, hreceived, ih]

/-- Behind a token that is not hidden a run gives nothing to the tokens before that one. -/
theorem passed_pair {o t : Token} (h : (o.isOpening && o.hidden) = false ∨ endBlock? d t = none)
    (before : List Token) : passed d before [o, t] = passed d before [o] := by
  cases before with
  | nil => rfl
  | cons item before =>
    have hreceived : received? d item [o, t] = received? d item [o] := by
      rcases h with h | h
      · have hcond : (item.kind == .listItem && item.isOpening && o.isOpening && o.hidden)
            = false := by
          rw [Bool.and_assoc, h, Bool.and_false]
        simp only [received?, hcond, Bool.false_eq_true, if_false]
      · simp [received?, h]
    rw [passed, passed, passed_congr before item o [t] [], hreceived]

/-- **Behind one more token the tokens before it are what they were**, but for the block that the
token gives away. -/
theorem passed_singleton {before : List Token} {t : Token} (h : RunsAreSingle (t :: before)) :
    passed d before [t] = giveEnd d t (passed d before []) := by
  -- A run looks for its owner among the two tokens before it, so the cases are those of the two.
  cases before with
  | nil =>
    unfold giveEnd
    split <;> rfl
  | cons o before =>
    obtain ⟨-, hn, hh⟩ := sameShape_own (d := d) before o
    rw [passed, passed, received?_singleton]
    cases hend : endBlock? d t with
    | none =>
      rw [passed_pair (.inr hend), giveEnd, hend, ite_self]
      rfl
    | some block =>
      have hrun : t.kind = .inline := by
        by_contra hk
        rw [endBlock?, if_neg hk] at hend
        cases hend
      rw [giveEnd, hend]
      dsimp only
      cases ho : o.isOpening with
      | false =>
        have hu : (own d before o).isOpening = false := by rwa [Token.isOpening, hn]
        rw [passed_pair (.inl (by rw [ho, Bool.false_and]))]
        simp [modifyOwner?, received?, hu]
      | true =>
        have hu : (own d before o).isOpening = true := by rwa [Token.isOpening, hn]
        cases hhidden : o.hidden with
        | false =>
          have hshown : (own d before o).hidden = false := by rw [hh, hhidden]
          rw [passed_pair (.inl (by rw [hhidden, Bool.and_false]))]
          simp [modifyOwner?, received?, hu, hshown, hrun]
        | true =>
          have hshown : (own d before o).hidden = true := by rw [hh, hhidden]
          cases before with
          | nil => simp [modifyOwner?, received?, passed, hu, hshown]
          | cons item before =>
            -- The item around the hidden token is given the block.
            have hk := h.ne_of_isOpening (.tail t List.mem_cons_self) ho
            obtain ⟨hkind, hn', -⟩ := sameShape_own (d := d) before item
            have hitem : (own d before item).isOpening = item.isOpening := by
              rw [Token.isOpening, hn', Token.isOpening]
            have hnone : received? d item [o] = none := by simp [received?, hk]
            rw [passed, passed, passed_congr before item o [t] [], received?_opening ho hk, hnone]
            cases hlist : (item.kind == Kind.listItem && item.isOpening) <;>
              simp [modifyOwner?, received?, hu, hshown, hkind, hitem, hlist, hhidden, hend]

/-- The plugin passes over a list from its beginning to its end. -/
theorem reviseAfter_passed (ts : List Token) : ∀ before, RunsAreSingle (ts.reverse ++ before) →
    reviseAfter d (passed d before []) ts = (passed d (ts.reverse ++ before) []).reverse := by
  induction ts with
  | nil => exact fun _ _ => rfl
  | cons t ts ih =>
    intro before h
    rw [List.reverse_cons, List.append_assoc, List.singleton_append] at h ⊢
    have hlast : RunsAreSingle (t :: before) := fun u hu => h u (List.mem_append_right _ hu)
    have hstep : own d before t :: giveEnd d t (passed d before [])
        = passed d (t :: before) [] := by
      rw [passed, passed_singleton hlast]
      rfl
    rw [reviseAfter_cons (forall₂_passed before []), hstep, ih (t :: before) h]

theorem revise_eq {ts : List Token} (h : RunsAreSingle ts) :
    revise d ts = (passed d ts.reverse []).reverse := by
  have hpassed := reviseAfter_passed (d := d) ts [] fun t ht => h t (by simpa using ht)
  rwa [List.append_nil] at hpassed

theorem exists_passed_append (xs before : List Token) : ∀ behind, ∃ ys,
    passed d (xs ++ before) behind = ys ++ passed d before (xs.reverse ++ behind) ∧
      ys.length = xs.length := by
  induction xs with
  | nil => exact fun _ => ⟨[], rfl, rfl⟩
  | cons x xs ih =>
    intro behind
    obtain ⟨ys, hpassed, hlength⟩ := ih (x :: behind)
    exact ⟨attach (received? d x behind) (own d (xs ++ before) x) :: ys,
      by simp [passed, hpassed], by simp [hlength]⟩

/-- **What becomes of a token**: it has the block of the run behind it attached, and is without the
blocks of its own. -/
theorem getElem?_revise {ts : List Token} (h : RunsAreSingle ts) {i : Nat} {t : Token}
    (ht : ts[i]? = some t) : (revise d ts)[i]?
      = some (attach (received? d t (ts.drop (i + 1))) (own d (ts.take i).reverse t)) := by
  obtain ⟨pre, post, rfl, rfl⟩ := exists_eq_append_of_getElem? ht
  obtain ⟨ys, hpassed, -⟩ := exists_passed_append (d := d) post.reverse (t :: pre.reverse) []
  have hlength : (passed d pre.reverse (t :: post)).reverse.length = pre.length := by
    rw [List.length_reverse, ← (forall₂_passed pre.reverse (t :: post)).length_eq,
      List.length_reverse]
  have hdrop : (pre ++ t :: post).drop (pre.length + 1) = post := by simp
  rw [revise_eq h, List.reverse_append, List.reverse_cons, List.append_assoc,
    List.singleton_append, hpassed, List.reverse_append, passed, List.reverse_reverse,
    List.append_nil, List.reverse_cons, List.append_assoc, List.getElem?_append_right (by omega),
    hlength, Nat.sub_self, hdrop, List.take_left]
  rfl

theorem length_revise {ts : List Token} (h : RunsAreSingle ts) :
    (revise d ts).length = ts.length := by
  rw [revise_eq h, List.length_reverse, ← (forall₂_passed ts.reverse []).length_eq,
    List.length_reverse]

end Plugin.Attributes

end Folio
