import Folio.Proofs.AssemblyBalance
import Folio.Proofs.ReceivedBlocks

/-!
# Where attribute blocks go

An attribute block is taken off a text before it is known whether there is anything that it could
be attached to.  In a document nothing is lost by this.  A block behind an element is handed back to
the element, a block behind a fence stays with its code block, and the block at the end of a run is
cut off only if the token before the run, or the list item before a hidden one, begins the block
around the run.  A run has one such owner, and an owner has one run, so every block that is taken
off goes to exactly one token, and no token is given two.

## Main definitions

* `IsOwner` — the token that begins the block around a run.
* `GoesTo` — a block is taken off one token and attached to another one, or to the same.
* `AreNestedBlocks` — the tokens of properly nested events.
* `AttachesBlocks` — all that the attribute plugin does.

## Main results

* `IsOwner.unique`, `IsOwner.run_unique` — a run has one owner, and an owner one run.
* `AreNestedBlocks.exists_arePartners` — the owner begins a block around the run.
* `attachesBlocks_revise` — **of properly nested events, every block that is taken off a text goes
  to exactly one token: to the element that it follows, to the block around its run, or to its
  fence.**
-/

namespace Folio

open BracketOf (IsBalanced)
open Plugin.Attributes (RunsAreSingle endBlock? getElem?_revise hasOwner own_of_fence own_of_inline
  own_of_ne length_revise received? revise stripChildren? strippedRun strippedRun_of_noOwner
  strippedRun_of_none strippedRun_of_owner toElements toFence)

/-! ### Owners -/

/-- The token at one index begins the block around the run at another one.  A hidden block has its
list item for this. -/
inductive IsOwner (ts : List Token) : (owner run : Nat) → Prop
  | block {j : Nat} {o : Token} (ho : ts[j]? = some o) (hn : o.nesting = .opening)
      (hh : o.hidden = false) : IsOwner ts j (j + 1)
  | item {j : Nat} {t o : Token} (ht : ts[j]? = some t) (hk : t.kind = .listItem)
      (hn : t.nesting = .opening) (ho : ts[j + 1]? = some o) (hno : o.nesting = .opening)
      (hh : o.hidden = true) : IsOwner ts j (j + 2)

section Owners

variable {d : Delimiters} {ts : List Token} {i i' j j' : Nat}

theorem IsOwner.exists_opening (h : IsOwner ts j i) :
    ∃ o, ts[j]? = some o ∧ o.nesting = .opening := by
  cases h with
  | block ho hn => exact ⟨_, ho, hn⟩
  | item ht _ hn => exact ⟨_, ht, hn⟩

theorem IsOwner.lt (h : IsOwner ts j i) : j < i := by
  cases h <;> omega

/-- **A run has one owner at most**, for the token before it is hidden or not. -/
theorem IsOwner.unique (h : IsOwner ts j i) (h' : IsOwner ts j' i) : j = j' := by
  have hclash : ∀ {k : Nat} {o u : Token}, ts[k]? = some o → ts[k]? = some u → o.hidden = false →
      u.hidden = true → False := by
    intro k o u ho hu hshown hhidden
    rw [ho, Option.some.injEq] at hu
    rw [hu, hhidden] at hshown
    cases hshown
  generalize hi : i = i' at h'
  cases h with
  | block ho _ hh =>
    cases h' with
    | block => exact Nat.succ.inj hi
    | item _ _ _ hu _ hhidden =>
      obtain rfl := Nat.succ.inj hi
      exact (hclash ho hu hh hhidden).elim
  | item _ _ _ hu _ hhidden =>
    cases h' with
    | block ho _ hh =>
      obtain rfl := Nat.succ.inj hi
      exact (hclash ho hu hh hhidden).elim
    | item => exact Nat.add_right_cancel hi

/-- **An owner has one run at most**, for a run begins nothing. -/
theorem IsOwner.run_unique (hruns : RunsAreSingle ts) {run run' : Token} (h : IsOwner ts j i)
    (h' : IsOwner ts j i') (hrun : ts[i]? = some run) (hrun' : ts[i']? = some run')
    (hk : run.kind = .inline) (hk' : run'.kind = .inline) : i = i' := by
  have hclash : ∀ {k : Nat} {o u : Token}, ts[k]? = some o → ts[k]? = some u → o.kind = .inline →
      u.nesting = .opening → False := by
    intro k o u ho hu hkind hn
    rw [ho, Option.some.injEq] at hu
    have hsingle := hruns o (List.mem_of_getElem? ho) hkind
    rw [hu, hn] at hsingle
    cases hsingle
  cases h with
  | block =>
    cases h' with
    | block => rfl
    | item _ _ _ ho hno => exact (hclash hrun ho hk hno).elim
  | item _ _ _ ho hno =>
    cases h' with
    | block => exact (hclash hrun' ho hk' hno).elim
    | item => rfl

/-- **A token is given the block of the run that it owns**, if there is one. -/
theorem received?_eq_some_iff (hruns : RunsAreSingle ts) {t : Token} (ht : ts[j]? = some t)
    {block : AttributeBlock} : received? d t (ts.drop (j + 1)) = some block ↔
      ∃ i run, IsOwner ts j i ∧ ts[i]? = some run ∧ endBlock? d run = some block := by
  have hnext : ts[j + 1]? = (ts.drop (j + 1))[0]? := by rw [List.getElem?_drop]
  have hbehind : ts[j + 2]? = (ts.drop (j + 1))[1]? := by rw [List.getElem?_drop]
  constructor
  · intro h
    generalize ts.drop (j + 1) = post at h hnext hbehind
    cases post with
    | nil => cases h
    | cons next post =>
      rw [received?] at h
      split at h
      · next hcond =>
        simp only [Bool.and_eq_true, Token.isOpening, beq_iff_eq, Bool.not_eq_true'] at hcond
        exact ⟨j + 1, next, .block ht hcond.1.1 hcond.1.2, hnext, h⟩
      · split at h
        · next hcond =>
          simp only [Bool.and_eq_true, Token.isOpening, beq_iff_eq] at hcond
          obtain ⟨⟨⟨hk, hn⟩, hno⟩, hh⟩ := hcond
          obtain ⟨run, hrun, hend⟩ := Option.bind_eq_some_iff.mp h
          rw [List.head?_eq_getElem?] at hrun
          exact ⟨j + 2, run, .item ht hk hn hnext hno hh, by rw [hbehind]; exact hrun, hend⟩
        · cases h
  · rintro ⟨i, run, howner, hrun, hend⟩
    have hk : run.kind = .inline := by
      by_contra hk
      rw [endBlock?, if_neg hk] at hend
      cases hend
    cases howner with
    | block ho hn hh =>
      obtain rfl := Option.some.inj (ht.symm.trans ho)
      rw [hrun] at hnext
      generalize ts.drop (j + 1) = post at hnext
      cases post with
      | nil => cases hnext
      | cons next post =>
        obtain rfl : run = next := by simpa using hnext
        simp [received?, Token.isOpening, hn, hh, hk, hend]
    | item ho hkind hn hu hno hh =>
      obtain rfl := Option.some.inj (ht.symm.trans ho)
      have hne := hruns.ne_of_isOpening (List.mem_of_getElem? hu) (by simp [Token.isOpening, hno])
      rw [hu] at hnext
      rw [hrun] at hbehind
      generalize ts.drop (j + 1) = post at hnext hbehind
      cases post with
      | nil => cases hnext
      | cons next post =>
        cases post with
        | nil => cases hbehind
        | cons last post =>
          obtain rfl := Option.some.inj hnext
          obtain rfl := Option.some.inj hbehind
          simp [received?, Token.isOpening, hn, hno, hh, hkind, hne, hend]

/-- The owner of a run is found in the tokens before the run, last first. -/
theorem hasOwner_iff (before post : List Token) :
    hasOwner before = true ↔ ∃ j, IsOwner (before.reverse ++ post) j before.length := by
  match before with
  | [] =>
    refine iff_of_false nofun ?_
    rintro ⟨j, howner⟩
    generalize hlength : List.length ([] : List Token) = i at howner
    cases howner <;> cases hlength
  | [o] =>
    have ho : ([o].reverse ++ post)[0]? = some o := rfl
    simp only [hasOwner, Token.isOpening, Bool.and_eq_true, beq_iff_eq, Bool.not_eq_true']
    constructor
    · exact fun h => ⟨0, .block ho h.1 h.2⟩
    · rintro ⟨j, howner⟩
      generalize hlength : [o].length = i at howner
      cases howner with
      | block hu hn hh =>
        obtain rfl := Nat.succ.inj hlength
        obtain rfl := Option.some.inj (ho.symm.trans hu)
        exact ⟨hn, hh⟩
      | item => cases hlength
  | o :: item :: before =>
    have hitem : ((o :: item :: before).reverse ++ post)[before.length]? = some item := by simp
    have ho : ((o :: item :: before).reverse ++ post)[before.length + 1]? = some o := by simp
    simp only [hasOwner, Token.isOpening, Bool.and_eq_true, Bool.or_eq_true, beq_iff_eq,
      Bool.not_eq_true']
    constructor
    · rintro ⟨hno, hh | ⟨hk, hn⟩⟩
      · exact ⟨before.length + 1, .block ho hno hh⟩
      · cases hh : o.hidden with
        | false => exact ⟨before.length + 1, .block ho hno hh⟩
        | true => exact ⟨before.length, .item hitem hk hn ho hno hh⟩
    · rintro ⟨j, howner⟩
      generalize hlength : (o :: item :: before).length = i at howner
      cases howner with
      | block hu hn hh =>
        obtain rfl := Nat.succ.inj hlength
        obtain rfl := Option.some.inj (ho.symm.trans hu)
        exact ⟨hn, .inl hh⟩
      | item ht hk hn hu hno hh =>
        obtain rfl := Nat.succ.inj (Nat.succ.inj hlength)
        obtain rfl := Option.some.inj (hitem.symm.trans ht)
        obtain rfl := Option.some.inj (ho.symm.trans hu)
        exact ⟨hno, .inr ⟨hk, hn⟩⟩

end Owners

/-! ### All that the plugin does -/

/-- A block that is taken off one token, and the token to which it goes. -/
inductive GoesTo (d : Delimiters) (ts : List Token) :
    (source : Nat) → AttributeBlock → (target : Nat) → Prop
  | fence {i : Nat} {t : Token} {front inner : List Char} {block : AttributeBlock}
      (ht : ts[i]? = some t) (hk : t.kind = .fence)
      (hblock : d.EndsWith t.info.toList front inner block) : GoesTo d ts i block i
  | run {i j : Nat} {t : Token} {mid rest : List Token} {block : AttributeBlock}
      (ht : ts[i]? = some t) (hk : t.kind = .inline)
      (hmid : HandsBack d false t.children mid none) (hcut : CutsEnd d mid rest block)
      (howner : IsOwner ts j i) : GoesTo d ts i block j

/-- A block goes to a fence from its own words only. -/
theorem goesTo_fence_iff {d : Delimiters} {ts : List Token} {i j : Nat} {t : Token}
    {block : AttributeBlock} (ht : ts[i]? = some t) (hk : t.kind = .fence) :
    GoesTo d ts i block j ↔ j = i ∧ ∃ front inner, d.EndsWith t.info.toList front inner block := by
  constructor
  · intro hgoes
    cases hgoes with
    | fence ht' _ hblock =>
      obtain rfl := Option.some.inj (ht.symm.trans ht')
      exact ⟨rfl, _, _, hblock⟩
    | run ht' hk' =>
      obtain rfl := Option.some.inj (ht.symm.trans ht')
      rw [hk] at hk'
      cases hk'
  · rintro ⟨rfl, front, inner, hblock⟩
    exact .fence ht hk hblock

/-- What becomes of a fence. -/
theorem toFence_cases (d : Delimiters) {ts : List Token} {i : Nat} {t : Token}
    (ht : ts[i]? = some t) (hk : t.kind = .fence) :
    (∃ front inner block, d.EndsWith t.info.toList front inner block ∧ GoesTo d ts i block i ∧
      toFence d t = { block.apply t with info := String.ofList (Text.trimEnd front) }) ∨
    ((∀ block, ¬ GoesTo d ts i block i) ∧ toFence d t = t) := by
  cases hs : d.stripTrailing? t.info with
  | none =>
    refine .inr ⟨fun block hgoes => ?_, by rw [toFence, hs]⟩
    obtain ⟨-, front, inner, hblock⟩ := (goesTo_fence_iff ht hk).mp hgoes
    rw [Delimiters.stripTrailing?_eq_some_iff.mpr ⟨front, inner, hblock, rfl⟩] at hs
    cases hs
  | some found =>
    obtain ⟨info, block⟩ := found
    obtain ⟨front, inner, hblock, rfl⟩ := Delimiters.stripTrailing?_eq_some_iff.mp hs
    exact .inl ⟨front, inner, block, hblock, .fence ht hk hblock, by rw [toFence, hs]⟩

/-- The tokens stand for the same at the same place. -/
structure SamePlace (t u : Token) : Prop where
  kind : u.kind = t.kind
  nesting : u.nesting = t.nesting
  level : u.level = t.level
  hidden : u.hidden = t.hidden
  block : u.block = t.block
  /-- Only a run, which caches the text of its children, can read differently. -/
  content : t.kind ≠ .inline → u.content = t.content

/-- All that the attribute plugin does. -/
structure AttachesBlocks (d : Delimiters) (ts us : List Token) : Prop where
  /-- Every token has its place. -/
  places : List.Forall₂ SamePlace ts us
  /-- A block that is taken off is attached to the token to which it goes. -/
  attached : ∀ {i j : Nat} {block : AttributeBlock} {t : Token}, GoesTo d ts i block j →
    ts[j]? = some t → ∃ u, us[j]? = some u ∧ u.attrs = (block.apply t).attrs
  /-- A token to which no block goes keeps its attributes. -/
  untouched : ∀ {j : Nat} {t : Token}, ts[j]? = some t → (∀ i block, ¬ GoesTo d ts i block j) →
    ∃ u, us[j]? = some u ∧ u.attrs = t.attrs
  /-- A block goes to one token. -/
  target_unique : ∀ {i j j' : Nat} {block block' : AttributeBlock}, GoesTo d ts i block j →
    GoesTo d ts i block' j' → block = block' ∧ j = j'
  /-- No two blocks go to one token. -/
  source_unique : ∀ {i i' j : Nat} {block block' : AttributeBlock}, GoesTo d ts i block j →
    GoesTo d ts i' block' j → i = i'
  /-- The owner of a run begins a block around the run. -/
  around : ∀ {i j : Nat} {t : Token}, IsOwner ts j i → ts[i]? = some t → t.kind = .inline →
    ∃ k, ArePartners ts j k ∧ i < k
  /-- The words behind a fence lose their block, and the blanks around it, if it goes somewhere. -/
  info : ∀ {i : Nat} {t u : Token}, ts[i]? = some t → us[i]? = some u →
    (∃ front inner block, d.EndsWith t.info.toList front inner block ∧ GoesTo d ts i block i ∧
      u.info = String.ofList (Text.trimEnd front)) ∨
    ((∀ block, ¬ GoesTo d ts i block i) ∧ u.info = t.info)
  /-- The children of a run hand their blocks back, and the block at their end is cut off if it goes
  somewhere. -/
  children : ∀ {i : Nat} {t u : Token}, ts[i]? = some t → us[i]? = some u → t.kind = .inline →
    ∃ mid, HandsBack d false t.children mid none ∧
      ((∃ block j, GoesTo d ts i block j ∧ CutsEnd d mid u.children block) ∨
        ((∀ block j, ¬ GoesTo d ts i block j) ∧ u.children = mid))
  /-- No other token has children. -/
  childless : ∀ {i : Nat} {t u : Token}, ts[i]? = some t → us[i]? = some u → t.kind ≠ .inline →
    t.children = [] ∧ u.children = []
  /-- All children but the texts stay in order. -/
  elements : ∀ {i : Nat} {t u : Token}, ts[i]? = some t → us[i]? = some u →
    elementsOf u.children = elementsOf t.children
  balanced : ∀ u ∈ us, checkBalance u.children = .ok ()

/-- The tokens of properly nested events: nested, and the children of each run as well. -/
structure AreNestedBlocks (ts : List Token) : Prop where
  nested : Nested ts
  assembled : ∀ t ∈ ts, t.IsAssembled
  children : ∀ t ∈ ts, t.kind = .inline → Nested t.children

theorem areNestedBlocks_assemble {events : List Markdown.Event}
    (h : Markdown.ProperlyNested events) : AreNestedBlocks (Markdown.assemble events).1 where
  nested := nested_of_balanced (balanced_of_shown (Markdown.balanced_assemble events))
  assembled := Markdown.isAssembled_of_mem_assemble events
  children t ht hk := nested_of_balanced (Markdown.balanced_children_of_properlyNested h t ht hk)

namespace AreNestedBlocks

variable {d : Delimiters} {ts : List Token} (h : AreNestedBlocks ts)

include h

theorem single {t : Token} (ht : t ∈ ts) (hk : t.kind = .fence ∨ t.kind = .inline) :
    t.nesting = .single := by
  by_contra hn
  have hpair := (h.assembled t ht).pair hn
  rcases hk with hk | hk <;> (rw [hk] at hpair; cases hpair)

theorem runsAreSingle : RunsAreSingle ts := fun _ ht hk => h.single ht (.inr hk)

/-- The children of a run hand their blocks back. -/
theorem handsBack (d : Delimiters) {t : Token} (ht : t ∈ ts) (hk : t.kind = .inline) :
    HandsBack d false t.children (toElements d t.children) none := by
  have hassembled := h.assembled t ht
  obtain ⟨us, handed, hback, hhanded⟩ := exists_handsBack d (h.children t ht hk)
    (hassembled.separated hk) (fun c hc => (hassembled.children hk c hc).toIsInline) false
  obtain rfl := hhanded rfl
  rwa [hback.toElements_eq]

theorem goesTo_run_iff {i j : Nat} {t : Token} {block : AttributeBlock} (ht : ts[i]? = some t)
    (hk : t.kind = .inline) : GoesTo d ts i block j ↔ IsOwner ts j i ∧
      ∃ rest, CutsEnd d (toElements d t.children) rest block := by
  constructor
  · intro hgoes
    cases hgoes with
    | fence ht' hk' =>
      obtain rfl := Option.some.inj (ht.symm.trans ht')
      rw [hk] at hk'
      cases hk'
    | run ht' _ hmid hcut howner =>
      obtain rfl := Option.some.inj (ht.symm.trans ht')
      exact ⟨howner, _, hmid.toElements_eq ▸ hcut⟩
  · rintro ⟨howner, rest, hcut⟩
    exact .run ht hk (h.handsBack d (List.mem_of_getElem? ht) hk) hcut howner

theorem received?_of_single {j : Nat} {t : Token} (ht : ts[j]? = some t)
    (hn : t.nesting = .single) : received? d t (ts.drop (j + 1)) = none := by
  rw [Option.eq_none_iff_forall_ne_some]
  intro block hreceived
  obtain ⟨i, run, howner, -⟩ := (received?_eq_some_iff h.runsAreSingle ht).mp hreceived
  obtain ⟨o, ho, hopening⟩ := howner.exists_opening
  obtain rfl := Option.some.inj (ht.symm.trans ho)
  rw [hn] at hopening
  cases hopening

/-- **A token is given a block exactly if one goes to it** from a run. -/
theorem received?_eq_some_iff_goesTo {j : Nat} {t : Token} {block : AttributeBlock}
    (ht : ts[j]? = some t) (hk : t.kind ≠ .fence) :
    received? d t (ts.drop (j + 1)) = some block ↔ ∃ i, GoesTo d ts i block j := by
  rw [received?_eq_some_iff h.runsAreSingle ht]
  constructor
  · rintro ⟨i, run, howner, hrun, hend⟩
    obtain ⟨hinline, hend⟩ := Option.ite_none_right_eq_some.mp hend
    obtain ⟨⟨rest, block'⟩, hstrip, rfl⟩ := Option.map_eq_some_iff.mp hend
    exact ⟨i, (h.goesTo_run_iff hrun hinline).mpr
      ⟨howner, rest, stripChildren?_eq_some_iff.mp hstrip⟩⟩
  · rintro ⟨i, hgoes⟩
    cases hgoes with
    | fence ht' hk' =>
      obtain rfl := Option.some.inj (ht.symm.trans ht')
      exact absurd hk' hk
    | run hrun hinline hmid hcut howner =>
      refine ⟨i, _, howner, hrun, ?_⟩
      rw [endBlock?, if_pos hinline, hmid.toElements_eq, stripChildren?_eq_some_iff.mpr hcut]
      rfl

theorem revise_fence {i : Nat} {t : Token} (ht : ts[i]? = some t) (hk : t.kind = .fence) :
    (revise d ts)[i]? = some (toFence d t) := by
  have hnone := h.received?_of_single (d := d) ht (h.single (List.mem_of_getElem? ht) (.inl hk))
  rw [getElem?_revise h.runsAreSingle ht, hnone, own_of_fence hk, attach_none]

theorem revise_run {i : Nat} {t : Token} (ht : ts[i]? = some t) (hk : t.kind = .inline) :
    (revise d ts)[i]? = some (strippedRun d (ts.take i).reverse t) := by
  have hnone := h.received?_of_single (d := d) ht (h.single (List.mem_of_getElem? ht) (.inr hk))
  rw [getElem?_revise h.runsAreSingle ht, hnone, own_of_inline hk, attach_none]

theorem revise_other {i : Nat} {t : Token} (ht : ts[i]? = some t) (hf : t.kind ≠ .fence)
    (hi : t.kind ≠ .inline) :
    (revise d ts)[i]? = some (attach (received? d t (ts.drop (i + 1))) t) := by
  rw [getElem?_revise h.runsAreSingle ht, own_of_ne hf hi]

/-- What becomes of a run, by whether the block at its end goes somewhere. -/
theorem strippedRun_cases (d : Delimiters) {i : Nat} {t : Token} (ht : ts[i]? = some t)
    (hk : t.kind = .inline) :
    (∃ block j rest, GoesTo d ts i block j ∧ CutsEnd d (toElements d t.children) rest block ∧
      strippedRun d (ts.take i).reverse t
        = { t with children := rest, content := plainText rest }) ∨
    ((∀ block j, ¬ GoesTo d ts i block j) ∧ strippedRun d (ts.take i).reverse t
        = { t with children := toElements d t.children }) := by
  have hlength : (ts.take i).reverse.length = i := by
    have hlt := (List.getElem?_eq_some_iff.mp ht).1
    simp; omega
  have howner := hasOwner_iff (ts.take i).reverse (ts.drop i)
  rw [List.reverse_reverse, List.take_append_drop, hlength] at howner
  cases hs : stripChildren? d (toElements d t.children) with
  | none =>
    refine .inr ⟨fun block j hgoes => ?_, strippedRun_of_none hs⟩
    obtain ⟨-, rest, hcut⟩ := (h.goesTo_run_iff ht hk).mp hgoes
    rw [stripChildren?_eq_some_iff.mpr hcut] at hs
    cases hs
  | some found =>
    obtain ⟨rest, block⟩ := found
    have hcut := stripChildren?_eq_some_iff.mp hs
    cases ho : hasOwner (ts.take i).reverse with
    | true =>
      obtain ⟨j, hj⟩ := howner.mp ho
      exact .inl ⟨block, j, rest, (h.goesTo_run_iff ht hk).mpr ⟨hj, rest, hcut⟩, hcut,
        strippedRun_of_owner hs ho⟩
    | false =>
      refine .inr ⟨fun block j hgoes => ?_, strippedRun_of_noOwner ho⟩
      rw [howner.mpr ⟨j, ((h.goesTo_run_iff ht hk).mp hgoes).1⟩] at ho
      cases ho

/-- Every token has its place. -/
theorem samePlace {i : Nat} {t u : Token} (ht : ts[i]? = some t)
    (hu : (revise d ts)[i]? = some u) : SamePlace t u := by
  by_cases hf : t.kind = .fence
  · obtain rfl := Option.some.inj ((h.revise_fence ht hf).symm.trans hu)
    unfold toFence
    split
    · next info block _ =>
      obtain ⟨attrs, happly⟩ := block.changesAttrs_apply t
      rw [happly]
      exact ⟨rfl, rfl, rfl, rfl, rfl, fun _ => rfl⟩
    · exact ⟨rfl, rfl, rfl, rfl, rfl, fun _ => rfl⟩
  by_cases hi : t.kind = .inline
  · obtain rfl := Option.some.inj ((h.revise_run ht hi).symm.trans hu)
    rcases h.strippedRun_cases d ht hi with ⟨block, j, rest, -, -, heq⟩ | ⟨-, heq⟩ <;>
      (rw [heq]; exact ⟨rfl, rfl, rfl, rfl, rfl, absurd hi⟩)
  · obtain rfl := Option.some.inj ((h.revise_other ht hf hi).symm.trans hu)
    obtain ⟨attrs, hattach⟩ := changesAttrs_attach (received? d t (ts.drop (i + 1))) t
    rw [hattach]
    exact ⟨rfl, rfl, rfl, rfl, rfl, fun _ => rfl⟩

/-- An owner is no fence and no run. -/
theorem ne_of_isOwner {i j : Nat} (howner : IsOwner ts j i) : ∃ o, ts[j]? = some o ∧
    o.nesting = .opening ∧ o.kind ≠ .fence ∧ o.kind ≠ .inline := by
  obtain ⟨o, ho, hn⟩ := howner.exists_opening
  have hne : ¬ (o.kind = .fence ∨ o.kind = .inline) := fun hk => by
    rw [h.single (List.mem_of_getElem? ho) hk] at hn
    cases hn
  exact ⟨o, ho, hn, fun hk => hne (.inl hk), fun hk => hne (.inr hk)⟩

/-- A block is attached to the token to which it goes. -/
theorem attrs_of_goesTo {i j : Nat} {block : AttributeBlock} {t : Token}
    (hgoes : GoesTo d ts i block j) (ht : ts[j]? = some t) :
    ∃ u, (revise d ts)[j]? = some u ∧ u.attrs = (block.apply t).attrs := by
  cases hgoes with
  | fence ht' hk hblock =>
    obtain rfl := Option.some.inj (ht.symm.trans ht')
    refine ⟨_, h.revise_fence ht hk, ?_⟩
    rw [toFence, Delimiters.stripTrailing?_eq_some_iff.mpr ⟨_, _, hblock, rfl⟩]
  | run hrun hk hmid hcut howner =>
    obtain ⟨o, ho, -, hf, hi⟩ := h.ne_of_isOwner howner
    obtain rfl := Option.some.inj (ht.symm.trans ho)
    have hreceived := (h.received?_eq_some_iff_goesTo ht hf).mpr ⟨i, .run hrun hk hmid hcut howner⟩
    exact ⟨_, h.revise_other ht hf hi, by rw [hreceived, attach_some]⟩

/-- A token to which no block goes keeps its attributes. -/
theorem attrs_of_forall_not {j : Nat} {t : Token} (ht : ts[j]? = some t)
    (hnone : ∀ i block, ¬ GoesTo d ts i block j) :
    ∃ u, (revise d ts)[j]? = some u ∧ u.attrs = t.attrs := by
  by_cases hf : t.kind = .fence
  · refine ⟨_, h.revise_fence ht hf, ?_⟩
    rcases toFence_cases d ht hf with ⟨-, -, block, -, hgoes, -⟩ | ⟨-, heq⟩
    · exact absurd hgoes (hnone j block)
    · rw [heq]
  by_cases hi : t.kind = .inline
  · refine ⟨_, h.revise_run ht hi, ?_⟩
    rcases h.strippedRun_cases d ht hi with ⟨block, j, rest, -, -, heq⟩ | ⟨-, heq⟩ <;> rw [heq]
  · have hreceived : received? d t (ts.drop (j + 1)) = none := by
      rw [Option.eq_none_iff_forall_ne_some]
      intro block hreceived
      obtain ⟨i, hgoes⟩ := (h.received?_eq_some_iff_goesTo ht hf).mp hreceived
      exact hnone i block hgoes
    exact ⟨_, h.revise_other ht hf hi, by rw [hreceived, attach_none]⟩

/-- **A block goes to one token.** -/
theorem target_unique {i j j' : Nat} {block block' : AttributeBlock}
    (hgoes : GoesTo d ts i block j) (hgoes' : GoesTo d ts i block' j') :
    block = block' ∧ j = j' := by
  -- Both blocks are read of the same text by the same function.
  cases hgoes with
  | fence ht hk hblock =>
    obtain ⟨rfl, front', inner', hblock'⟩ := (goesTo_fence_iff ht hk).mp hgoes'
    have hstrip := Delimiters.stripTrailing?_eq_some_iff.mpr ⟨_, _, hblock, rfl⟩
    have hstrip' := Delimiters.stripTrailing?_eq_some_iff.mpr ⟨_, _, hblock', rfl⟩
    exact ⟨(Prod.mk.inj (Option.some.inj (hstrip.symm.trans hstrip'))).2, rfl⟩
  | run ht hk hmid hcut howner =>
    obtain ⟨howner', rest', hcut'⟩ := (h.goesTo_run_iff ht hk).mp hgoes'
    rw [hmid.toElements_eq, ← stripChildren?_eq_some_iff] at hcut'
    have hcut := stripChildren?_eq_some_iff.mpr hcut
    exact ⟨(Prod.mk.inj (Option.some.inj (hcut.symm.trans hcut'))).2, howner.unique howner'⟩

/-- **No two blocks go to one token.** -/
theorem source_unique {i i' j : Nat} {block block' : AttributeBlock}
    (hgoes : GoesTo d ts i block j) (hgoes' : GoesTo d ts i' block' j) : i = i' := by
  -- A fence begins nothing, so it is no owner.
  have hclash : ∀ {k : Nat} {t : Token}, ts[j]? = some t → t.kind = .fence →
      ¬ IsOwner ts j k := fun ht hk howner => by
    obtain ⟨o, ho, -, hf, -⟩ := h.ne_of_isOwner howner
    obtain rfl := Option.some.inj (ht.symm.trans ho)
    exact hf hk
  cases hgoes with
  | fence ht hk =>
    cases hgoes' with
    | fence => rfl
    | run _ _ _ _ howner => exact absurd howner (hclash ht hk)
  | run hrun hk _ _ howner =>
    cases hgoes' with
    | fence ht hk => exact absurd howner (hclash ht hk)
    | run hrun' hk' _ _ howner' =>
      exact howner.run_unique h.runsAreSingle howner' hrun hrun' hk hk'

/-- **The owner of a run begins a block around the run.** -/
theorem exists_arePartners {i j : Nat} {t : Token} (howner : IsOwner ts j i)
    (ht : ts[i]? = some t) (hk : t.kind = .inline) : ∃ k, ArePartners ts j k ∧ i < k := by
  obtain ⟨o, ho, hn⟩ := howner.exists_opening
  obtain ⟨ps, hps, -⟩ := exists_records h.nested 0
  obtain ⟨k, hmem⟩ := hps.opening j o ho hn
  obtain ⟨j', k, heq, hpartners⟩ := hps.sound _ hmem
  simp only [Nat.zero_add, Prod.mk.injEq] at heq
  obtain ⟨rfl, rfl⟩ := heq
  obtain ⟨c, hc, hclosing, -⟩ := hpartners.backwards
  have hlt := hpartners.between.1
  -- Neither the run nor a hidden token before it closes anything.
  have hne : ∀ {l : Nat} {u : Token}, ts[l]? = some u → u.nesting ≠ .closing → k ≠ l := by
    rintro l u hu hne rfl
    obtain rfl := Option.some.inj (hu.symm.trans hc)
    exact hne hclosing
  have hrun := hne ht (by rw [h.single (List.mem_of_getElem? ht) (.inr hk)]; nofun)
  refine ⟨k, hpartners, ?_⟩
  cases howner with
  | block => omega
  | item _ _ _ hu hno =>
    have hhidden := hne hu (by rw [hno]; nofun)
    omega

/-- The words behind a fence lose their block, and no other token has words that change. -/
theorem info_cases {i : Nat} {t u : Token} (ht : ts[i]? = some t)
    (hu : (revise d ts)[i]? = some u) :
    (∃ front inner block, d.EndsWith t.info.toList front inner block ∧ GoesTo d ts i block i ∧
      u.info = String.ofList (Text.trimEnd front)) ∨
    ((∀ block, ¬ GoesTo d ts i block i) ∧ u.info = t.info) := by
  by_cases hf : t.kind = .fence
  · obtain rfl := Option.some.inj ((h.revise_fence ht hf).symm.trans hu)
    rcases toFence_cases d ht hf with ⟨front, inner, block, hblock, hgoes, heq⟩ | ⟨hnone, heq⟩
    · exact .inl ⟨front, inner, block, hblock, hgoes, by rw [heq]⟩
    · exact .inr ⟨hnone, by rw [heq]⟩
  refine .inr ⟨fun block hgoes => ?_, ?_⟩
  · cases hgoes with
    | fence ht' hk =>
      obtain rfl := Option.some.inj (ht.symm.trans ht')
      exact hf hk
    | run _ _ _ _ howner => exact Nat.lt_irrefl i howner.lt
  · by_cases hi : t.kind = .inline
    · obtain rfl := Option.some.inj ((h.revise_run ht hi).symm.trans hu)
      rcases h.strippedRun_cases d ht hi with ⟨block, j, rest, -, -, heq⟩ | ⟨-, heq⟩ <;> rw [heq]
    · obtain rfl := Option.some.inj ((h.revise_other ht hf hi).symm.trans hu)
      exact attach_info _ t

/-- A token that is no run keeps its children. -/
theorem children_eq {i : Nat} {t u : Token} (ht : ts[i]? = some t)
    (hu : (revise d ts)[i]? = some u) (hi : t.kind ≠ .inline) : u.children = t.children := by
  by_cases hf : t.kind = .fence
  · obtain rfl := Option.some.inj ((h.revise_fence ht hf).symm.trans hu)
    rcases toFence_cases d ht hf with ⟨front, inner, block, -, -, heq⟩ | ⟨-, heq⟩
    · obtain ⟨attrs, happly⟩ := block.changesAttrs_apply t
      rw [heq, happly]
    · rw [heq]
  · obtain rfl := Option.some.inj ((h.revise_other ht hf hi).symm.trans hu)
    exact attach_children _ t

/-- The children of a run are edited only. -/
theorem editsTexts_children {i : Nat} {t u : Token} (ht : ts[i]? = some t)
    (hu : (revise d ts)[i]? = some u) : EditsTexts t.children u.children := by
  by_cases hi : t.kind = .inline
  · obtain rfl := Option.some.inj ((h.revise_run ht hi).symm.trans hu)
    exact Plugin.Attributes.editsTexts_strippedRun d _ t
  · rw [h.children_eq ht hu hi]
    exact .refl _

/-- The children of every token are balanced. -/
theorem balanced_children {t : Token} (ht : t ∈ ts) : IsBalanced (brackets t.children) := by
  by_cases hk : t.kind = .inline
  · exact (h.children t ht hk).balanced
  · rw [(h.assembled t ht).bare hk]
    exact BracketOf.balanced_nil

theorem single_of_text {t c : Token} (ht : t ∈ ts) (hc : c ∈ t.children) (hk : c.kind = .text) :
    c.nesting = .single := by
  have hassembled := h.assembled t ht
  have hinline : t.kind = .inline := by
    by_contra hi
    rw [hassembled.bare hi] at hc
    cases hc
  by_contra hn
  have hpair := (hassembled.children hinline c hc).pair hn
  rw [hk] at hpair
  cases hpair

theorem attachesBlocks (d : Delimiters) : AttachesBlocks d ts (revise d ts) where
  places := List.forall₂_iff_get.mpr ⟨(length_revise h.runsAreSingle).symm, fun i hi hi' =>
    h.samePlace (List.getElem?_eq_getElem hi) (List.getElem?_eq_getElem hi')⟩
  attached := h.attrs_of_goesTo
  untouched := h.attrs_of_forall_not
  target_unique := h.target_unique
  source_unique := h.source_unique
  around := h.exists_arePartners
  info := h.info_cases
  children {i t u} ht hu hk := by
    obtain rfl := Option.some.inj ((h.revise_run ht hk).symm.trans hu)
    refine ⟨_, h.handsBack d (List.mem_of_getElem? ht) hk, ?_⟩
    rcases h.strippedRun_cases d ht hk with ⟨block, j, rest, hgoes, hcut, heq⟩ | ⟨hnone, heq⟩
    · exact .inl ⟨block, j, hgoes, by rwa [heq]⟩
    · exact .inr ⟨hnone, by rw [heq]⟩
  childless {i t u} ht hu hk := by
    have hbare := (h.assembled t (List.mem_of_getElem? ht)).bare hk
    exact ⟨hbare, (h.children_eq ht hu hk).trans hbare⟩
  elements ht hu := (h.editsTexts_children ht hu).elementsOf_eq
  balanced u hu := by
    obtain ⟨i, hu⟩ := List.mem_iff_getElem?.mp hu
    have hlt : i < ts.length := by
      rw [← length_revise h.runsAreSingle]
      exact (List.getElem?_eq_some_iff.mp hu).1
    have hmem := List.getElem_mem hlt
    have hedits := h.editsTexts_children (List.getElem?_eq_getElem hlt) hu
    rw [checkBalance_eq_ok_iff, hedits.brackets_eq fun c hc => h.single_of_text hmem hc]
    exact h.balanced_children hmem

end AreNestedBlocks

/-- **Of properly nested events, every block that is taken off a text goes to exactly one token**:
to the element that it follows, to the block around its run, or to its fence. -/
theorem attachesBlocks_revise (d : Delimiters) {events : List Markdown.Event}
    (h : Markdown.ProperlyNested events) :
    AttachesBlocks d (Markdown.assemble events).1 (revise d (Markdown.assemble events).1) :=
  (areNestedBlocks_assemble h).attachesBlocks d

/-- The events of a list item with an element and of a code block, with a block behind each. -/
def blocksEverywhere : List Markdown.Event :=
  Markdown.blockEvents
    [.list none [[.plain [.strong [.text "a"], .text "\x7b.x\x7d b \x7b.y\x7d"]]],
      .code (some "c \x7b.z\x7d") "d"]

/-- The item has the block at the end of its run, the element the one behind it, and the code block
the one behind its fence. -/
theorem attachesBlocks_blocksEverywhere :
    Markdown.ProperlyNested blocksEverywhere ∧
    ((revise {} (Markdown.assemble blocksEverywhere).1).flatMap fun t => t :: t.children).filterMap
      (fun t => t.attrs.head?.map fun pair => (t.kind, pair))
        = [(.listItem, "class", "y"), (.strong, "class", "x"), (.fence, "class", "z")] ∧
    AttachesBlocks {} (Markdown.assemble blocksEverywhere).1
      (revise {} (Markdown.assemble blocksEverywhere).1) :=
  have nested := (Markdown.shaped_blockEvents _).properlyNested
  ⟨nested, by decide +kernel, attachesBlocks_revise {} nested⟩

end Folio
