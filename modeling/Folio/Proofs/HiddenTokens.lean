import Folio.Proofs.Rendering

/-!
# Hidden tokens

A hidden token is passed over where blocks become markup.  Runs and tokens of a plugin's own kind do
not come there: their children are rendered, or the rule for their name renders them, and neither
way asks whether the token is hidden.  They are rendered as if they were not.

The HTML of a list is that of its tokens, one after the other, so tokens can be left out of it
exactly if none of them has any HTML.

## Main definitions

* `Token.isPassedOver` — a hidden token of a kind for which it counts.
* `unhidden` — a list without its hidden tokens.
* `Token.unhide`, `RenderRule.IgnoresHidden` — a token as if it were not hidden, and a rule that
  cannot tell the two from each other.
* `Renderer.PassesOverHidden` — what being hidden does to the HTML of a list.

## Main results

* `Renderer.render_filter_eq_iff` — **tokens can be left out exactly if they have no HTML.**
* `Renderer.passesOverHidden` — **hidden tokens are invisible, but for runs and tokens of a plugin's
  own kind.**
* `Renderer.render_unhidden_ne` — a hidden token of either sort that is rendered.
-/

namespace Folio

/-- The token is hidden, and neither a run nor of a plugin's own kind. -/
def Token.isPassedOver (t : Token) : Bool :=
  t.hidden && match t.kind with
    | .inline | .custom _ => false
    | _ => true

theorem Token.isPassedOver_iff {t : Token} : t.isPassedOver = true ↔
    t.hidden = true ∧ t.kind ≠ .inline ∧ ∀ name, t.kind ≠ .custom name := by
  unfold Token.isPassedOver
  cases t.kind <;> simp

/-- The tokens that are not hidden. -/
def unhidden (ts : List Token) : List Token := ts.filter fun t => !t.hidden

/-- The token as if it were not hidden. -/
def Token.unhide (t : Token) : Token := { t with hidden := false }

theorem Token.unhide_eq {t : Token} (h : t.hidden = false) : t.unhide = t := by
  obtain ⟨kind, nesting, level, attrs, content, info, children, block, hidden⟩ := t
  obtain rfl : hidden = false := h
  rfl

/-- The rule renders a hidden token as if it were not hidden. -/
def RenderRule.IgnoresHidden (rule : RenderRule) : Prop :=
  ∀ input : RuleInput, rule { input with token := input.token.unhide } = rule input

namespace Renderer

variable {r : Renderer}

/-! ### Lists of tokens -/

theorem length_render_filter_le (p : Token → Bool) (ts : List Token) :
    (r.render (ts.filter p)).length ≤ (r.render ts).length := by
  induction ts with
  | nil => exact Nat.le_refl _
  | cons t ts ih =>
    rw [r.render_cons t ts, String.length_append]
    by_cases hp : p t = true
    · rw [List.filter_cons_of_pos hp, render_cons, String.length_append]
      exact Nat.add_le_add_left ih _
    · rw [List.filter_cons_of_neg hp]
      exact Nat.le_add_left_of_le ih

/-- **Tokens can be left out exactly if they have no HTML.** -/
theorem render_filter_eq_iff (p : Token → Bool) (ts : List Token) :
    r.render (ts.filter p) = r.render ts ↔ ∀ t ∈ ts, p t = false → r.render [t] = "" := by
  induction ts with
  | nil => simp
  | cons t ts ih =>
    rw [List.forall_mem_cons, ← ih, r.render_cons t ts]
    by_cases hp : p t = true
    · rw [List.filter_cons_of_pos hp, render_cons]
      simp [hp]
    · rw [List.filter_cons_of_neg hp]
      constructor
      · intro heq
        -- What is left is no longer than the rest of the list, so the token adds nothing.
        have hle := length_render_filter_le (r := r) p ts
        have hnil : r.render [t] = "" := by
          rw [heq, String.length_append] at hle
          exact String.length_eq_zero_iff.mp (by omega)
        rw [hnil, String.empty_append] at heq
        exact ⟨fun _ => hnil, heq⟩
      · rintro ⟨hnil, heq⟩
        rw [hnil (Bool.eq_false_iff.mpr hp), String.empty_append, heq]

/-! ### One token -/

theorem blockMarkup_of_hidden {t : Token} (h : t.hidden = true) : r.blockMarkup t = [] := by
  rw [blockMarkup, if_pos h]

theorem blockPiece_of_ne {t : Token} (hinline : t.kind ≠ .inline)
    (hcustom : ∀ name, t.kind ≠ .custom name) : r.blockPiece t = r.blockMarkup t := by
  unfold blockPiece
  split
  · next hk => exact absurd hk hinline
  · next name hk => exact absurd hk (hcustom name)
  · rfl

/-- A token that is passed over has no HTML. -/
theorem render_of_isPassedOver {t : Token} (h : t.isPassedOver = true) : r.render [t] = "" := by
  obtain ⟨hhidden, hinline, hcustom⟩ := Token.isPassedOver_iff.mp h
  rw [render_singleton, blockPiece_of_ne hinline hcustom, blockMarkup_of_hidden hhidden]
  rfl

/-- The rules for tokens of the kind do not look at whether these are hidden. -/
def IgnoresHidden (r : Renderer) (kind : Kind) : Prop :=
  ∀ name, kind = .custom name → ∀ rule ∈ r.rules.lookup name, rule.IgnoresHidden

/-- A token that is not passed over is rendered as if it were not hidden. -/
theorem render_unhide {t : Token} (h : t.isPassedOver = false) (hrules : r.IgnoresHidden t.kind) :
    r.render [t.unhide] = r.render [t] := by
  have hunhide : t.unhide.kind = t.kind := rfl
  rw [render_singleton, render_singleton, blockPiece, blockPiece, hunhide]
  split
  · rfl
  · next name hk =>
    rw [customMarkup_eq, customMarkup_eq]
    cases hlookup : r.rules.lookup name with
    | none => rfl
    | some rule => exact congrArg Html.writeAll (hrules name hk rule hlookup ⟨t, _, _, r.env⟩)
  · next hinline hcustom =>
    have hhidden : t.hidden = false := by
      rw [← Bool.not_eq_true]
      intro hhidden
      exact absurd (Token.isPassedOver_iff.mpr ⟨hhidden, hinline, hcustom⟩) (by simp [h])
    rw [Token.unhide_eq hhidden]

/-- The rules for terms do not look at whether a token is hidden. -/
theorem HasBuiltinRules.ignoresHidden (hr : r.HasBuiltinRules) (kind : Kind) :
    r.IgnoresHidden kind := by
  intro name _ rule hrule
  rw [Option.mem_def] at hrule
  rcases hr.lookup_cases name with hnone | ⟨-, hdef⟩ | ⟨-, href⟩
  · rw [hnone] at hrule
    cases hrule
  · rw [hdef] at hrule
    obtain rfl := Option.some.inj hrule
    exact fun _ => rfl
  · rw [href] at hrule
    obtain rfl := Option.some.inj hrule
    exact fun _ => rfl

/-! ### The law -/

/-- What being hidden does to the HTML of a list of blocks. -/
structure PassesOverHidden (r : Renderer) (ts : List Token) : Prop where
  /-- The tokens that are passed over can be left out. -/
  passed : r.render (ts.filter fun t => !t.isPassedOver) = r.render ts
  /-- All others are rendered as if they were not hidden. -/
  rendered : ∀ t ∈ ts, t.isPassedOver = false → r.IgnoresHidden t.kind →
    r.render [t.unhide] = r.render [t]
  /-- With the rules for terms this is so for every token. -/
  builtin : r.HasBuiltinRules → ∀ t ∈ ts, t.isPassedOver = false →
    r.render [t.unhide] = r.render [t]
  /-- So all hidden tokens can be left out exactly if those that are rendered have no HTML. -/
  unhidden_iff : r.render (unhidden ts) = r.render ts ↔
    ∀ t ∈ ts, t.hidden = true → t.isPassedOver = false → r.render [t] = ""

/-- **Hidden tokens are invisible, but for runs and tokens of a plugin's own kind.** -/
theorem passesOverHidden (r : Renderer) (ts : List Token) : r.PassesOverHidden ts where
  passed := by
    refine (render_filter_eq_iff _ ts).mpr fun t _ ht => render_of_isPassedOver ?_
    simpa using ht
  rendered _ _ h hrules := render_unhide h hrules
  builtin hr t _ h := render_unhide h (hr.ignoresHidden t.kind)
  unhidden_iff := by
    rw [unhidden, render_filter_eq_iff]
    refine forall₂_congr fun t _ => ?_
    rw [Bool.not_eq_false']
    refine forall_congr' fun _ => ⟨fun h _ => h, fun h => ?_⟩
    cases hpassed : t.isPassedOver with
    | true => exact render_of_isPassedOver hpassed
    | false => exact h hpassed

/-- A hidden run. -/
def hiddenRun : Token := { Token.inlineRun [.text "a"] 0 with hidden := true }

/-- A hidden token of a plugin's own kind. -/
def hiddenNote : Token := { Token.leaf (.custom "note") 0 with content := "b", hidden := true }

/-- **A hidden run and a hidden token of a plugin's own kind are rendered.** -/
theorem render_unhidden_ne :
    ({} : Renderer).render [hiddenRun, hiddenNote] = "ab" ∧
    ({} : Renderer).render (unhidden [hiddenRun, hiddenNote]) = "" ∧
    ({} : Renderer).render (unhidden [hiddenRun]) ≠ ({} : Renderer).render [hiddenRun] ∧
    ({} : Renderer).render (unhidden [hiddenNote]) ≠ ({} : Renderer).render [hiddenNote] := by
  decide +kernel

end Renderer

end Folio
