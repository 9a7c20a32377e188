import Folio.Plugin.Terms

/-!
# What a token is rendered to

Rendering goes through a list token by token.  Only an image reaches further: the tokens up to its
other end are passed over.

## Main definitions

* `Renderer.blockPiece`, `Renderer.inlinePiece` — the markup of one token.
* `Renderer.imageLength` — the number of tokens that an image passes over.
* `Renderer.HasBuiltinRules` — no rules but those for terms.
* `Renderer.IsBuiltin` — moreover no raw HTML and no highlighter.

## Main results

* `Renderer.blocks_eq_flatMap`, `Renderer.inlinesFrom_image`, `Renderer.inlinesFrom_cons` — the
  equations of rendering.
* `Renderer.render_append` — blocks that follow each other are rendered one after the other.
* `Token.induction` — induction on a token and its children.
-/

namespace Folio

open Html (Markup)
open Plugin (terms)
open Plugin.Terms (renderDefinition renderReference)

/-- Induction on a token and its children. -/
theorem Token.induction {P : Token → Prop} (h : ∀ t : Token, (∀ c ∈ t.children, P c) → P t)
    (t : Token) : P t :=
  h t fun c _ => Token.induction h c
termination_by sizeOf t
decreasing_by
  rename_i hc
  have hlt := List.sizeOf_lt_of_mem hc
  cases t
  simp only [Token.mk.sizeOf_spec]
  dsimp only at hlt
  omega

theorem Html.writeAll_append (xs ys : List Markup) :
    Html.writeAll (xs ++ ys) = Html.writeAll xs ++ Html.writeAll ys := by
  simp [Html.writeAll]

namespace Renderer

variable (r : Renderer)

/-- The markup of a block. -/
def blockPiece (t : Token) : List Markup :=
  match t.kind with
  | .inline => r.inlinesFrom 0 t.children
  | .custom name => r.customMarkup name t
  | _ => r.blockMarkup t

/-- The markup of an inline token that does not begin an image. -/
def inlinePiece (t : Token) : List Markup :=
  match t.kind with
  | .custom name => r.customMarkup name t
  | _ => r.inlineMarkup t

/-- The number of tokens between an image and its other end. -/
def imageLength (t : Token) (ts : List Token) : Nat :=
  ((findClose? (t :: ts) 0).getD (ts.length + 1)) - 1

theorem blocks_eq_flatMap (ts : List Token) : r.blocks ts = ts.flatMap r.blockPiece := by
  induction ts with
  | nil => rw [blocks]; rfl
  | cons t ts ih =>
    rw [List.flatMap_cons, ← ih, blocks.eq_def]
    -- The recursion is on the fields of the token, so its equations need a token in parts.
    obtain ⟨kind, nesting, level, attrs, content, info, children, block, hidden⟩ := t
    unfold blockPiece
    cases kind <;> rfl

/-- Blocks that follow each other are rendered one after the other. -/
theorem render_append (xs ys : List Token) : r.render (xs ++ ys) = r.render xs ++ r.render ys := by
  simp only [render, blocks_eq_flatMap, List.flatMap_append, Html.writeAll_append]

theorem render_cons (t : Token) (ts : List Token) :
    r.render (t :: ts) = r.render [t] ++ r.render ts := by
  rw [← r.render_append, List.singleton_append]

theorem render_singleton (t : Token) : r.render [t] = Html.writeAll (r.blockPiece t) := by
  rw [render, blocks_eq_flatMap, List.flatMap_singleton]

theorem customMarkup_eq (name : String) (t : Token) : r.customMarkup name t
    = match r.rules.lookup name with
      | some rule => rule ⟨t, r.inlinesFrom 0 t.children, r.blocks t.children, r.env⟩
      | none => if t.children.isEmpty then [.text t.content] else r.inlinesFrom 0 t.children := by
  obtain ⟨kind, nesting, level, attrs, content, info, children, block, hidden⟩ := t
  unfold customMarkup
  rfl

theorem inlinesFrom_nil (skip : Nat) : r.inlinesFrom skip [] = [] := by
  rw [inlinesFrom]

theorem inlinesFrom_succ (skip : Nat) (t : Token) (ts : List Token) :
    r.inlinesFrom (skip + 1) (t :: ts) = r.inlinesFrom skip ts := by
  rw [inlinesFrom]

theorem inlinesFrom_image {t : Token} (hk : t.kind = .image) (hn : t.nesting = .opening)
    (ts : List Token) : r.inlinesFrom 0 (t :: ts)
      = imageMarkup t (plainText (ts.take (imageLength t ts)))
        ++ r.inlinesFrom (imageLength t ts + 1) ts := by
  rw [inlinesFrom, hk]
  simp only [Token.isOpening, hn, beq_self_eq_true, if_true]
  rfl

theorem inlinesFrom_cons {t : Token} (h : t.kind = .image → t.nesting ≠ .opening)
    (ts : List Token) : r.inlinesFrom 0 (t :: ts) = r.inlinePiece t ++ r.inlinesFrom 0 ts := by
  rw [inlinesFrom, inlinePiece]
  cases hk : t.kind
  case image =>
    have ho : t.isOpening = false := by simpa [Token.isOpening] using h hk
    simp only [ho, Bool.false_eq_true, if_false]
  all_goals rfl

/-- Tokens that are passed over leave nothing behind. -/
theorem inlinesFrom_length (xs ys : List Token) :
    r.inlinesFrom xs.length (xs ++ ys) = r.inlinesFrom 0 ys := by
  induction xs with
  | nil => rfl
  | cons x xs ih => rw [List.length_cons, List.cons_append, inlinesFrom_succ, ih]

/-- The only rules are those for terms. -/
def HasBuiltinRules : Prop :=
  ∀ name, r.rules.lookup name = none ∨ r.rules.lookup name = terms.renderRules.lookup name

/-- Raw HTML is escaped, nothing is highlighted, and the only rules are those for terms. -/
structure IsBuiltin : Prop where
  html : r.allowHtml = false
  highlighter : r.highlighter = none
  rules : ∀ name, r.rules.lookup name = none ∨
    r.rules.lookup name = terms.renderRules.lookup name

variable {r}

/-- The rules for terms are the only ones that apply. -/
theorem HasBuiltinRules.lookup_cases (hr : r.HasBuiltinRules) (name : String) :
    r.rules.lookup name = none ∨
    (name = "term_definition" ∧ r.rules.lookup name = some renderDefinition) ∨
    (name = "term" ∧ r.rules.lookup name = some renderReference) := by
  rcases hr name with h | h
  · exact .inl h
  · rw [h]
    by_cases hd : name = "term_definition"
    · subst hd
      exact .inr (.inl ⟨rfl, rfl⟩)
    by_cases ht : name = "term"
    · subst ht
      exact .inr (.inr ⟨rfl, rfl⟩)
    · have hd' : (name == "term_definition") = false := by simpa using hd
      have ht' : (name == "term") = false := by simpa using ht
      exact .inl (by simp [terms, List.lookup_cons, hd', ht'])

theorem IsBuiltin.lookup_cases (hr : r.IsBuiltin) (name : String) : r.rules.lookup name = none ∨
    (name = "term_definition" ∧ r.rules.lookup name = some renderDefinition) ∨
    (name = "term" ∧ r.rules.lookup name = some renderReference) :=
  HasBuiltinRules.lookup_cases hr.rules name

end Renderer

end Folio
