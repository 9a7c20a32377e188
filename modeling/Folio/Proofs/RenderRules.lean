import Folio.Proofs.Pages

/-!
# What the built-in rules look at

The rules for terms look at the token and at its inline markup.  So what a run has found out about
a document has no part in rendering it, and the highlighter has its part in code blocks only.

## Main definitions

* `Renderer.SameInlines` — two renderers agree on all that inline tokens depend on.

## Main results

* `Renderer.inlinesFrom_congr`, `Renderer.blockPiece_congr` — such renderers render alike, but for
  code blocks.
* `Options.render_env` — **what a run has found out does not change the HTML.**
-/

namespace Folio

open Plugin.Terms (renderDefinition)

namespace Renderer

/-- The renderers agree on all that inline tokens depend on. -/
structure SameInlines (r r' : Renderer) : Prop where
  html : r'.allowHtml = r.allowHtml
  breaks : r'.breaks = r.breaks
  rules : r'.rules = r.rules

variable {r r' : Renderer}

/-- A rule does not depend on the rest of what it is given. -/
theorem customMarkup_congr (hr : r.HasBuiltinRules) (h : SameInlines r r') (name : String)
    {t : Token} (hin : r'.inlinesFrom 0 t.children = r.inlinesFrom 0 t.children) :
    r'.customMarkup name t = r.customMarkup name t := by
  rw [customMarkup_eq, customMarkup_eq, h.rules]
  rcases hr.lookup_cases name with hnone | ⟨-, hdef⟩ | ⟨-, href⟩
  · rw [hnone]
    dsimp only
    rw [hin]
  · rw [hdef]
    simp only [renderDefinition, hin]
  · rw [href]
    rfl

theorem inlineMarkup_congr (h : SameInlines r r') (t : Token) :
    r'.inlineMarkup t = r.inlineMarkup t := by
  unfold inlineMarkup rawMarkup
  rw [h.html, h.breaks]

theorem inlinesFrom_congr_of_mem {ts : List Token}
    (h : ∀ t ∈ ts, r'.inlinePiece t = r.inlinePiece t) :
    ∀ skip, r'.inlinesFrom skip ts = r.inlinesFrom skip ts := by
  induction ts with
  | nil =>
    intro skip
    rw [inlinesFrom_nil, inlinesFrom_nil]
  | cons t ts ih =>
    have ih := ih fun u hu => h u (List.mem_cons_of_mem t hu)
    intro skip
    cases skip with
    | succ skip =>
      rw [inlinesFrom_succ, inlinesFrom_succ]
      exact ih skip
    | zero =>
      by_cases hi : t.kind = .image ∧ t.nesting = .opening
      · rw [inlinesFrom_image r' hi.1 hi.2, inlinesFrom_image r hi.1 hi.2, ih]
      · have hn : t.kind = .image → t.nesting ≠ .opening := fun hk hn => hi ⟨hk, hn⟩
        rw [inlinesFrom_cons r' hn, inlinesFrom_cons r hn, h t List.mem_cons_self, ih]

theorem inlinePiece_congr (hr : r.HasBuiltinRules) (h : SameInlines r r') (t : Token) :
    r'.inlinePiece t = r.inlinePiece t := by
  induction t using Token.induction with
  | h t ih =>
    unfold inlinePiece
    split
    · exact customMarkup_congr hr h _ (inlinesFrom_congr_of_mem ih 0)
    · exact inlineMarkup_congr h t

theorem inlinesFrom_congr (hr : r.HasBuiltinRules) (h : SameInlines r r') (skip : Nat)
    (ts : List Token) : r'.inlinesFrom skip ts = r.inlinesFrom skip ts :=
  inlinesFrom_congr_of_mem (fun t _ => inlinePiece_congr hr h t) skip

/-- Blocks are rendered alike if code is. -/
theorem blockPiece_congr (hr : r.HasBuiltinRules) (h : SameInlines r r') {t : Token}
    (hcode : t.kind = .fence → r'.codeMarkup t = r.codeMarkup t) :
    r'.blockPiece t = r.blockPiece t := by
  unfold blockPiece
  split
  · exact inlinesFrom_congr hr h 0 t.children
  · exact customMarkup_congr hr h _ (inlinesFrom_congr hr h 0 t.children)
  · unfold blockMarkup
    split
    · rfl
    split <;> try rfl
    · next hk => exact hcode hk
    · unfold rawMarkup
      rw [h.html]
    · exact inlineMarkup_congr h t

theorem render_congr (hr : r.HasBuiltinRules) (h : SameInlines r r')
    (hcode : ∀ t, r'.codeMarkup t = r.codeMarkup t) (ts : List Token) :
    r'.render ts = r.render ts := by
  have hpiece : r'.blockPiece = r.blockPiece :=
    funext fun t => blockPiece_congr hr h fun _ => hcode t
  rw [render, render, blocks_eq_flatMap, blocks_eq_flatMap, hpiece]

end Renderer

/-! ### The engine -/

theorem Engine.render_append (e : Engine) (xs ys : List Token) (env : Environment) :
    e.render (xs ++ ys) env = e.render xs env ++ e.render ys env :=
  Renderer.render_append _ xs ys

/-- Plugins add their rules to a renderer and change nothing else of it. -/
theorem renderer_foldl_register (options : PluginOptions) (plugins : List Plugin) :
    ∀ e : Engine, (plugins.foldl (fun e plugin => plugin.register options e) e).renderer
      = { e.renderer with
          rules := (plugins.flatMap Plugin.renderRules).reverse ++ e.renderer.rules } := by
  induction plugins with
  | nil => exact fun _ => rfl
  | cons plugin plugins ih =>
    intro e
    rw [List.foldl_cons, ih]
    simp [Plugin.register]

namespace Options

variable {o : Options}

theorem renderer_engine (o : Options) : o.engine.renderer =
    { allowHtml := o.allowHtml
      breaks := o.breaks
      langs := o.langs
      highlighter := o.highlighter
      rules := (o.plugins.flatMap Plugin.renderRules).reverse } := by
  have hregister :=
    renderer_foldl_register o.forPlugins (Plugin.attributes o.delimiters :: o.plugins)
  refine (hregister _).trans ?_
  simp [Plugin.attributes]

theorem allowHtml_rendererIn (o : Options) (env : Environment) :
    (o.engine.rendererIn env).allowHtml = o.allowHtml := by
  rw [Engine.rendererIn, renderer_engine]

theorem highlighter_rendererIn (o : Options) (env : Environment) :
    (o.engine.rendererIn env).highlighter = o.highlighter := by
  rw [Engine.rendererIn, renderer_engine]

/-- Whatever else the options are, built-in plugins bring the rules for terms only. -/
theorem hasBuiltinRules (ho : o.UsesBuiltins) : o.engine.renderer.HasBuiltinRules := by
  have h := isBuiltin_renderer (o := { o with allowHtml := false, highlighter := none })
    ⟨ho.plugins, ho.title⟩ rfl rfl
  have hrules := h.rules
  rw [renderer_engine] at hrules
  rw [renderer_engine]
  exact hrules

/-- **What a run has found out does not change the HTML.** -/
theorem render_env (ho : o.UsesBuiltins) (ts : List Token) (env : Environment) :
    o.engine.render ts env = o.engine.render ts := by
  have hr : (o.engine.rendererIn {}).HasBuiltinRules := hasBuiltinRules ho
  have hsame : Renderer.SameInlines (o.engine.rendererIn {}) (o.engine.rendererIn env) :=
    ⟨rfl, rfl, rfl⟩
  exact Renderer.render_congr hr hsame (fun _ => rfl) ts

end Options

end Folio
