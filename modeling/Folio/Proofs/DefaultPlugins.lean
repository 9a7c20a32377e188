import Folio.Proofs.AttributeNames
import Folio.Proofs.RenderRules

/-!
# The default plugins

Unless others are chosen, three plugins take part beside the one for attributes: headings get their
ids, then the definitions of terms are taken out and the references to them are marked, and last
the files are collected, which leaves the tokens as they are.

## Main definitions

* `Options.anchored` — the tokens of a document whose headings have got their ids.
* `Engine.linkedRun` — a run with links in the text, if these are wanted.
* `Options.KeepsTokens` — what taking the title out leaves of a document.

## Main results

* `Options.engine_parseEvents_preserves` — **what every step preserves holds of the tokens of a
  document.**
* `fst_engine_parseEvents_defaults` — **what the default plugins make of a document.**
-/

namespace Folio

open Markdown (Event ProperlyNested assemble)
open Plugin.Terms (definitionKind extract markReferences)

/-- The tokens of a document whose headings have got their ids. -/
def Options.anchored (o : Options) (events : List Event) : List Token :=
  Plugin.Anchors.revise (Plugin.Attributes.revise o.delimiters (assemble events).1)

/-- The tokens of a document whose headings have got their ids make a page. -/
theorem pageContent_anchored (o : Options) {events : List Event} (h : ProperlyNested events) :
    PageContent (o.anchored events) :=
  Plugin.Anchors.isGentle.page {} (Plugin.Attributes.pageContent_revise o.delimiters
    (Markdown.pageContent_assemble h))

/-- The session of a document whose metadata has been stored. -/
def storedSession (events : List Event) : Session :=
  { env := (assemble events).2.foldl Engine.storeFrontMatter {} }

/-- A run with links in the text, if these are wanted. -/
def Engine.linkedRun (e : Engine) (children : List Token) : List Token :=
  if e.linksText then e.linkify.linkChildren 0 children else children

/-- **What every step preserves holds of the tokens of a document**: attribute blocks are attached
first, each plugin makes its revision if it takes part, and last come the links in the text. -/
theorem Options.engine_parseEvents_preserves {o : Options}
    (ho : ∀ p ∈ o.plugins, p ∈ Plugin.defaults) {I : List Token → Prop}
    (hattributes : ∀ {ts}, I ts → I (Plugin.Attributes.revise o.delimiters ts))
    (hanchors : ∀ {ts}, I ts → I (Plugin.Anchors.revise ts))
    (hterms : ∀ {ts}, I ts →
      I (mapRuns (fun children => (markReferences children).1) (extract ts)))
    (hlinks : ∀ {ts}, I ts → I (mapRuns (o.engine.linkify.linkChildren 0) ts))
    {events : List Event} (h : I (assemble events).1) : I (o.engine.parseEvents events {}).1 := by
  have hrules : ∀ rule ∈ o.engine.coreRules, ∀ {ts : List Token} (s : Session), I ts →
      I (rule.apply ts s).1 := by
    rw [Options.coreRules_engine]
    refine List.forall_mem_cons.mpr ⟨fun _ => hattributes, fun rule hrule ts s hts => ?_⟩
    obtain ⟨p, hp, hrule⟩ := List.mem_flatMap.mp hrule
    rcases Plugin.mem_defaults.mp (ho p hp) with rfl | rfl | rfl <;>
      obtain rfl := List.mem_singleton.mp hrule
    · exact hanchors hts
    · change I (Plugin.Terms.revise ts s).1
      rw [Plugin.Terms.revise_fst]
      exact hterms hts
    · exact hts
  have happlied : I (Engine.applyRules o.engine.coreRules (assemble events).1
      (storedSession events)).1 :=
    List.foldlRecOn (motive := fun state : List Token × Session => I state.1) o.engine.coreRules
      _ h fun state hstate rule hrule => hrules rule hrule state.2 hstate
  have hparse : (o.engine.parseEvents events {}).1
      = if o.engine.linksText then o.engine.linkify.apply
          (Engine.applyRules o.engine.coreRules (assemble events).1 (storedSession events)).1
        else (Engine.applyRules o.engine.coreRules (assemble events).1 (storedSession events)).1 :=
    rfl
  rw [hparse]
  split
  · rw [Linkify.apply_eq_mapRuns]
    exact hlinks happlied
  · exact happlied

theorem Plugin.defaults_eq : defaults = [anchors, terms, assets] := by
  simp [defaults, builtinNames, builtin?]

section Defaults

variable {o : Options} (ho : o.plugins = Plugin.defaults)

include ho

theorem Options.usesBuiltins_of_defaults
    (htitle : o.extractTitle = true → o.titleStrategy = Folio.extractTitle) : o.UsesBuiltins :=
  ⟨fun _ hp => ho ▸ hp, htitle⟩

theorem Options.coreRules_defaults : o.engine.coreRules
    = [.ofTokens "attrs" (Plugin.Attributes.revise o.delimiters),
        .ofTokens "anchors" Plugin.Anchors.revise, Plugin.Terms.rule,
        { name := "assets", apply := fun tokens s =>
            (tokens, s.mapEnv (Plugin.Assets.collect tokens)) }] := by
  rw [Options.coreRules_engine, ho, Plugin.defaults_eq]
  rfl

/-- The rule for definitions is the one of the plugin. -/
theorem Options.lookup_definition : (o.engine.rendererIn {}).rules.lookup "term_definition"
    = some Plugin.Terms.renderDefinition := by
  rw [Engine.rendererIn, Options.renderer_engine, ho, Plugin.defaults_eq]
  rfl

/-- **What the default plugins make of a document**: its definitions are taken out, its references
are marked, and last come the links in the text. -/
theorem fst_engine_parseEvents_defaults (events : List Event) :
    (o.engine.parseEvents events {}).1
      = mapRuns (fun children => o.engine.linkedRun (markReferences children).1)
          (extract (o.anchored events)) := by
  have hrules : (Engine.applyRules o.engine.coreRules (assemble events).1 (storedSession events)).1
      = mapRuns (fun children => (markReferences children).1) (extract (o.anchored events)) := by
    rw [Options.coreRules_defaults ho, ← Plugin.Terms.revise_fst _ (storedSession events)]
    rfl
  have hparse : (o.engine.parseEvents events {}).1
      = if o.engine.linksText then
          o.engine.linkify.apply
            (Engine.applyRules o.engine.coreRules (assemble events).1 (storedSession events)).1
        else (Engine.applyRules o.engine.coreRules (assemble events).1 (storedSession events)).1 :=
    rfl
  rw [hparse, hrules]
  unfold Engine.linkedRun
  split
  · rw [Linkify.apply_eq_mapRuns, mapRuns_mapRuns]
  · rfl

/-- Only the rule for terms reports anything. -/
theorem log_engine_parseEvents_defaults (events : List Event) :
    (o.engine.parseEvents events {}).2.log
      = (Plugin.Terms.revise (o.anchored events) (storedSession events)).2.log := by
  unfold Engine.parseEvents
  rw [Options.coreRules_defaults ho]
  rfl

end Defaults

/-! ### The title -/

/-- What taking the title out leaves of the tokens that the rules have made: all but one heading,
and all of them if no title is taken out. -/
structure Options.KeepsTokens (o : Options) (events : List Event) : Prop where
  headed : Headed Token.HasLegibleNames (o.pipeline.parseEvents events).1
  sublist : (o.pipeline.parseEvents events).1.Sublist (o.engine.parseEvents events {}).1
  definitions : ∀ d ∈ (o.engine.parseEvents events {}).1, d.kind = definitionKind →
    d ∈ (o.pipeline.parseEvents events).1
  all : o.extractTitle = false →
    (o.pipeline.parseEvents events).1 = (o.engine.parseEvents events {}).1

/-- Built-in plugins make headings of which the first can be taken out. -/
theorem Options.keepsTokens {o : Options} {events : List Event} (ho : o.UsesBuiltins)
    (h : ProperlyNested events) : o.KeepsTokens events := by
  have hheaded := headed_engine_parseEvents ho.plugins
    (isKeptByAttributes_hasLegibleNames o.delimiters) h
  have hengine : o.pipeline.engine = o.engine := rfl
  cases hextract : o.extractTitle with
  | false =>
    have hall : (o.pipeline.parseEvents events).1 = (o.engine.parseEvents events {}).1 := by
      rw [Pipeline.fst_parseEvents, hengine]
      exact if_neg (by simp [Options.pipeline, hextract])
    exact ⟨hall ▸ hheaded, hall ▸ List.Sublist.refl _, fun d hd _ => hall ▸ hd, fun _ => hall⟩
  | true =>
    have htokens : (o.pipeline.parseEvents events).1
        = (Folio.extractTitle (o.engine.parseEvents events {}).1).tokens := by
      have htitle : o.pipeline.titleStrategy = Folio.extractTitle := ho.title hextract
      rw [Pipeline.fst_parseEvents, hengine, htitle]
      exact if_pos hextract
    refine ⟨?_, ?_, fun d hd hk => ?_, fun hkeep => ?_⟩
    · exact htokens ▸ hheaded.tokens_extractTitle
    · exact htokens ▸ hheaded.sublist_extractTitle
    · exact htokens ▸ hheaded.mem_extractTitle_of_definition hd hk
    · rw [hkeep] at hextract
      cases hextract

end Folio
