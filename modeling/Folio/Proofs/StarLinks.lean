import Folio.Proofs.ParsedTerms
import Folio.Proofs.TermElements

/-!
# Links to terms that are left

Every link to a term in a run becomes a reference.  A definition is no run any more when the
references are marked, so the links in it stay what they are, and stand on the page as links to an
address that begins with a star.

## Main definitions

* `Options.MarksReferences` — what the default plugins make of the links to terms in a document.

## Main results

* `Pipeline.marksReferences_parseEvents` — **links to terms become references exactly if they stand
  outside of definitions.**
* `Pipeline.keepsStarLink_render` — a definition that refers to another one.
-/

namespace Folio

open Html (startTags)
open Markdown (Event ProperlyNested)
open Plugin.Terms (definitionKind extract referenceKey?)

/-- The links to terms in the runs of a document become references, and those in its definitions
stay links. -/
structure Options.MarksReferences (o : Options) (events : List Event) : Prop where
  /-- No run has a link to a term. -/
  runs : ∀ t ∈ (o.pipeline.parseEvents events).1, t.kind = .inline →
    ∀ c ∈ t.children, referenceKey? c = none
  /-- The references are the links that stood in the paragraphs that define nothing. -/
  references : o.extractTitle = false → ∀ key,
    (∃ t ∈ (o.pipeline.parseEvents events).1, t.kind = .inline ∧
      ∃ c ∈ t.children, c.openedKey? = some (some key)) ↔
    ∃ run ∈ extract (o.anchored events), run.kind = .inline ∧
      ∃ c ∈ run.children, referenceKey? c = some key
  /-- The links that are left are those of the paragraphs that define terms. -/
  left : ∀ key, (∃ t ∈ (o.pipeline.parseEvents events).1,
      ∃ c ∈ t.children, referenceKey? c = some key) ↔ DefinitionLinksTo (o.anchored events) key
  /-- The page, as it is before it is cleaned, has no other links to addresses that begin with a
  star. -/
  page : o.allowHtml = false → WritesNo "a" o.highlighter → ∃ page,
    (o.unsanitized.pipeline.renderEvents events).1 = .ok page ∧
    (o.pipeline.renderEvents events).1 = o.sanitized page ∧
    ∀ tag ∈ startTags page.html, tag.name = "a" → ∀ key, tag.attr? "href" = some ("*" ++ key) →
      DefinitionLinksTo (o.anchored events) key

section Parsed

variable {o : Options} {events : List Event} (ho : o.plugins = Plugin.defaults)
  (htitle : o.extractTitle = true → o.titleStrategy = Folio.extractTitle)
  (h : ProperlyNested events)

include ho htitle h

/-- A link on the page to an address that begins with a star is a link to a term. -/
theorem Options.exists_referenceKey?_of_tag (hhtml : o.allowHtml = false)
    (hhighlighter : WritesNo "a" o.highlighter) {env : Environment} {tag : Html.StartTag}
    (htag : tag ∈ startTags (o.pageOf (o.pipeline.parseEvents events).1 env).html)
    (hname : tag.name = "a") {key : String} (hhref : tag.attr? "href" = some ("*" ++ key)) :
    ∃ t ∈ (o.pipeline.parseEvents events).1, ∃ c ∈ t.children, referenceKey? c = some key := by
  have hbuiltins := Options.usesBuiltins_of_defaults ho htitle
  obtain ⟨hpage, -, -⟩ := pipeline_parseEvents_spec hbuiltins h
  have hkept := Options.keepsTokens hbuiltins h
  have hmem : tag.name ∈ tracedElements := by rw [hname]; decide
  rcases Options.element_of_mem_startTags hhtml hbuiltins hpage htag hmem
    (hname.symm ▸ hhighlighter) with ⟨t, ht, c, hc, pairs, hbecomes, htag⟩ | ⟨t, -, -, rfl⟩
  · rw [hname] at hbecomes htag
    obtain ⟨hk, hn, rfl⟩ := Token.becomes_a_iff.mp hbecomes
    have hlegible := Options.legible_parsed ho (hkept.sublist.subset ht) c hc
    have hattr := Html.attr?_written "a" (List.forall_mem_map.mp hlegible)
      (by decide : Html.escapeChars "href".toList = "href".toList)
    exact ⟨t, ht, c, hc,
      referenceKey?_eq_some_iff.mpr ⟨hk, hn, hattr.symm.trans (htag ▸ hhref)⟩⟩
  · rw [Html.name_written] at hname
    exact absurd hname (by decide)

end Parsed

namespace Pipeline

/-- **Links to terms become references exactly if they stand outside of definitions.** -/
theorem marksReferences_parseEvents (o : Options) (ho : o.plugins = Plugin.defaults)
    (htitle : o.extractTitle = true → o.titleStrategy = Folio.extractTitle) :
    (∀ events, ProperlyNested events → o.MarksReferences events) ∧
      ∀ input, o.MarksReferences (Engine.readEvents input) := by
  have hevents : ∀ events, ProperlyNested events → o.MarksReferences events := by
    intro events h
    have hbuiltins := Options.usesBuiltins_of_defaults ho htitle
    have hkept := Options.keepsTokens hbuiltins h
    obtain ⟨hpage, -, hdeferred⟩ := pipeline_parseEvents_spec hbuiltins h
    have hruns : ∀ t ∈ (o.pipeline.parseEvents events).1, t.kind = .inline →
        ∀ c ∈ t.children, referenceKey? c = none :=
      fun t ht hk => Options.referenceKey?_run_parsed ho h (hkept.sublist.subset ht) hk
    have hleft : ∀ key, (∃ t ∈ (o.pipeline.parseEvents events).1,
        ∃ c ∈ t.children, referenceKey? c = some key) ↔
          DefinitionLinksTo (o.anchored events) key := by
      intro key
      rw [← Options.definitionLinksTo_iff ho h key]
      constructor
      · rintro ⟨t, ht, c, hc, hkey⟩
        have ht' := hkept.sublist.subset ht
        exact ⟨t, ht', Options.kind_of_referenceKey?_parsed ho h ht' hc hkey, c, hc, hkey⟩
      · rintro ⟨d, hd, hk, hlink⟩
        exact ⟨d, hkept.definitions d hd hk, hlink⟩
    refine ⟨hruns, fun hextract key => ?_, hleft, fun hhtml hhighlighter => ?_⟩
    · rw [hkept.all hextract, Options.exists_openedKey?_parsed ho h, ← Options.mem_keys_iff h]
      simp
    · obtain ⟨hcompiled, hsanitized⟩ := Options.renderEvents_eq_pageOf hbuiltins hpage hdeferred
      refine ⟨_, hcompiled, hsanitized, fun tag htag hname key hhref => ?_⟩
      exact (hleft key).mp
        (Options.exists_referenceKey?_of_tag ho htitle h hhtml hhighlighter htag hname hhref)
  exact ⟨hevents, fun input => hevents _ (Markdown.shaped_blockEvents _).properlyNested⟩

/-- A link in a paragraph that defines nothing becomes a reference. -/
theorem marksReferences_parse_api :
    ({} : Options).MarksReferences (Engine.readEvents "[API](*api)\n\n[*api]: some text") ∧
    ((({} : Options).pipeline.parse "[API](*api)\n\n[*api]: some text").1.flatMap
      Token.children).filterMap Token.openedKey? = [some "api"] :=
  ⟨(marksReferences_parseEvents {} rfl fun _ => rfl).2 _, by decide +kernel⟩

/-- A definition that refers to another one keeps its link, and so does the page. -/
theorem keepsStarLink_render :
    (∃ t ∈ (({} : Options).pipeline.parse "[*a]: see [b](*b)\n\n[*b]: it is b").1,
      t.kind = definitionKind ∧ ∃ c ∈ t.children, referenceKey? c = some "b") ∧
    (({} : Options).pipeline.render "[*a]: see [b](*b)\n\n[*b]: it is b").1.toOption.map
      (fun page => (startTags page.html).any fun tag =>
        tag.name == "a" && tag.attr? "href" == some "*b") = some true := by
  constructor <;> decide +kernel

end Pipeline

end Folio
