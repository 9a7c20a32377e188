import Folio.Proofs.DefinitionPass
import Folio.Proofs.ReferencePass

/-!
# The terms of a parsed document

Definitions are taken out of a document before the references to terms are marked, and only runs
are looked through for references.  So in what has been parsed every run is free of links to terms,
and a definition still has those that stood in its paragraph.

## Main definitions

* `DefinitionLinksTo` — a paragraph that defines a term links to a term.

## Main results

* `Options.exists_openedKey?_parsed` — the references of a parsed document are the links of its
  runs.
* `Options.mem_definition_parsed_iff` — its definitions are the paragraphs that define terms.
* `Options.kind_of_referenceKey?_parsed` — **the links to terms that are left stand in
  definitions.**
-/

namespace Folio

open Markdown (Event ProperlyNested)
open Plugin.Terms (DefinesTerm IsDefinition definition? definitionKind definition?_eq_some
  definition?_eq_some_iff extract markAll markReferences mem_extract mem_extract_of_infix
  referenceKey?)

/-- A paragraph that defines a term links to the term of the key. -/
def DefinitionLinksTo (ts : List Token) (key : String) : Prop :=
  ∃ o run c term, [o, run, c] <:+: ts ∧ IsDefinition o run c term ∧
    ∃ child ∈ run.children, referenceKey? child = some key

namespace Plugin.Terms

/-- A definition has the tokens of its paragraph behind the mark. -/
theorem forall_children_definition {P : Token → Prop}
    (hcontent : ∀ {t : Token}, t.kind = .text → P t → ∀ content, P (t.withContent content))
    {o run c d : Token}
    (h : definition? o run c = some d) (hrun : ∀ child ∈ run.children, P child) :
    ∀ child ∈ d.children, P child := by
  obtain ⟨-, -, -, first, others, key, text, hchildren, htext, -, rfl⟩ :=
    definition?_eq_some_iff.mp h
  rw [hchildren] at hrun
  obtain ⟨hfirst, hothers⟩ := List.forall_mem_cons.mp hrun
  dsimp only [definitionToken]
  split
  · exact hothers
  · exact List.forall_mem_cons.mpr ⟨hcontent htext hfirst _, hothers⟩

/-- A definition has all tokens of its paragraph but a text. -/
theorem exists_mem_definition_iff {o run c d : Token} (h : definition? o run c = some d)
    {p : Token → Prop} (hp : ∀ t : Token, t.kind = .text → ¬p t) :
    (∃ child ∈ d.children, p child) ↔ ∃ child ∈ run.children, p child := by
  obtain ⟨-, -, -, first, others, key, text, hchildren, htext, -, rfl⟩ :=
    definition?_eq_some_iff.mp h
  have hfirst : ¬p first := hp first htext
  have hfirst' : ∀ s, ¬p (first.withContent s) := fun s => hp _ htext
  rw [hchildren]
  dsimp only [definitionToken]
  split <;> simp [hfirst, hfirst']

/-- A definition has the links of its paragraph. -/
theorem exists_referenceKey?_definition {o run c d : Token} (h : definition? o run c = some d)
    (key : String) : (∃ child ∈ d.children, referenceKey? child = some key) ↔
      ∃ child ∈ run.children, referenceKey? child = some key := by
  refine exists_mem_definition_iff h fun t ht => ?_
  rw [referenceKey?_of_ne (by rw [ht]; exact Kind.noConfusion)]
  exact nofun

/-- The tokens of a list without its definitions, and of the definitions, are inline. -/
theorem isSpan_of_mem_extract {ts : List Token} (hts : ∀ t ∈ ts, t.IsBlock) {t : Token}
    (h : t ∈ extract ts) : ∀ c ∈ t.children, c.IsSpan := by
  rcases mem_extract h with ht | ⟨o, run, c, hrow, hd⟩
  · exact (hts t ht).spans
  · exact forall_children_definition (fun _ => Token.IsSpan.withContent) hd
      (hts run (hrow.subset (by simp))).spans

end Plugin.Terms

/-- The attributes of a link in the text can be read off the page. -/
theorem hasLegibleNames_of_mem_segmentTokens {segment : Linkify.Segment} {t : Token}
    (ht : t ∈ segment.tokens) : t.HasLegibleNames := by
  rcases Linkify.mem_segmentTokens ht with ⟨s, rfl⟩ | ⟨s, rfl⟩ | rfl
  · exact List.forall_mem_nil _
  · exact (by decide : ∀ n ∈ ["href"], Html.IsAttributeName n)
  · exact List.forall_mem_nil _

section Parsed

variable {o : Options} {events : List Event} (ho : o.plugins = Plugin.defaults)

/-! ### The tokens that have been parsed -/

include ho

/-- The runs of a parsed document. -/
theorem Options.mem_run_parsed {t : Token} (hk : t.kind = .inline) :
    t ∈ (o.engine.parseEvents events {}).1 ↔ ∃ run ∈ extract (o.anchored events),
      run.kind = .inline ∧
        t = { run with children := o.engine.linkedRun (markReferences run.children).1 } := by
  rw [fst_engine_parseEvents_defaults ho, mem_mapRuns_iff hk]

/-- Everything else has been parsed when the definitions have been taken out. -/
theorem Options.mem_parsed_of_ne {t : Token} (hk : t.kind ≠ .inline) :
    t ∈ (o.engine.parseEvents events {}).1 ↔ t ∈ extract (o.anchored events) := by
  rw [fst_engine_parseEvents_defaults ho, mapRuns, List.mem_map]
  constructor
  · rintro ⟨u, hu, rfl⟩
    split at hk
    · next hcond => exact absurd (by simpa using hcond) hk
    · next hcond => rwa [if_neg hcond]
  · exact fun ht => ⟨t, ht, if_neg (by simpa using hk)⟩

/-- Only runs have references. -/
theorem Options.openedKey?_of_ne_inline {t : Token} (ht : t ∈ (o.engine.parseEvents events {}).1)
    (hk : t.kind ≠ .inline) : ∀ c ∈ t.children, c.openedKey? = none := fun c hc =>
  (Plugin.Terms.isSpan_of_mem_extract (o.isBlock_anchored events)
    ((Options.mem_parsed_of_ne ho hk).mp ht) c hc).openedKey?

omit ho

theorem Options.marked_run (h : ProperlyNested events) {run : Token}
    (hrun : run ∈ extract (o.anchored events)) :
    Marked run.children (markReferences run.children).1 (markReferences run.children).2 := by
  have hcontent := (Plugin.Terms.pageContent_extract (pageContent_anchored o h)).parts run hrun
  refine marked_markReferences hcontent.children fun c hc => ?_
  exact (Plugin.Terms.isSpan_of_mem_extract (o.isBlock_anchored events) hrun c hc).openedKey?

include ho

/-- **No run of a parsed document has a link to a term.** -/
theorem Options.referenceKey?_run_parsed (h : ProperlyNested events) {t : Token}
    (ht : t ∈ (o.engine.parseEvents events {}).1) (hk : t.kind = .inline) :
    ∀ c ∈ t.children, referenceKey? c = none := by
  obtain ⟨run, hrun, -, rfl⟩ := (Options.mem_run_parsed ho hk).mp ht
  exact Engine.referenceKey?_linkedRun (Options.marked_run h hrun).none_left

/-- The references in the runs of a parsed document are the keys that the marking lists. -/
theorem Options.exists_openedKey?_parsed (h : ProperlyNested events) (key : Option String) :
    (∃ t ∈ (o.engine.parseEvents events {}).1, t.kind = .inline ∧
        ∃ c ∈ t.children, c.openedKey? = some key) ↔
      ∃ k, key = some k ∧ k ∈ (markAll (extract (o.anchored events))).2 := by
  constructor
  · rintro ⟨t, ht, hk, hopened⟩
    obtain ⟨run, hrun, hkind, rfl⟩ := (Options.mem_run_parsed ho hk).mp ht
    rw [Engine.exists_openedKey?_linkedRun, (Options.marked_run h hrun).opened] at hopened
    obtain ⟨k, hmem, rfl⟩ := hopened
    exact ⟨k, rfl, mem_markAll_keys.mpr ⟨run, hrun, hkind, hmem⟩⟩
  · rintro ⟨k, rfl, hmem⟩
    obtain ⟨run, hrun, hkind, hmem⟩ := mem_markAll_keys.mp hmem
    have hkind' : { run with
        children := o.engine.linkedRun (markReferences run.children).1 }.kind = .inline := hkind
    refine ⟨_, (Options.mem_run_parsed ho hkind').mpr ⟨run, hrun, hkind, rfl⟩, hkind, ?_⟩
    rw [Engine.exists_openedKey?_linkedRun, (Options.marked_run h hrun).opened]
    exact ⟨k, hmem, rfl⟩

omit ho in
/-- The keys that the marking lists are those of the links in the runs that are left when the
definitions have been taken out. -/
theorem Options.mem_keys_iff (h : ProperlyNested events) (key : String) :
    key ∈ (markAll (extract (o.anchored events))).2 ↔ ∃ run ∈ extract (o.anchored events),
      run.kind = .inline ∧ ∃ c ∈ run.children, referenceKey? c = some key := by
  rw [mem_markAll_keys]
  constructor
  · rintro ⟨run, hrun, hkind, hmem⟩
    exact ⟨run, hrun, hkind, ((Options.marked_run h hrun).found key).mpr hmem⟩
  · rintro ⟨run, hrun, hkind, hlink⟩
    exact ⟨run, hrun, hkind, ((Options.marked_run h hrun).found key).mp hlink⟩

/-- Only runs and definitions have inline tokens. -/
theorem Options.kind_of_mem_children_parsed {t : Token}
    (ht : t ∈ (o.engine.parseEvents events {}).1) {c : Token} (hc : c ∈ t.children) :
    t.kind = .inline ∨ t.kind = definitionKind := by
  refine Decidable.or_iff_not_imp_left.mpr fun hk => ?_
  rcases mem_extract ((Options.mem_parsed_of_ne ho hk).mp ht) with ht | ⟨a, run, b, -, hd⟩
  · rw [(o.isBlock_anchored events t ht).bare hk] at hc
    cases hc
  · exact (definition?_eq_some hd).2.2.2.2.1

/-- **The links to terms that are left stand in definitions.** -/
theorem Options.kind_of_referenceKey?_parsed (h : ProperlyNested events) {t : Token}
    (ht : t ∈ (o.engine.parseEvents events {}).1) {c : Token} (hc : c ∈ t.children) {key : String}
    (hkey : referenceKey? c = some key) : t.kind = definitionKind := by
  refine (Options.kind_of_mem_children_parsed ho ht hc).resolve_left fun hk => ?_
  rw [Options.referenceKey?_run_parsed ho h ht hk c hc] at hkey
  cases hkey

/-- The definitions of a parsed document are those of the paragraphs that define terms. -/
theorem Options.mem_definition_parsed_iff (h : ProperlyNested events) {d : Token} :
    (d ∈ (o.engine.parseEvents events {}).1 ∧ d.kind = definitionKind) ↔
      ∃ a run b, [a, run, b] <:+: o.anchored events ∧ definition? a run b = some d := by
  constructor
  · rintro ⟨hmem, hk⟩
    have hne : d.kind ≠ .inline := by rw [hk]; exact Kind.noConfusion
    refine (mem_extract ((Options.mem_parsed_of_ne ho hne).mp hmem)).resolve_left fun hd => ?_
    exact (o.isBlock_anchored events d hd).ne_definitionKind hk
  · rintro ⟨a, run, b, hrow, hd⟩
    obtain ⟨-, -, -, -, hk, -⟩ := definition?_eq_some hd
    have hmem := mem_extract_of_infix (pageContent_anchored o h).parts hrow hd
    exact ⟨(Options.mem_parsed_of_ne ho (by rw [hk]; exact Kind.noConfusion)).mpr hmem, hk⟩

/-- A definition of a parsed document has the links of its paragraph. -/
theorem Options.definitionLinksTo_iff (h : ProperlyNested events) (key : String) :
    (∃ d ∈ (o.engine.parseEvents events {}).1, d.kind = definitionKind ∧
        ∃ c ∈ d.children, referenceKey? c = some key) ↔
      DefinitionLinksTo (o.anchored events) key := by
  constructor
  · rintro ⟨d, hmem, hk, hlink⟩
    obtain ⟨a, run, b, hrow, hd⟩ := (Options.mem_definition_parsed_iff ho h).mp ⟨hmem, hk⟩
    obtain ⟨term, hterm⟩ := Plugin.Terms.exists_attr?_key hd
    exact ⟨a, run, b, term, hrow, Plugin.Terms.isDefinition_iff.mpr ⟨d, hd, hterm⟩,
      (Plugin.Terms.exists_referenceKey?_definition hd key).mp hlink⟩
  · rintro ⟨a, run, b, term, hrow, hdefinition, hlink⟩
    obtain ⟨d, hd, -⟩ := Plugin.Terms.isDefinition_iff.mp hdefinition
    obtain ⟨hmem, hk⟩ := (Options.mem_definition_parsed_iff ho h).mpr ⟨a, run, b, hrow, hd⟩
    exact ⟨d, hmem, hk, (Plugin.Terms.exists_referenceKey?_definition hd key).mpr hlink⟩

/-- **The definitions of a parsed document define the terms that its paragraphs define.** -/
theorem Options.definesTerm_iff (h : ProperlyNested events) (key : String) :
    (∃ d ∈ (o.engine.parseEvents events {}).1, d.kind = definitionKind ∧
        d.attr? "key" = some key) ↔ DefinesTerm (o.anchored events) key := by
  constructor
  · rintro ⟨d, hmem, hk, hkey⟩
    obtain ⟨a, run, b, hrow, hd⟩ := (Options.mem_definition_parsed_iff ho h).mp ⟨hmem, hk⟩
    exact ⟨a, run, b, hrow, Plugin.Terms.isDefinition_iff.mpr ⟨d, hd, hkey⟩⟩
  · rintro ⟨a, run, b, hrow, hdefinition⟩
    obtain ⟨d, hd, hkey⟩ := Plugin.Terms.isDefinition_iff.mp hdefinition
    obtain ⟨hmem, hk⟩ := (Options.mem_definition_parsed_iff ho h).mpr ⟨a, run, b, hrow, hd⟩
    exact ⟨d, hmem, hk, hkey⟩

/-- The attributes of everything in a run or a definition can be read off the page. -/
theorem Options.legible_parsed {t : Token} (ht : t ∈ (o.engine.parseEvents events {}).1) :
    ∀ c ∈ t.children, c.HasLegibleNames := by
  have hspans : ∀ u ∈ extract (o.anchored events), ∀ c ∈ u.children, c.IsSpan := fun u hu =>
    Plugin.Terms.isSpan_of_mem_extract (o.isBlock_anchored events) hu
  by_cases hk : t.kind = .inline
  · obtain ⟨run, hrun, -, rfl⟩ := (Options.mem_run_parsed ho hk).mp ht
    intro c hc
    rcases Engine.mem_linkedRun hc with hc | ⟨segment, hc⟩
    · rcases mem_markReferences hc with hc | ⟨key, rfl⟩ | rfl
      · exact (hspans run hrun c hc).names
      · exact (by decide : ∀ n ∈ ["key"], Html.IsAttributeName n)
      · exact List.forall_mem_nil _
    · exact hasLegibleNames_of_mem_segmentTokens hc
  · exact fun c hc => (hspans t ((Options.mem_parsed_of_ne ho hk).mp ht) c hc).names

end Parsed

end Folio
