import Folio.Proofs.DefinitionPass
import Folio.Proofs.ReferencePairs
import Folio.Proofs.Revisions

/-!
# Rules that keep the balance

A rule may be given any stream that the rules before it leave, and has to keep it balanced, at its
top and in the children of every token.  Ids and assets are no matter of balance at all, and
references are marked pair by pair.  The other rules take off, replace or cut up tokens that they
expect to stand alone: the texts of a run, and the middle one of the three tokens that make a
definition.  They look at the kind of a text, and of the middle token at nothing but its children.
The attribute rule expects the same of code: behind code that begins a pair it counts backwards for
a partner from below zero, which is an overflow and no search.

So they keep the balance of every page, and of all streams in which these tokens stand alone.  Where
the middle token of a definition does not, its partner is left without it.

## Main definitions

* `BalancedThroughout` — balanced, and the children of every token as well.
* `TakesChildren` — nothing new is among the children of the tokens.
* `TextsStandAlone`, `CodeStandsAlone`, `Terms.DefinitionsAreRuns` — the tokens that the rules
  expect to stand alone.
* `KeepsBalance` — which rules keep the balance of a stream.

## Main results

* `PageContent.balancedThroughout` — a page is balanced throughout, and its texts and its code stand
  alone.
* `balanced_definition_iff` — **a definition leaves the balance exactly if the middle one of its
  three tokens stands alone.**
* `keepsBalance` — **the rules keep the balance of a stream in which texts, code and the middle
  tokens of definitions stand alone.**
* `not_leavesBalanced_noteInParagraph` — the term rule leaves the end of a paragraph without its
  beginning, and `not_leavesBalanced_pairedTexts` that the attribute rule takes off one of a pair.
-/

namespace Folio

open BracketOf (IsBalanced excess excess_append)
open Plugin.Attributes (editsTexts_strippedRun forall₂_stripped sameShape_strippedRun stripped)
open Plugin.Terms (DefinitionsAreRuns definition? definition?_eq_some
  definitionsAreRuns_of_childless definitionsAreRuns_of_isPagePart extract markReferences
  mem_extract scan_definition scan_extract)

/-! ### Balance at every depth -/

/-- The tokens are balanced, and so are the children of every token, and those of the children. -/
inductive BalancedThroughout : List Token → Prop
  | intro {ts : List Token} (balanced : checkBalance ts = .ok ())
      (children : ∀ t ∈ ts, BalancedThroughout t.children) : BalancedThroughout ts

theorem balancedThroughout_iff {ts : List Token} : BalancedThroughout ts ↔
    IsBalanced (brackets ts) ∧ ∀ t ∈ ts, BalancedThroughout t.children := by
  constructor
  · rintro ⟨balanced, children⟩
    exact ⟨checkBalance_eq_ok_iff.mp balanced, children⟩
  · exact fun h => .intro (checkBalance_eq_ok_iff.mpr h.1) h.2

/-- The tokens of the second list have the children of a token of the first list, or none. -/
def TakesChildren (ts us : List Token) : Prop :=
  ∀ u ∈ us, u.children = [] ∨ ∃ t ∈ ts, u.children = t.children

theorem TakesChildren.mono {ts ts' us : List Token} (h : TakesChildren ts us) (hts : ts ⊆ ts') :
    TakesChildren ts' us :=
  fun u hu => (h u hu).imp_right fun ⟨t, ht, heq⟩ => ⟨t, hts ht, heq⟩

namespace BalancedThroughout

variable {ts us : List Token}

theorem nil : BalancedThroughout [] := .intro rfl (List.forall_mem_nil _)

theorem isBalanced (h : BalancedThroughout ts) : IsBalanced (brackets ts) :=
  (balancedThroughout_iff.mp h).1

theorem children {t : Token} (h : BalancedThroughout ts) (ht : t ∈ ts) :
    BalancedThroughout t.children := (balancedThroughout_iff.mp h).2 t ht

/-- Nothing more is to be shown of tokens whose children have no children. -/
theorem of_childless (hbalanced : checkBalance ts = .ok ())
    (hchildren : ∀ t ∈ ts, checkBalance t.children = .ok () ∧ ∀ c ∈ t.children, c.children = []) :
    BalancedThroughout ts :=
  .intro hbalanced fun t ht => .intro (hchildren t ht).1 fun c hc =>
    (hchildren t ht).2 c hc ▸ nil

/-- Tokens that keep their place can be changed one by one. -/
theorem of_forall₂ (hts : BalancedThroughout ts) (h : List.Forall₂ (fun t u => SameShape t u ∧
      (BalancedThroughout t.children → BalancedThroughout u.children)) ts us) :
    BalancedThroughout us := by
  have hbrackets : brackets us = brackets ts :=
    bracketsBy_congr (h.imp fun _ _ htu => ⟨htu.1.2.1, htu.1.1⟩)
  refine balancedThroughout_iff.mpr ⟨hbrackets ▸ hts.isBalanced, ?_⟩
  have hchildren := (balancedThroughout_iff.mp hts).2
  clear hts hbrackets
  induction h with
  | nil => exact List.forall_mem_nil _
  | cons htu _ ih =>
    obtain ⟨ht, hchildren⟩ := List.forall_mem_cons.mp hchildren
    exact List.forall_mem_cons.mpr ⟨htu.2 ht, ih hchildren⟩

/-- Tokens whose children have been there before need to be balanced at the top only. -/
theorem of_children (hts : BalancedThroughout ts) (hbalanced : IsBalanced (brackets us))
    (h : TakesChildren ts us) : BalancedThroughout us := by
  refine balancedThroughout_iff.mpr ⟨hbalanced, fun u hu => ?_⟩
  rcases h u hu with hnil | ⟨t, ht, heq⟩
  · exact hnil ▸ nil
  · exact heq ▸ hts.children ht

/-- The content of every run is rewritten. -/
theorem mapRuns (hts : BalancedThroughout ts) {f : List Token → List Token}
    (hf : ∀ t ∈ ts, BalancedThroughout t.children → BalancedThroughout (f t.children)) :
    BalancedThroughout (Folio.mapRuns f ts) := by
  refine hts.of_forall₂ (List.forall₂_map_right_iff.mpr (List.forall₂_same.mpr fun t ht => ?_))
  split
  · exact ⟨⟨rfl, rfl, rfl⟩, hf t ht⟩
  · exact ⟨⟨rfl, rfl, rfl⟩, id⟩

end BalancedThroughout

/-! ### Content that is rewritten -/

section Content

variable {ts us : List Token}

theorem EditsTexts.takesChildren (h : EditsTexts ts us) : TakesChildren ts us := by
  induction h with
  | nil => exact List.forall_mem_nil _
  | @keep t t' ts us hedited _ ih =>
    obtain ⟨attrs, content, info, rfl⟩ := hedited.eq
    exact List.forall_mem_cons.mpr
      ⟨.inr ⟨t, List.mem_cons_self, rfl⟩, ih.mono (List.subset_cons_self t ts)⟩
  | @drop t ts _ _ _ ih => exact ih.mono (List.subset_cons_self t ts)

/-- **Texts that stand alone can be changed and left out.** -/
theorem BalancedThroughout.of_editsTexts (hts : BalancedThroughout ts) (h : EditsTexts ts us)
    (htexts : ∀ t ∈ ts, t.kind = .text → t.nesting = .single) : BalancedThroughout us :=
  hts.of_children (h.brackets_eq htexts ▸ hts.isBalanced) h.takesChildren

/-- **Texts that stand alone can be cut up into parts and links.** -/
theorem BalancedThroughout.linkChildren (l : Linkify) (hts : BalancedThroughout ts)
    (htexts : ∀ t ∈ ts, t.kind = .text → t.nesting = .single) (depth : Nat) :
    BalancedThroughout (l.linkChildren depth ts) := by
  refine hts.of_children ((l.scan_linkChildren htexts depth []).trans hts.isBalanced) fun u hu => ?_
  rcases Linkify.mem_linkChildren hu with hu | ⟨segment, hu⟩
  · exact .inr ⟨u, hu, rfl⟩
  · exact .inl ((Linkify.segmentTokens_spec segment).1.parts u hu).children

/-- The ends of references have no children, and all other tokens have theirs. -/
theorem Marks.takesChildren {keys : List String} (h : Marks ts us keys) : TakesChildren ts us := by
  induction h with
  | nil => exact List.forall_mem_nil _
  | @single t ts us _ _ _ ih =>
    exact List.forall_mem_cons.mpr
      ⟨.inr ⟨t, List.mem_cons_self, rfl⟩, ih.mono (List.subset_cons_self t ts)⟩
  | @pair o c body _ rest _ _ _ _ _ _ _ _ _ ihbody ihrest =>
    refine List.forall_mem_append.mpr ⟨List.forall_mem_cons.mpr ⟨.inr ⟨o, by simp, rfl⟩, ?_⟩,
      List.forall_mem_cons.mpr ⟨.inr ⟨c, by simp, rfl⟩, ?_⟩⟩
    · exact ihbody.mono fun t ht => by simp [ht]
    · exact ihrest.mono fun t ht => by simp [ht]
  | @link o c body _ rest _ _ _ _ _ _ _ _ _ ihbody ihrest =>
    refine List.forall_mem_append.mpr ⟨List.forall_mem_cons.mpr ⟨.inl rfl, ?_⟩,
      List.forall_mem_cons.mpr ⟨.inl rfl, ?_⟩⟩
    · exact ihbody.mono fun t ht => by simp [ht]
    · exact ihrest.mono fun t ht => by simp [ht]

/-- **References are marked pair by pair**, so nothing is asked of the tokens. -/
theorem BalancedThroughout.markReferences (hts : BalancedThroughout ts) :
    BalancedThroughout (markReferences ts).1 := by
  obtain ⟨us, keys, hmarks, heq⟩ := exists_marks_markReferences (nested_of_balanced hts.isBalanced)
  rw [heq]
  exact hts.of_children hmarks.nested.balanced hmarks.takesChildren

end Content

/-! ### The rules -/

/-- The texts among the children of the tokens stand alone. -/
def TextsStandAlone (ts : List Token) : Prop :=
  ∀ t ∈ ts, ∀ c ∈ t.children, c.kind = .text → c.nesting = .single

/-- The code among the children of the tokens stands alone. -/
def CodeStandsAlone (ts : List Token) : Prop :=
  ∀ t ∈ ts, ∀ c ∈ t.children, c.kind = .codeInline → c.nesting = .single

/-- **A page is balanced throughout, and what the rules expect to stand alone does so.** -/
theorem PageContent.balancedThroughout {ts : List Token} (h : PageContent ts) :
    BalancedThroughout ts ∧ TextsStandAlone ts ∧ CodeStandsAlone ts ∧ DefinitionsAreRuns ts := by
  have hchildren : ∀ t ∈ ts, InlineContent t.children := fun t ht => (h.parts t ht).children
  refine ⟨.of_childless (checkBalance_eq_ok_iff.mpr (balanced_of_shown h.balanced)) fun t ht => ?_,
    fun t ht c hc => ((hchildren t ht).parts c hc).single_of_text,
    fun t ht c hc => ((hchildren t ht).parts c hc).single_of_code,
    definitionsAreRuns_of_isPagePart h.parts⟩
  exact ⟨checkBalance_eq_ok_iff.mpr (hchildren t ht).balanced,
    fun c hc => ((hchildren t ht).parts c hc).children⟩

section Rules

variable {ts us pre post : List Token} {a b c d : Token}

/-- **A definition leaves the balance exactly if the middle one of its three tokens stands
alone.** -/
theorem balanced_definition_iff (hd : definition? a b c = some d)
    (h : IsBalanced (brackets (pre ++ a :: b :: c :: post))) :
    IsBalanced (brackets (pre ++ d :: post)) ↔ b.nesting = .single := by
  obtain ⟨-, ho, hc, -, -, hn, -⟩ := definition?_eq_some hd
  constructor
  · -- The definition opens nothing, and the three tokens open what the middle one opens.
    intro hafter
    have hbefore := h.excess_eq
    have hafter := hafter.excess_eq
    rw [brackets, bracketsBy_append, excess_append] at hbefore hafter
    rw [bracketsBy_cons_opening _ ho, excess] at hbefore
    rw [bracketsBy_cons_single _ hn] at hafter
    cases hb : b.nesting with
    | single => rfl
    | opening =>
      rw [bracketsBy_cons_opening _ hb, bracketsBy_cons_closing _ hc, excess, excess] at hbefore
      omega
    | closing =>
      rw [bracketsBy_cons_closing _ hb, bracketsBy_cons_closing _ hc, excess, excess] at hbefore
      omega
  · intro hb
    exact scan_bracketsBy_append_of_imp Token.kind pre h fun _ => scan_definition Token.kind hd hb

/-- **Definitions are taken out** of a stream in which their middle tokens stand alone. -/
theorem BalancedThroughout.extract (hts : BalancedThroughout ts) (htexts : TextsStandAlone ts)
    (hruns : DefinitionsAreRuns ts) : BalancedThroughout (extract ts) := by
  refine balancedThroughout_iff.mpr
    ⟨scan_extract Token.kind ts hruns hts.isBalanced, fun u hu => ?_⟩
  rcases mem_extract hu with hu | ⟨a, b, c, hrow, hd⟩
  · exact hts.children hu
  · -- The content of a definition is the content of its middle token without the mark.
    have hb : b ∈ ts := hrow.subset (by simp)
    obtain ⟨-, -, -, -, -, -, hedits⟩ := definition?_eq_some hd
    exact (hts.children hb).of_editsTexts hedits (htexts b hb)

/-- Attributes are no matter of balance. -/
theorem BalancedThroughout.of_sameButAttrs (hts : BalancedThroughout ts)
    (h : List.Forall₂ SameButAttrs ts us) : BalancedThroughout us :=
  hts.of_forall₂ (h.imp fun _ _ h => ⟨h.sameShape, fun hchildren => by
    obtain ⟨attrs, info, rfl⟩ := h
    exact hchildren⟩)

/-- **Attribute blocks are taken off** the texts of all runs. -/
theorem BalancedThroughout.stripped (d : Delimiters) (hts : BalancedThroughout ts)
    (htexts : TextsStandAlone ts) : BalancedThroughout (stripped d [] ts) :=
  hts.of_forall₂ (forall₂_stripped d (fun _ => ⟨⟨rfl, rfl, rfl⟩, id⟩) ts
    (fun t ht _ before => ⟨sameShape_strippedRun, fun hchildren =>
      hchildren.of_editsTexts (editsTexts_strippedRun d before t) (htexts t ht)⟩) [])

end Rules

/-! ### All rules -/

/-- Whatever the session is, the rules of the plugin leave the tokens balanced throughout. -/
def Plugin.LeavesBalanced (p : Plugin) (ts : List Token) : Prop :=
  ∀ options, ∀ rule ∈ p.coreRules options, ∀ s, BalancedThroughout (rule.apply ts s).1

/-- Which rules keep the balance of a stream. -/
structure KeepsBalance (ts : List Token) : Prop where
  anchors : Plugin.anchors.LeavesBalanced ts
  assets : Plugin.assets.LeavesBalanced ts
  /-- The partner of code is searched for only if the code does not stand alone. -/
  attributes : TextsStandAlone ts → CodeStandsAlone ts → ∀ d,
    (Plugin.attributes d).LeavesBalanced ts
  links : TextsStandAlone ts → ∀ l : Linkify, BalancedThroughout (l.apply ts)
  terms : TextsStandAlone ts → DefinitionsAreRuns ts → Plugin.terms.LeavesBalanced ts
  /-- References are marked in any stream. -/
  references : BalancedThroughout (mapRuns (fun children => (markReferences children).1) ts)
  /-- The middle token of a definition has to stand alone, for each definition by itself. -/
  definition : ∀ {pre post : List Token} {a b c d : Token}, ts = pre ++ a :: b :: c :: post →
    definition? a b c = some d → (checkBalance (pre ++ d :: post) = .ok () ↔ b.nesting = .single)

/-- **The rules keep the balance of a stream in which texts, code and the middle tokens of
definitions stand alone.** -/
theorem keepsBalance {ts : List Token} (h : BalancedThroughout ts) : KeepsBalance ts where
  anchors _ rule hrule s := by
    obtain rfl := List.mem_singleton.mp hrule
    exact h.of_sameButAttrs (Plugin.Anchors.forall₂_assign ts _)
  assets _ rule hrule s := by
    obtain rfl := List.mem_singleton.mp hrule
    exact h
  attributes htexts _ d _ rule hrule s := by
    obtain rfl := List.mem_singleton.mp hrule
    exact (h.stripped d htexts).of_sameButAttrs (Plugin.Attributes.forall₂_revise d ts)
  links htexts l :=
    h.mapRuns fun t ht hchildren => hchildren.linkChildren l (htexts t ht) 0
  terms htexts hruns _ rule hrule s := by
    obtain rfl := List.mem_singleton.mp hrule
    change BalancedThroughout (Plugin.Terms.revise ts s).1
    rw [Plugin.Terms.revise_fst]
    exact (h.extract htexts hruns).mapRuns fun _ _ => .markReferences
  references := h.mapRuns fun _ _ => .markReferences
  definition {pre post a b c d} heq hd := by
    rw [checkBalance_eq_ok_iff]
    exact balanced_definition_iff hd (heq ▸ h.isBalanced)

/-- A definition, and a note that refers to it. -/
def termWithNote : List Token :=
  [.opening .paragraph 0, .inlineRun [.text "[*k]: x"] 1, .closing .paragraph 0,
    .opening (.custom "note") 0,
    .inlineRun [(Token.mark .link .opening).setAttr "href" "*k", .text "y", .mark .link .closing,
      .text " \x7b.z\x7d"] 1,
    .closing (.custom "note") 0]

/-- The definition is taken out, and the note around the reference keeps its two ends. -/
theorem keepsBalance_termWithNote : BalancedThroughout termWithNote ∧
    TextsStandAlone termWithNote ∧ CodeStandsAlone termWithNote ∧
    DefinitionsAreRuns termWithNote ∧
    (Plugin.Terms.revise termWithNote {}).1.map Token.kind =
      [Plugin.Terms.definitionKind, .custom "note", .inline, .custom "note"] ∧
    KeepsBalance termWithNote :=
  have balanced : BalancedThroughout termWithNote :=
    .of_childless (by decide +kernel) (by decide +kernel)
  have texts : TextsStandAlone termWithNote := by
    unfold TextsStandAlone
    decide +kernel
  have code : CodeStandsAlone termWithNote := by
    unfold CodeStandsAlone
    decide +kernel
  ⟨balanced, texts, code, definitionsAreRuns_of_childless (by decide +kernel), by decide +kernel,
    keepsBalance balanced⟩

/-- A paragraph with a note in it, whose text is with the beginning of the note. -/
def noteInParagraph : List Token :=
  [.opening .paragraph 0,
    { Token.opening (.custom "note") 1 with children := [.text "[*k]: x"] },
    .closing (.custom "note") 1, .closing .paragraph 0]

/-- **The end of the note is taken for the end of the paragraph**, and that is left alone. -/
theorem not_leavesBalanced_noteInParagraph : BalancedThroughout noteInParagraph ∧
    (Plugin.Terms.revise noteInParagraph {}).1.map (fun t => (t.kind, t.nesting)) =
      [(Plugin.Terms.definitionKind, .single), (.paragraph, .closing)] ∧
    ¬ Plugin.terms.LeavesBalanced noteInParagraph := by
  refine ⟨.of_childless (by decide +kernel) (by decide +kernel), by decide +kernel, fun h => ?_⟩
  have hbalanced := (h {} Plugin.Terms.rule List.mem_cons_self {}).isBalanced
  revert hbalanced
  decide +kernel

/-- A paragraph whose two texts are a pair. -/
def pairedTexts : List Token :=
  [.opening .paragraph 0,
    .inlineRun [{ Token.text "x" with nesting := .opening },
      { Token.text "\x7b.z\x7d" with nesting := .closing }] 1,
    .closing .paragraph 0]

/-- The second text is taken off as an attribute block. -/
theorem not_leavesBalanced_pairedTexts : BalancedThroughout pairedTexts ∧
    ¬ (Plugin.attributes {}).LeavesBalanced pairedTexts := by
  refine ⟨.of_childless (by decide +kernel) (by decide +kernel), fun h => ?_⟩
  have hrun := h {} (.ofTokens "attrs" (Plugin.Attributes.revise {})) List.mem_cons_self {}
  have hbalanced : ∀ t ∈ Plugin.Attributes.revise {} pairedTexts,
      IsBalanced (brackets t.children) := fun t ht => (hrun.children ht).isBalanced
  revert hbalanced
  decide +kernel

end Folio
