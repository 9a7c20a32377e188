import Folio.Proofs.ParsedTerms

/-!
# Attributes with distinct names

An attribute is set or added to by its name, and whichever is done, the name is there once in the
end.  The tokens of the source begin with one or two attributes of different names, and no rule adds
attributes in another way; so no token of a document ever has two attributes of one name.

## Main definitions

* `Token.TellsNames` — the names of the attributes of a token are legible and distinct.
* `Token.TellsAllNames` — the same of the token and its children.
* `Assembly.TellsNames` — the same of all tokens that have been put together.

## Main results

* `Token.TellsNames.apply` — a block that is attached leaves the names distinct.
* `Assembly.TellsNames.event` — what one event keeps.
* `Options.tellsAllNames_parsed` — **no token of a parsed document has two attributes of one name.**
-/

namespace Folio

open Html (IsAttributeName)
open Markdown (Event assemble)
open Plugin.Terms (definition?_eq_some_iff definitionKind extract markReferences mem_extract)

/-! ### Attributes -/

namespace Attributes

/-- A name that is set is added only if it is not there. -/
theorem nodup_set {attrs : Attributes} (h : (attrs.map Prod.fst).Nodup) (name value : String) :
    ((attrs.set name value).map Prod.fst).Nodup := by
  induction attrs with
  | nil => simp [set]
  | cons p attrs ih =>
    obtain ⟨n, v⟩ := p
    rw [List.map_cons, List.nodup_cons] at h
    rw [set]
    split
    · exact List.nodup_cons.mpr h
    · next hne =>
      rw [List.map_cons, List.nodup_cons]
      refine ⟨fun hmem => ?_, ih h.2⟩
      -- The first name is none of the others, and not the one that is set.
      rcases mem_names_set hmem with rfl | hmem
      · simp at hne
      · exact h.1 hmem

theorem nodup_join {attrs : Attributes} (h : (attrs.map Prod.fst).Nodup) (name value : String) :
    ((attrs.join name value).map Prod.fst).Nodup := by
  rw [names_join]
  exact nodup_set h name value

end Attributes

/-- The names of the attributes are legible and distinct. -/
structure Token.TellsNames (t : Token) : Prop where
  legible : t.HasLegibleNames
  distinct : (t.attrs.map Prod.fst).Nodup

/-- The names of the attributes of the token are legible and distinct, and so are those of each of
its children. -/
structure Token.TellsAllNames (t : Token) : Prop extends t.TellsNames where
  children : ∀ c ∈ t.children, c.TellsNames

namespace Token.TellsNames

variable {t : Token}

theorem of_bare (h : t.attrs = []) : t.TellsNames := by
  refine ⟨fun n hn => ?_, ?_⟩
  · simp [h] at hn
  · simp [h]

theorem withContent (h : t.TellsNames) (content : String) : (t.withContent content).TellsNames :=
  ⟨h.legible, h.distinct⟩

theorem setAttr (h : t.TellsNames) {name : String} (hname : IsAttributeName name)
    (value : String) : (t.setAttr name value).TellsNames :=
  ⟨h.legible.setAttr hname value, Attributes.nodup_set h.distinct name value⟩

theorem joinAttr (h : t.TellsNames) {name : String} (hname : IsAttributeName name)
    (value : String) : (t.joinAttr name value).TellsNames :=
  ⟨h.legible.joinAttr hname value, Attributes.nodup_join h.distinct name value⟩

/-- **A block that is attached leaves the names distinct.** -/
theorem apply (h : t.TellsNames) {block : AttributeBlock} (hblock : block.IsLegible) :
    (block.apply t).TellsNames := by
  have hid : ∀ name : String, (t.setAttr "id" name).TellsNames := h.setAttr (by decide)
  refine List.foldlRecOn block.pairs _ ?_ fun u hu pair hpair => ?_
  · refine List.foldlRecOn block.classes _ ?_ fun u hu name _ => hu.joinAttr (by decide) name
    split
    · exact hid _
    · exact h
  · unfold AttributeBlock.applyPair
    split
    · exact hu.joinAttr (by decide) pair.2
    · exact hu.setAttr (hblock pair hpair) pair.2

end Token.TellsNames

namespace Token.TellsAllNames

variable {t : Token}

theorem of_bare (ha : t.attrs = []) (hc : t.children = []) : t.TellsAllNames := by
  refine ⟨.of_bare ha, ?_⟩
  rw [hc]
  exact List.forall_mem_nil _

/-- The children stay when a block is attached. -/
theorem apply (h : t.TellsAllNames) {block : AttributeBlock} (hblock : block.IsLegible) :
    (block.apply t).TellsAllNames := by
  have hnames := h.toTellsNames.apply hblock
  obtain ⟨attrs, info, heq⟩ := block.sameButAttrs_apply t
  rw [heq] at hnames ⊢
  exact ⟨hnames, h.children⟩

end Token.TellsAllNames

/-! ### The source -/

namespace Markdown.Assembly

/-- No token so far has two attributes of one name. -/
structure TellsNames (a : Assembly) : Prop where
  tokens : ∀ t ∈ a.tokens, t.TellsAllNames
  run : ∀ run ∈ a.run, ∀ c ∈ run.children, c.TellsNames
  fence : ∀ fence, a.capture = some (.code fence) → fence.TellsAllNames

/-- A link and an image begin with their address, and the title comes second. -/
theorem tellsNames_targetToken (kind : Kind) {name : String} (hname : IsAttributeName name)
    (target : Target) : (targetToken kind name target).TellsNames := by
  have haddress : ((Token.mark kind .opening).setAttr name target.destination).TellsNames :=
    (Token.TellsNames.of_bare rfl).setAttr hname target.destination
  unfold targetToken
  dsimp only
  split
  · exact haddress
  · exact haddress.setAttr (by decide) target.title

theorem tellsAllNames_listToken (start : Option Nat) (level : Nat) :
    (listToken start level).TellsAllNames := by
  unfold listToken
  split
  · exact .of_bare rfl rfl
  · exact .of_bare rfl rfl
  · exact ⟨(Token.TellsNames.of_bare rfl).setAttr (by decide) _, List.forall_mem_nil _⟩

namespace TellsNames

variable {a : Assembly} (h : a.TellsNames)

include h

theorem push {t : Token} (ht : t.TellsAllNames) : (a.push t).TellsNames :=
  ⟨List.forall_mem_cons.mpr ⟨ht, h.tokens⟩, h.run, h.fence⟩

theorem flush : a.flush.TellsNames := by
  unfold Assembly.flush
  split
  · exact h
  · next run hrun =>
    have hchildren : (Token.inlineRun run.children.reverse a.level).TellsAllNames :=
      ⟨.of_bare rfl, fun c hc => h.run run hrun c (List.mem_reverse.mp hc)⟩
    have hpushed : ({ a with run := none }.push
        (.inlineRun run.children.reverse a.level)).TellsNames :=
      ⟨List.forall_mem_cons.mpr ⟨hchildren, h.tokens⟩, nofun, h.fence⟩
    dsimp only
    split
    · exact ⟨List.forall_mem_cons.mpr ⟨.of_bare rfl rfl, hpushed.tokens⟩, nofun, h.fence⟩
    · exact hpushed

theorem openBlock {t : Token} (ht : t.TellsAllNames) : (a.openBlock t).TellsNames :=
  ⟨List.forall_mem_cons.mpr ⟨ht, h.flush.tokens⟩, h.flush.run, h.flush.fence⟩

theorem closeBlock : a.closeBlock.TellsNames := by
  unfold Assembly.closeBlock
  dsimp only
  split
  · exact h.flush
  · exact ⟨List.forall_mem_cons.mpr ⟨.of_bare rfl rfl, h.flush.tokens⟩, h.flush.run, h.flush.fence⟩

theorem startRun : a.startRun.TellsNames := by
  refine ⟨h.tokens, fun run hrun => ?_, h.fence⟩
  obtain rfl := Option.some.inj hrun
  exact List.forall_mem_nil _

theorem pushInline {t : Token} (ht : t.TellsNames) : (a.pushInline t).TellsNames := by
  have hadd : ∀ children : List Token, (∀ c ∈ children, c.TellsNames) →
      ∀ c ∈ addInline children t, c.TellsNames := by
    intro children hchildren
    unfold addInline
    split
    · obtain ⟨hlast, hbefore⟩ := List.forall_mem_cons.mp hchildren
      split
      · exact List.forall_mem_cons.mpr ⟨⟨hlast.legible, hlast.distinct⟩, hbefore⟩
      · exact List.forall_mem_cons.mpr ⟨ht, hchildren⟩
    · exact List.forall_mem_singleton.mpr ht
  unfold Assembly.pushInline
  split
  · next run hrun =>
    refine ⟨h.tokens, fun run' hrun' => ?_, h.fence⟩
    obtain rfl := Option.some.inj hrun'
    exact hadd run.children (h.run run hrun)
  · refine ⟨List.forall_mem_cons.mpr ⟨.of_bare rfl rfl, h.tokens⟩, fun run hrun => ?_, h.fence⟩
    obtain rfl := Option.some.inj hrun
    exact List.forall_mem_singleton.mpr ht

theorem pushBare {t : Token} (ht : t.attrs = []) : (a.pushInline t).TellsNames :=
  h.pushInline (.of_bare ht)

/-- What an assembly notes beside its tokens is no matter of names. -/
theorem note {b : Assembly} (ht : b.tokens = a.tokens) (hr : b.run = a.run)
    (hc : b.capture = a.capture) : b.TellsNames := ⟨ht ▸ h.tokens, hr ▸ h.run, hc ▸ h.fence⟩

/-- Only the token of a code block is captured. -/
theorem capture {c : Option Capture} (hc : ∀ fence, c = some (.code fence) → fence.TellsAllNames) :
    { a with capture := c }.TellsNames := ⟨h.tokens, h.run, hc⟩

theorem text (s : String) : (a.text s).TellsNames := by
  unfold Assembly.text
  split
  · next fence hfence =>
    refine h.capture fun fence' heq => ?_
    obtain rfl := Capture.code.inj (Option.some.inj heq)
    have hnames := h.fence fence hfence
    exact ⟨⟨hnames.legible, hnames.distinct⟩, hnames.children⟩
  · exact h.capture (by simp)
  · exact h.capture (by simp)
  · exact h.pushBare rfl

theorem endCapture : a.endCapture.TellsNames := by
  have hnone : { a with capture := none }.TellsNames := h.capture (by simp)
  unfold Assembly.endCapture
  split
  · next fence hfence => exact hnone.push (h.fence fence hfence)
  · exact hnone.push (.of_bare rfl rfl)
  · exact ⟨hnone.tokens, hnone.run, hnone.fence⟩
  · exact h

theorem start (tag : Tag) : (a.start tag).TellsNames := by
  have hopen : ∀ {b : Assembly}, b.TellsNames → ∀ (kind : Kind) (level : Nat),
      (b.openBlock (.opening kind level)).TellsNames :=
    fun hb kind level => hb.openBlock (.of_bare rfl rfl)
  cases tag with
  | paragraph | heading _ => exact (hopen h _ _).startRun
  | blockquote | item | definitionList | definitionTerm | definitionDetails => exact hopen h _ _
  | codeBlock info =>
    refine h.flush.capture fun fence heq => ?_
    obtain rfl := Capture.code.inj (Option.some.inj heq)
    exact .of_bare rfl rfl
  | htmlBlock => exact h.flush.capture (by simp)
  | metadataBlock => exact h.capture (by simp)
  | list start => exact h.openBlock (tellsAllNames_listToken start a.level)
  | footnoteDefinition _ => exact h
  | table alignments =>
    have hnote : { a with alignments, inBody := false }.TellsNames := h.note rfl rfl rfl
    exact hopen hnote _ _
  | tableHead =>
    have hnote : { a with inHead := true, column := 0 }.TellsNames := h.note rfl rfl rfl
    exact hopen (hopen hnote _ _) _ _
  | tableRow =>
    have hrow : ∀ {b : Assembly}, b.TellsNames →
        ({ b with column := 0 }.openBlock (.opening .tableRow b.level)).TellsNames := by
      intro b hb
      have hnote : { b with column := 0 }.TellsNames := hb.note rfl rfl rfl
      exact hopen hnote _ _
    have hbody : { a with inBody := true }.TellsNames := h.note rfl rfl rfl
    simp only [Assembly.start]
    split
    · exact hrow h
    · exact hrow (hopen hbody _ _)
  | tableCell =>
    simp only [Assembly.start]
    refine (h.openBlock ?_).startRun
    split
    · exact ⟨(Token.TellsNames.of_bare rfl).setAttr (by decide) _, List.forall_mem_nil _⟩
    · exact .of_bare rfl rfl
  | emphasis | strong | strikethrough | superscript | subscript => exact h.pushBare rfl
  | link target => exact h.pushInline (tellsNames_targetToken .link (by decide) target)
  | image target => exact h.pushInline (tellsNames_targetToken .image (by decide) target)

theorem finishTag (tag : TagEnd) : (a.finishTag tag).TellsNames := by
  cases tag with
  | codeBlock | htmlBlock | metadataBlock => exact h.endCapture
  | footnoteDefinition => exact h
  | tableHead => exact h.closeBlock.closeBlock.note rfl rfl rfl
  | tableCell => exact h.closeBlock.note rfl rfl rfl
  | table =>
    have hbody : { a.closeBlock with inBody := false }.TellsNames := h.closeBlock.note rfl rfl rfl
    simp only [Assembly.finishTag]
    split
    · exact hbody.closeBlock
    · exact h.closeBlock
  | paragraph | heading _ | blockquote | list _ | item | definitionList | definitionTerm
  | definitionDetails | tableRow => exact h.closeBlock
  | emphasis | strong | strikethrough | superscript | subscript | link | image =>
    exact h.pushBare rfl

/-- **What one event keeps.** -/
theorem event (e : Event) : (a.event e).TellsNames := by
  cases e with
  | start tag => exact h.start tag
  | finish tag => exact h.finishTag tag
  | text s | inlineMath s | displayMath s => exact h.text s
  | code _ | inlineHtml _ | softBreak | hardBreak | taskMarker _ => exact h.pushBare rfl
  | html s =>
    simp only [Assembly.event]
    split
    · exact h.capture (by simp)
    · exact h.pushBare rfl
  | footnoteReference _ => exact h
  | rule => exact h.flush.push (.of_bare rfl rfl)

theorem closeAll (fuel : Nat) : (closeAll fuel a).TellsNames := by
  induction fuel generalizing a with
  | zero => exact h
  | succ fuel ih =>
    rw [Assembly.closeAll]
    split
    · exact h
    · exact ih h.closeBlock

end TellsNames

end Markdown.Assembly

/-- No token of the source has two attributes of one name, whatever the events are. -/
theorem Markdown.tellsAllNames_assemble (events : List Event) :
    ∀ t ∈ (assemble events).1, t.TellsAllNames := by
  have hevents : (events.foldl Assembly.event {}).TellsNames :=
    List.foldlRecOn events Assembly.event ⟨List.forall_mem_nil _, nofun, nofun⟩
      fun a ha e _ => ha.event e
  intro t ht
  exact (hevents.flush.closeAll _).tokens t (List.mem_reverse.mp ht)

/-! ### The rules -/

/-- Neither an attribute block takes the property away nor other content. -/
theorem isKeptInRuns_tellsNames (d : Delimiters) : IsKeptInRuns d Token.TellsNames where
  withContent _ h content := h.withContent content
  apply hstrip _ h := h.apply (AttributeBlock.isLegible_of_stripLeading? hstrip)

namespace Plugin

variable {ts : List Token}

/-- A run that is stripped keeps its attributes, and so do its tokens. -/
theorem Attributes.tellsAllNames_strippedRun {d : Delimiters} {before : List Token} {t : Token}
    (h : t.TellsAllNames) : (strippedRun d before t).TellsAllNames := by
  have hattrs : (strippedRun d before t).attrs = t.attrs := by
    unfold strippedRun
    dsimp only
    split
    · split <;> rfl
    · rfl
  refine ⟨⟨?_, ?_⟩, forall_children_strippedRun (isKeptInRuns_tellsNames d) h.children⟩
  · rw [Token.HasLegibleNames, hattrs]
    exact h.legible
  · rw [hattrs]
    exact h.distinct

theorem Attributes.tellsAllNames_revise (d : Delimiters) (h : ∀ t ∈ ts, t.TellsAllNames) :
    ∀ t ∈ revise d ts, t.TellsAllNames := by
  have hstripped := forall₂_stripped d (R := fun t u => t.TellsAllNames → u.TellsAllNames)
    (fun _ => id) ts (fun _ _ _ _ => tellsAllNames_strippedRun) []
  have hattachment : IsAttachment d fun t u =>
      SameShape t u ∧ (t.TellsAllNames → u.TellsAllNames) :=
    { refl := fun t => ⟨⟨rfl, rfl, rfl⟩, id⟩
      trans := fun h h' => ⟨h.1.trans h'.1, h'.2 ∘ h.2⟩
      sameShape := fun h => h.1
      apply := fun {_ _ block} hblock t => ⟨(block.sameButAttrs_apply t).sameShape,
        fun ht => ht.apply (AttributeBlock.isLegible_of_stripTrailing? hblock)⟩
      withInfo := fun {_ u} info h => ⟨h.1, fun ht =>
        ⟨⟨(h.2 ht).legible, (h.2 ht).distinct⟩, (h.2 ht).children⟩⟩ }
  exact forall_mem_of_forall₂ (forall₂_revise_of_isAttachment d hattachment ts) (fun h => h.2)
    (forall_mem_of_forall₂ hstripped (fun h => h) h)

theorem Anchors.tellsAllNames_revise (h : ∀ t ∈ ts, t.TellsAllNames) :
    ∀ t ∈ revise ts, t.TellsAllNames := by
  have hassigned := forall₂_assign_of (R := fun t u => t.TellsAllNames → u.TellsAllNames)
    (fun _ => id) (fun _ id ht => ⟨ht.toTellsNames.setAttr (by decide) id, ht.children⟩) ts
  exact forall_mem_of_forall₂ (hassigned _) (fun h => h) h

/-- A definition has one attribute, and its children are tokens of a run. -/
theorem Terms.tellsAllNames_extract (h : ∀ t ∈ ts, t.TellsAllNames) :
    ∀ t ∈ extract ts, t.TellsAllNames := by
  intro t ht
  rcases mem_extract ht with ht | ⟨o, run, c, hrow, hd⟩
  · exact h t ht
  · have hchildren := forall_children_definition (fun _ => Token.TellsNames.withContent) hd
      (h run (hrow.subset (by simp))).children
    obtain ⟨-, -, -, first, others, key, text, -, -, -, rfl⟩ := definition?_eq_some_iff.mp hd
    have hkey : ((Token.leaf definitionKind o.level).setAttr "key"
        (String.ofList key)).TellsNames := (Token.TellsNames.of_bare rfl).setAttr (by decide) _
    exact ⟨⟨hkey.legible, hkey.distinct⟩, hchildren⟩

end Plugin

/-- Runs are rewritten with tokens that have distinct names. -/
theorem tellsAllNames_mapRuns {f : List Token → List Token}
    (hf : ∀ children, (∀ c ∈ children, c.TellsNames) → ∀ c ∈ f children, c.TellsNames)
    {ts : List Token} (h : ∀ t ∈ ts, t.TellsAllNames) : ∀ t ∈ mapRuns f ts, t.TellsAllNames := by
  refine List.forall_mem_map.mpr fun t ht => ?_
  split
  · exact ⟨⟨(h t ht).legible, (h t ht).distinct⟩, hf t.children (h t ht).children⟩
  · exact h t ht

theorem tellsNames_markReferences {children : List Token} (h : ∀ c ∈ children, c.TellsNames) :
    ∀ c ∈ (markReferences children).1, c.TellsNames := by
  intro c hc
  rcases mem_markReferences hc with hc | ⟨key, rfl⟩ | rfl
  · exact h c hc
  · exact (Token.TellsNames.of_bare rfl).setAttr (by decide) key
  · exact .of_bare rfl

theorem tellsNames_linkChildren {l : Linkify} {ts : List Token} (h : ∀ t ∈ ts, t.TellsNames) :
    ∀ t ∈ l.linkChildren 0 ts, t.TellsNames := by
  intro t ht
  rcases Linkify.mem_linkChildren ht with ht | ⟨segment, ht⟩
  · exact h t ht
  rcases Linkify.mem_segmentTokens ht with ⟨s, rfl⟩ | ⟨s, rfl⟩ | rfl
  · exact .of_bare rfl
  · have hlink := (Token.TellsNames.of_bare (t := .mark .link .opening) rfl).setAttr
      (by decide : Html.IsAttributeName "href") (Linkify.linkTarget s)
    exact ⟨hlink.legible, hlink.distinct⟩
  · exact .of_bare rfl

/-! ### The document -/

/-- **No token of a parsed document has two attributes of one name.** -/
theorem Options.tellsAllNames_parsed {o : Options} (ho : ∀ p ∈ o.plugins, p ∈ Plugin.defaults)
    (events : List Event) : ∀ t ∈ (o.engine.parseEvents events {}).1, t.TellsAllNames :=
  Options.engine_parseEvents_preserves ho (I := fun ts => ∀ t ∈ ts, t.TellsAllNames)
    (Plugin.Attributes.tellsAllNames_revise o.delimiters) Plugin.Anchors.tellsAllNames_revise
    (fun h => tellsAllNames_mapRuns (fun _ => tellsNames_markReferences)
      (Plugin.Terms.tellsAllNames_extract h))
    (tellsAllNames_mapRuns fun _ => tellsNames_linkChildren)
    (Markdown.tellsAllNames_assemble events)

end Folio
