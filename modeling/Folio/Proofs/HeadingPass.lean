import Folio.Proofs.HeadingShape
import Folio.Proofs.Pages

/-!
# What the plugins leave of the headings

The built-in plugins attach attributes to a heading and rewrite its run, and take out paragraphs
and definitions of terms.  So a heading stays three tokens, and the title can be taken out as such.

## Main definitions

* `IsKeptByAttributes` — properties that no attribute takes away.
* `CoreRule.KeepsHeadings` — the rule leaves the headings what they are.

## Main results

* `headed_engine_parseEvents` — **the headings of a document after all rules.**
* `headed_ids_engine_parseEvents` — the anchor plugin gives all of them ids.
* `Headed.extractTitle_eq` — **what is taken out with the title are three tokens.**
-/

namespace Folio

open Markdown (Event ProperlyNested assemble)
open Plugin.Terms (definitionKind)

theorem extractTitle_of_none {ts : List Token} (h : ts.find? Token.beginsTitle = none) :
    extractTitle ts = { tokens := ts } := by
  have hstart : ts.findIdx? Token.beginsTitle = none :=
    List.findIdx?_eq_none_iff.mpr fun t ht => by simpa using List.find?_eq_none.mp h t ht
  rw [extractTitle, titleRange?, hstart]
  rfl

namespace Headed

variable {P Q : Token → Prop} {ts us : List Token}

/-- Tokens can be changed one by one if they keep their places. -/
theorem of_forall₂ (h : List.Forall₂ (fun t t' => SameShape t t' ∧
    (t.headingLevel?.isSome = true → P t → Q t')) ts us) (hts : Headed P ts) : Headed Q us := by
  induction hts generalizing us with
  | nil =>
    cases h
    exact .nil
  | other ht _ ih =>
    cases h with
    | cons h hrest => exact .other (h.1.1 ▸ ht) (ih hrest)
  | @heading o run c ts hparts ho _ ih =>
    cases h with
    | cons h hrest =>
    cases hrest with
    | cons hrun hrest =>
    cases hrest with
    | cons hc hrest =>
    obtain ⟨⟨hk, hn, hh⟩, hQ⟩ := h
    obtain ⟨hrunKind, hrunNesting, -⟩ := hrun.1
    obtain ⟨hcKind, hcNesting, hcHidden⟩ := hc.1
    have hclosed := hcKind.trans (hparts.closed.trans hk.symm)
    refine .heading ⟨hk ▸ hparts.kind, hn.trans hparts.opening, hh.trans hparts.visible,
      hrunKind.trans hparts.inline, hrunNesting.trans hparts.single,
      hcNesting.trans hparts.closing, hclosed, hcHidden.trans hparts.closed_visible⟩ ?_ (ih hrest)
    exact hQ hparts.isSome_headingLevel? ho

/-- Runs can be rewritten. -/
theorem mapRuns (f : List Token → List Token) (h : Headed P ts) :
    Headed P (Folio.mapRuns f ts) := by
  refine h.of_forall₂ (List.forall₂_map_right_iff.mpr (List.forall₂_same.mpr fun t _ => ?_))
  split
  · next hk =>
    have hk : t.kind = .inline := by simpa using hk
    refine ⟨⟨rfl, rfl, rfl⟩, fun hl => ?_⟩
    simp [Token.headingLevel?, hk] at hl
  · exact ⟨⟨rfl, rfl, rfl⟩, fun _ => id⟩

/-- **What is taken out with the title are three tokens**, and all of them stood outside of all
blocks. -/
theorem extractTitle_eq {o : Token} (h : Headed P ts) (ho : ts.find? Token.beginsTitle = some o) :
    ∃ pre run c rest, ts = pre ++ o :: run :: c :: rest ∧ o.kind = .heading 1 ∧
      HeadingParts o run c ∧ Headed P pre ∧ Headed P rest ∧
        extractTitle ts = ⟨run.content, pre ++ rest, run.children⟩ := by
  obtain ⟨htitle, pre, tail, rfl, hpre⟩ := List.find?_eq_some_iff_append.mp ho
  have hlevel : o.headingLevel? = some 1 := by
    simp only [Token.beginsTitle, Bool.and_eq_true, beq_iff_eq] at htitle
    exact htitle.2
  obtain ⟨hk, hn⟩ := Token.kind_isHeading_of_headingLevel? (t := o) (by rw [hlevel]; rfl)
  obtain ⟨run, c, rest, rfl, hparts, -, hpre', hrest⟩ := h.split rfl hk hn
  have hkind : o.kind = .heading 1 := by
    obtain ⟨n, hkind⟩ := hparts.exists_kind
    rw [Token.headingLevel?, hkind, hn] at hlevel
    rw [hkind, Option.some.inj hlevel]
  have hstart : (pre ++ o :: run :: c :: rest).findIdx? Token.beginsTitle = some pre.length := by
    have hnone : pre.findIdx? Token.beginsTitle = none :=
      List.findIdx?_eq_none_iff.mpr fun t ht => by simpa using hpre t ht
    rw [List.findIdx?_append, hnone, List.findIdx?_cons, htitle]
    simp
  have hstop : findClose? (pre ++ o :: run :: c :: rest) pre.length
      = some (pre.length + 1 + [run].length) :=
    findClose?_eq hn hparts.closing hparts.closed (.single hparts.single .nil) pre rest
  have hrange : titleRange? (pre ++ o :: run :: c :: rest)
      = some (pre.length, pre.length + 2) := by
    rw [titleRange?, hstart]
    simp only [Option.bind_eq_bind, Option.bind_some, hstop]
    rfl
  have hinside : ((pre ++ o :: run :: c :: rest).take (pre.length + 2)).drop pre.length
      = [o, run] := by
    rw [List.take_length_add_append, List.drop_left]
    rfl
  have hdrop : (pre ++ o :: run :: c :: rest).drop (pre.length + 2 + 1) = rest := by
    rw [Nat.add_assoc, List.drop_length_add_append]
    rfl
  have hrun : [o, run].find? (fun t => t.kind == .inline) = some run := by
    rw [List.find?_cons_of_neg (by simp [hkind]), List.find?_cons_of_pos (by simp [hparts.inline])]
  refine ⟨pre, run, c, rest, rfl, hkind, hparts, hpre', hrest, ?_⟩
  rw [extractTitle, hrange]
  dsimp only
  rw [hinside, hrun, hdrop, List.take_left]
  rfl

/-- What is left of a document without its title. -/
theorem tokens_extractTitle (h : Headed P ts) : Headed P (extractTitle ts).tokens := by
  cases ho : ts.find? Token.beginsTitle with
  | none => rwa [extractTitle_of_none ho]
  | some o =>
    obtain ⟨pre, run, c, rest, -, -, -, hpre, hrest, heq⟩ := h.extractTitle_eq ho
    rw [heq]
    exact hpre.append hrest

/-- What the title takes out is one heading at most. -/
theorem sublist_extractTitle (h : Headed P ts) : (extractTitle ts).tokens.Sublist ts := by
  cases hfind : ts.find? Token.beginsTitle with
  | none => rw [extractTitle_of_none hfind]
  | some o =>
    obtain ⟨pre, run, c, rest, rfl, -, -, -, -, heq⟩ := h.extractTitle_eq hfind
    rw [heq]
    exact (List.Sublist.refl pre).append ((((List.Sublist.refl rest).cons c).cons run).cons o)

/-- The title takes no definitions out. -/
theorem mem_extractTitle_of_definition (h : Headed P ts) {t : Token} (ht : t ∈ ts)
    (hk : t.kind = definitionKind) : t ∈ (extractTitle ts).tokens := by
  cases hfind : ts.find? Token.beginsTitle with
  | none => rwa [extractTitle_of_none hfind]
  | some o =>
    obtain ⟨pre, run, c, rest, rfl, hkind, hparts, -, -, heq⟩ := h.extractTitle_eq hfind
    have ho : t ≠ o := by rintro rfl; rw [hk] at hkind; cases hkind
    have hrun : t ≠ run := by rintro rfl; cases hk.symm.trans hparts.inline
    have hc : t ≠ c := by rintro rfl; cases hk.symm.trans (hparts.closed.trans hkind)
    rw [heq]
    simpa [ho, hrun, hc] using ht

end Headed

/-! ### Attributes -/

theorem Attributes.get?_set (attrs : Attributes) (name value : String) :
    (attrs.set name value).get? name = some value := by
  induction attrs with
  | nil => simp [set, get?]
  | cons p attrs ih =>
    obtain ⟨n, v⟩ := p
    rw [set]
    split
    · next h =>
      obtain rfl : n = name := by simpa using h
      simp [get?]
    · next h =>
      have hne : (name == n) = false := by simpa using Ne.symm (by simpa using h)
      rw [get?, List.lookup_cons, hne]
      exact ih

theorem Token.attr?_setAttr (t : Token) (name value : String) :
    (t.setAttr name value).attr? name = some value :=
  Attributes.get?_set t.attrs name value

/-- No attribute that is attached to a token takes the property away from it. -/
structure IsKeptByAttributes (d : Delimiters) (P : Token → Prop) : Prop where
  bare : ∀ t, t.attrs = [] → P t
  apply : ∀ {text rest block}, d.stripTrailing? text = some (rest, block) →
    ∀ t, P t → P (block.apply t)
  withInfo : ∀ t info, P t → P { t with info }
  withId : ∀ t id, P t → P (t.setAttr "id" id)

namespace Plugin

variable {P : Token → Prop} {ts : List Token}

namespace Attributes

theorem headed_stripped (d : Delimiters) (h : Headed P ts) : Headed P (stripped d [] ts) :=
  h.of_forall₂ (forall₂_stripped d (fun _ => ⟨⟨rfl, rfl, rfl⟩, fun _ => id⟩) ts
    (fun t _ hk _ => ⟨sameShape_strippedRun, fun hl => by simp [Token.headingLevel?, hk] at hl⟩) [])

/-- Headings get the attributes of the blocks behind them. -/
theorem headed_revise {d : Delimiters} (hP : IsKeptByAttributes d P) (h : Headed P ts) :
    Headed P (revise d ts) := by
  have hR : IsAttachment d fun t t' => SameShape t t' ∧ (P t → P t') :=
    { refl := fun t => ⟨⟨rfl, rfl, rfl⟩, id⟩
      trans := fun h h' => ⟨h.1.trans h'.1, h'.2 ∘ h.2⟩
      sameShape := fun h => h.1
      apply := fun {_ _ block} hblock t =>
        ⟨(block.sameButAttrs_apply t).sameShape, hP.apply hblock t⟩
      withInfo := fun {_ u} info h => ⟨h.1, fun ht => hP.withInfo u info (h.2 ht)⟩ }
  have hrevise := forall₂_revise_of_isAttachment d hR ts
  exact (headed_stripped d h).of_forall₂ (hrevise.imp fun _ _ h => ⟨h.1, fun _ => h.2⟩)

end Attributes

namespace Anchors

/-- Every heading has an id when the ids have been assigned. -/
theorem headed_assign (hid : ∀ t id, P t → P (t.setAttr "id" id)) (h : Headed P ts) :
    ∀ slugs, Headed (fun o => P o ∧ (o.attr? "id").isSome = true) (assign slugs ts) := by
  have hforall : ∀ (ts : List Token) (slugs : SlugCounter),
      List.Forall₂ (fun t t' => SameShape t t' ∧ (t.headingLevel?.isSome = true → P t →
        P t' ∧ (t'.attr? "id").isSome = true)) ts (assign slugs ts) := by
    intro ts
    induction ts with
    | nil => exact fun _ => .nil
    | cons t ts ih =>
      intro slugs
      rw [assign]
      split
      · refine .cons ⟨⟨rfl, rfl, rfl⟩, fun _ ht => ⟨hid t _ ht, ?_⟩⟩ (ih _)
        rw [Token.attr?_setAttr]
        rfl
      · next hc =>
        refine .cons ⟨⟨rfl, rfl, rfl⟩, fun hl ht => ⟨ht, ?_⟩⟩ (ih slugs)
        -- A heading that gets no id here has one already.
        simpa [hl, Option.isSome_iff_ne_none] using hc
  exact fun slugs => h.of_forall₂ (hforall ts slugs)

theorem headed_revise (hid : ∀ t id, P t → P (t.setAttr "id" id)) (h : Headed P ts) :
    Headed (fun o => P o ∧ (o.attr? "id").isSome = true) (revise ts) :=
  headed_assign hid h _

end Anchors

namespace Terms

theorem extract_cons_of_ne {t : Token} (ht : t.kind ≠ .paragraph) (ts : List Token) :
    extract (t :: ts) = t :: extract ts := by
  match ts with
  | [] | [_] => rw [extract_of_short (by simp), extract_of_short (by simp)]
  | b :: c :: rest =>
    refine extract_of_none ?_ rest
    rw [definition?, if_neg]
    simp [ht]

/-- No part of a heading is taken for a part of a definition: the run of a heading stands alone,
and a definition ends with a token that closes a block. -/
theorem headed_behind_definition {a b c d : Token} (hd : definition? a b c = some d)
    (h : Headed P (b :: c :: ts)) : Headed P ts := by
  obtain ⟨-, -, hc, -, -, -, -⟩ := definition?_eq_some hd
  cases h with
  | heading hparts _ _ =>
    rw [hparts.single] at hc
    cases hc
  | other _ h =>
    cases h with
    | heading hparts _ _ =>
      rw [hparts.opening] at hc
      cases hc
    | other _ h => exact h

theorem headed_extract (h : Headed P ts) : Headed P (extract ts) := by
  induction hlength : ts.length using Nat.strong_induction_on generalizing ts with
  | h n ih =>
  cases h with
  | nil => exact .nil
  | @heading o run c rest hparts ho hrest =>
    have hne : ∀ k : Kind, k.isHeading = true → k ≠ .paragraph := by
      rintro k hk rfl
      cases hk
    have hrun : run.kind ≠ .paragraph := by simp [hparts.inline]
    have hc : c.kind ≠ .paragraph := hparts.closed ▸ hne _ hparts.kind
    rw [extract_cons_of_ne (hne _ hparts.kind), extract_cons_of_ne hrun, extract_cons_of_ne hc]
    exact .heading hparts ho (ih rest.length (by simp at hlength; omega) hrest rfl)
  | @other a ts ha hts =>
    have htail := ih ts.length (by simp at hlength; omega) hts rfl
    match ts with
    | [] | [_] =>
      rw [extract_of_short (by simp)]
      exact .other ha hts
    | b :: c :: rest =>
      cases hd : definition? a b c with
      | none =>
        rw [extract_of_none hd]
        exact .other ha htail
      | some d =>
        obtain ⟨-, -, -, -, hk, -, -⟩ := definition?_eq_some hd
        rw [extract_of_some hd]
        refine .other (by rw [hk]; rfl) (ih rest.length ?_ (headed_behind_definition hd hts) rfl)
        simp at hlength
        omega

theorem headed_revise (h : Headed P ts) (s : Session) : Headed P (revise ts s).1 := by
  rw [revise_fst]
  exact (headed_extract h).mapRuns _

end Terms

end Plugin

/-! ### The rules -/

/-- The rule leaves the headings what they are, and a property of theirs that no id takes away. -/
def CoreRule.KeepsHeadings (rule : CoreRule) : Prop :=
  ∀ {P : Token → Prop}, (∀ t id, P t → P (t.setAttr "id" id)) →
    ∀ {ts : List Token} (s : Session), Headed P ts → Headed P (rule.apply ts s).1

theorem Plugin.keepsHeadings_of_mem_defaults {p : Plugin} (hp : p ∈ defaults)
    (options : PluginOptions) : ∀ rule ∈ p.coreRules options, rule.KeepsHeadings := by
  intro rule hrule P hid ts s h
  rcases mem_defaults.mp hp with rfl | rfl | rfl <;> obtain rfl := List.mem_singleton.mp hrule
  · exact (Anchors.headed_revise hid h).imp fun _ ho => ho.1
  · exact Terms.headed_revise h s
  · exact h

section Rules

variable {P : Token → Prop} {rules : List CoreRule}

theorem headed_applyRules (hrules : ∀ rule ∈ rules, rule.KeepsHeadings)
    (hid : ∀ t id, P t → P (t.setAttr "id" id)) : ∀ {ts : List Token} (s : Session), Headed P ts →
      Headed P (Engine.applyRules rules ts s).1 := by
  induction rules with
  | nil => exact fun _ h => h
  | cons rule rules ih =>
    intro ts s h
    exact ih (fun r hr => hrules r (List.mem_cons_of_mem rule hr)) _
      (hrules rule List.mem_cons_self hid s h)

/-- **If the anchor rule is one of the rules, all headings have ids in the end.** -/
theorem headed_ids_applyRules (hrules : ∀ rule ∈ rules, rule.KeepsHeadings)
    (hanchors : CoreRule.ofTokens "anchors" Plugin.Anchors.revise ∈ rules)
    (hid : ∀ t id, P t → P (t.setAttr "id" id)) {ts : List Token} (s : Session)
    (h : Headed P ts) :
    Headed (fun o => P o ∧ (o.attr? "id").isSome = true) (Engine.applyRules rules ts s).1 := by
  obtain ⟨before, after, rfl⟩ := List.append_of_mem hanchors
  have hbefore := headed_applyRules
    (fun rule hrule => hrules rule (List.mem_append_left _ hrule)) hid s h
  have hids : ∀ (t : Token) (id : String), P t ∧ (t.attr? "id").isSome = true →
      P (t.setAttr "id" id) ∧ ((t.setAttr "id" id).attr? "id").isSome = true :=
    fun t id ht => ⟨hid t id ht.1, by rw [Token.attr?_setAttr]; rfl⟩
  have hassigned := Plugin.Anchors.headed_revise hid hbefore
  have hafter := headed_applyRules (P := fun o => P o ∧ (o.attr? "id").isSome = true)
    (fun rule hrule => hrules rule (List.mem_append_right _ (List.mem_cons_of_mem _ hrule))) hids
    (Engine.applyRules before ts s).2 hassigned
  unfold Engine.applyRules at hafter ⊢
  rw [List.foldl_append, List.foldl_cons]
  exact hafter

end Rules

section Parsing

variable {o : Options} {events : List Event} {P : Token → Prop}

theorem Options.keepsHeadings (hplugins : ∀ p ∈ o.plugins, p ∈ Plugin.defaults) :
    ∀ rule ∈ o.plugins.flatMap fun plugin => plugin.coreRules o.forPlugins, rule.KeepsHeadings := by
  intro rule hrule
  obtain ⟨p, hp, hrule⟩ := List.mem_flatMap.mp hrule
  exact Plugin.keepsHeadings_of_mem_defaults (hplugins p hp) o.forPlugins rule hrule

/-- The headings that the rules of the plugins find. -/
theorem headed_attributes (hP : IsKeptByAttributes o.delimiters P) (h : ProperlyNested events) :
    Headed P (Plugin.Attributes.revise o.delimiters (assemble events).1) :=
  Plugin.Attributes.headed_revise hP ((Markdown.headed_assemble h).imp hP.bare)

/-- What the rules leave, with links in the text or without. -/
theorem headed_links (e : Engine) {rules : List CoreRule} (hrules : e.coreRules = rules)
    (h : Headed P (Engine.applyRules rules (assemble events).1
      { env := (assemble events).2.foldl Engine.storeFrontMatter {} }).1) :
    Headed P (e.parseEvents events {}).1 := by
  subst hrules
  unfold Engine.parseEvents
  dsimp only
  split
  · exact h.mapRuns _
  · exact h

/-- **The headings of a document after all rules.** -/
theorem headed_engine_parseEvents (hplugins : ∀ p ∈ o.plugins, p ∈ Plugin.defaults)
    (hP : IsKeptByAttributes o.delimiters P) (h : ProperlyNested events) :
    Headed P (o.engine.parseEvents events {}).1 :=
  headed_links o.engine o.coreRules_engine
    (headed_applyRules (Options.keepsHeadings hplugins) hP.withId _ (headed_attributes hP h))

/-- **The anchor plugin gives all headings ids.** -/
theorem headed_ids_engine_parseEvents (hplugins : ∀ p ∈ o.plugins, p ∈ Plugin.defaults)
    (hanchors : Plugin.anchors ∈ o.plugins) (hP : IsKeptByAttributes o.delimiters P)
    (h : ProperlyNested events) :
    Headed (fun o => P o ∧ (o.attr? "id").isSome = true) (o.engine.parseEvents events {}).1 := by
  have hrule : CoreRule.ofTokens "anchors" Plugin.Anchors.revise
      ∈ o.plugins.flatMap fun plugin => plugin.coreRules o.forPlugins :=
    List.mem_flatMap.mpr ⟨_, hanchors, List.mem_singleton.mpr rfl⟩
  exact headed_links o.engine o.coreRules_engine
    (headed_ids_applyRules (Options.keepsHeadings hplugins) hrule hP.withId _
      (headed_attributes hP h))

end Parsing

end Folio
