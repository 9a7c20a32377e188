import Folio.Plugin.Builtin
import Folio.Proofs.AssemblyBalance
import Folio.Proofs.LinkPass

/-!
# The revisions of a page

Whatever the built-in plugins and the title do to the tokens of a page, it stays a page.  Beside
the attribute plugin they take whole runs out at most: a run that stays keeps the text that it
caches, and its children read as before.

## Main definitions

* `SameReading`, `KeepsReading` — the runs of a list are, in order, some of the runs of another
  list and read as these.
* `CoreRule.IsGentle` — the revisions of the built-in plugins.

## Main results

* `Markdown.pageContent_assemble` — **a well-formed document is assembled to a page.**
* `Plugin.isGentle_of_mem_defaults` — **the rules of the built-in plugins are gentle.**
* `extractTitle_spec` — so is taking off the title.
-/

namespace Folio

open BracketOf (IsBalanced)
open Markdown (Event ProperlyNested assemble)
open Plugin.Terms (markReferences_spec)

/-! ### The page that is read -/

theorem Token.IsInline.isInlinePart {t : Token} (h : t.IsInline) : t.IsInlinePart :=
  ⟨fun hn => .inl (h.pair hn), h.leaf, h.children⟩

theorem Token.IsAssembled.ne_inline {t : Token} (h : t.IsAssembled) (hn : t.nesting ≠ .single) :
    t.kind ≠ .inline := by
  intro hk
  have hpair := h.pair hn
  simp [hk, Kind.isBlockPair] at hpair

/-- **A well-formed document is assembled to a page.** -/
theorem Markdown.pageContent_assemble {events : List Event} (h : ProperlyNested events) :
    PageContent (assemble events).1 := by
  refine ⟨balanced_assemble events, fun t ht => ?_⟩
  have hassembled := isAssembled_of_mem_assemble events t ht
  refine ⟨fun hn => ⟨hassembled.pair hn, hassembled.bare (hassembled.ne_inline hn)⟩,
    fun hn => .inl (hassembled.leaf hn), ?_⟩
  by_cases hk : t.kind = .inline
  · -- The run of a well-formed document is balanced; of other documents it need not be.
    exact ⟨balanced_children_of_properlyNested h t ht hk,
      fun c hc => (hassembled.children hk c hc).isInlinePart⟩
  · rw [hassembled.bare hk]
    exact inlineContent_nil

/-! ### What a run reads -/

/-- The tokens cache the same text, and so read their children. -/
def SameReading (t u : Token) : Prop :=
  t.content = u.content ∧ plainText t.children = plainText u.children

theorem SameReading.refl (t : Token) : SameReading t t := ⟨rfl, rfl⟩

theorem SameReading.trans {t u v : Token} (h : SameReading t u) (h' : SameReading u v) :
    SameReading t v :=
  ⟨h.1.trans h'.1, h.2.trans h'.2⟩

theorem SameButAttrs.sameReading {t t' : Token} (h : SameButAttrs t t') : SameReading t' t := by
  obtain ⟨attrs, info, rfl⟩ := h
  exact ⟨rfl, rfl⟩

/-- The runs of lists whose tokens correspond to each other correspond, too. -/
theorem forall₂_runs {R : Token → Token → Prop} {ts ts' : List Token}
    (h : List.Forall₂ (fun t t' => t'.kind = t.kind ∧ R t' t) ts ts') :
    List.Forall₂ (fun t t' => R t' t) (runs ts) (runs ts') := by
  induction h with
  | nil => exact .nil
  | @cons t t' ts ts' h _ ih =>
    have hrun : t'.isRun = t.isRun := by rw [Token.isRun, h.1, Token.isRun]
    unfold runs at ih ⊢
    rw [List.filter_cons, List.filter_cons, hrun]
    split
    · exact .cons h.2 ih
    · exact ih

/-- The runs of the second list are, in order, some of the runs of the first, and read as these. -/
def KeepsReading (ts ts' : List Token) : Prop :=
  List.SublistForall₂ SameReading (runs ts') (runs ts)

namespace KeepsReading

theorem of_sublist {ts ts' : List Token} (h : (runs ts').Sublist (runs ts)) :
    KeepsReading ts ts' :=
  List.sublistForall₂_iff.mpr ⟨_, forall₂_refl .refl _, h⟩

theorem refl (ts : List Token) : KeepsReading ts ts := of_sublist (List.Sublist.refl _)

theorem trans {xs ys zs : List Token} (h : KeepsReading xs ys) (h' : KeepsReading ys zs) :
    KeepsReading xs zs := by
  have : IsTrans Token SameReading := ⟨fun _ _ _ => SameReading.trans⟩
  unfold KeepsReading at h h' ⊢
  exact IsTrans.trans _ _ _ h' h

/-- Tokens that are changed one by one. -/
theorem of_forall₂ {ts ts' : List Token}
    (h : List.Forall₂ (fun t t' => t'.kind = t.kind ∧ SameReading t' t) ts ts') :
    KeepsReading ts ts' :=
  List.sublistForall₂_iff.mpr ⟨_, (forall₂_runs h).flip, List.Sublist.refl _⟩

theorem of_sameButAttrs {ts ts' : List Token} (h : List.Forall₂ SameButAttrs ts ts') :
    KeepsReading ts ts' :=
  of_forall₂ (h.imp fun _ _ h => ⟨h.sameShape.1, h.sameReading⟩)

theorem mapRuns {f : List Token → List Token}
    (hf : ∀ xs, InlineContent xs → plainText (f xs) = plainText xs) {ts : List Token}
    (h : PageContent ts) : KeepsReading ts (Folio.mapRuns f ts) := by
  refine of_forall₂ (List.forall₂_map_right_iff.mpr (List.forall₂_same.mpr fun t ht => ?_))
  split
  · exact ⟨rfl, rfl, hf _ (h.parts t ht).children⟩
  · exact ⟨rfl, .refl t⟩

end KeepsReading

/-- Links in the text keep what the runs read. -/
theorem Linkify.keepsReading_apply (l : Linkify) {ts : List Token} (h : PageContent ts) :
    KeepsReading ts (l.apply ts) :=
  .mapRuns (fun _ hx => (l.linkChildren_spec hx 0).2) h

/-! ### The rules of the plugins -/

/-- The rule makes a page of a page, keeps what the runs read, and defers nothing. -/
structure CoreRule.IsGentle (rule : CoreRule) : Prop where
  page : ∀ {ts : List Token} (s : Session), PageContent ts → PageContent (rule.apply ts s).1
  reading : ∀ {ts : List Token} (s : Session), PageContent ts →
    KeepsReading ts (rule.apply ts s).1
  deferred : ∀ (ts : List Token) (s : Session), (rule.apply ts s).2.env.deferred = s.env.deferred

namespace Plugin

/-- **The attribute plugin leaves a page.** -/
theorem Attributes.pageContent_revise (d : Delimiters) {ts : List Token} (h : PageContent ts) :
    PageContent (revise d ts) := by
  have hstripped := forall₂_stripped d
    (R := fun t t' => SameShape t t' ∧ (t.IsPagePart → t'.IsPagePart))
    (fun _ => ⟨⟨rfl, rfl, rfl⟩, id⟩) ts fun t _ hk before =>
      ⟨sameShape_strippedRun, fun hpart => hpart.of_sameShape sameShape_strippedRun hk
        (.of_editsTexts (editsTexts_strippedRun d before t) hpart.children)⟩
  exact .of_sameButAttrs (forall₂_revise d ts) (.of_forall₂ (hstripped []) h)

namespace Anchors

/-- What holds of every token and the token with an id holds of the whole list. -/
theorem forall₂_assign_of {R : Token → Token → Prop} (hrefl : ∀ t, R t t)
    (hid : ∀ t id, R t (t.setAttr "id" id)) (ts : List Token) : ∀ slugs,
    List.Forall₂ R ts (assign slugs ts) := by
  induction ts with
  | nil => exact fun _ => .nil
  | cons t ts ih =>
    intro slugs
    rw [assign]
    split
    · exact .cons (hid t _) (ih _)
    · exact .cons (hrefl t) (ih slugs)

theorem forall₂_assign (ts : List Token) (slugs : SlugCounter) :
    List.Forall₂ SameButAttrs ts (assign slugs ts) :=
  forall₂_assign_of .refl (fun t id => AttributeBlock.sameButAttrs_setAttr t "id" id) ts slugs

/-- Headings get ids, and nothing else is changed. -/
theorem isGentle : CoreRule.IsGentle (.ofTokens "anchors" revise) where
  page _ h := h.of_sameButAttrs (forall₂_assign _ _)
  reading _ _ := .of_sameButAttrs (forall₂_assign _ _)
  deferred _ _ := rfl

end Anchors

namespace Terms

theorem env_reportRepeated (keys : List String) : ∀ (seen : List String) (s : Session),
    (reportRepeated seen keys s).env = s.env := by
  induction keys with
  | nil => exact fun _ _ => rfl
  | cons key keys ih =>
    intro seen s
    rw [reportRepeated]
    split
    · exact ih seen _
    · exact ih (key :: seen) s

theorem env_reportUndefined (defined keys : List String) : ∀ s : Session,
    (reportUndefined defined keys s).env = s.env := by
  induction keys with
  | nil => exact fun _ => rfl
  | cons key keys ih =>
    intro s
    refine (ih _).trans ?_
    dsimp only
    split <;> rfl

/-- What is found out about a document is left as it is. -/
theorem env_revise (ts : List Token) (s : Session) : (revise ts s).2.env = s.env := by
  simp only [revise]
  rw [env_reportUndefined, env_reportRepeated]

/-- Definitions are taken out, and references are marked. -/
theorem isGentle : rule.IsGentle where
  page s h := pageContent_revise h s
  reading s h := by
    have hmarked := KeepsReading.mapRuns (f := fun children => (markReferences children).1)
      (fun _ hx => (markReferences_spec hx).2) (pageContent_extract h)
    have hreading := (KeepsReading.of_sublist (sublist_extract _)).trans hmarked
    rwa [← revise_fst _ s] at hreading
  deferred ts s := congrArg Environment.deferred (env_revise ts s)

end Terms

namespace Assets

theorem deferred_collect (ts : List Token) (env : Environment) :
    (collect ts env).deferred = env.deferred := by
  unfold collect
  induction found ts generalizing env with
  | nil => rfl
  | cons asset found ih =>
    refine (ih _).trans ?_
    unfold Environment.addAsset
    split <;> rfl

end Assets

/-- A built-in plugin is one of three. -/
theorem mem_defaults {p : Plugin} : p ∈ defaults ↔ p = anchors ∨ p = terms ∨ p = assets := by
  have hdefaults : defaults = [anchors, terms, assets] := by
    simp [defaults, builtinNames, builtin?]
  simp [hdefaults]

/-- **The rules of the built-in plugins are gentle.** -/
theorem isGentle_of_mem_defaults {p : Plugin} (hp : p ∈ defaults) (options : PluginOptions) :
    ∀ rule ∈ p.coreRules options, rule.IsGentle := by
  rcases mem_defaults.mp hp with rfl | rfl | rfl
  · exact fun rule hrule => List.mem_singleton.mp hrule ▸ Anchors.isGentle
  · exact fun rule hrule => List.mem_singleton.mp hrule ▸ Terms.isGentle
  · intro rule hrule
    obtain rfl := List.mem_singleton.mp hrule
    exact ⟨fun _ h => h, fun _ _ => .refl _, fun ts s => Assets.deferred_collect ts s.env⟩

end Plugin

/-! ### The title -/

theorem beginsTitle_spec {t : Token} (h : t.beginsTitle = true) : t.nesting = .opening := by
  unfold Token.beginsTitle Token.headingLevel? at h
  split at h
  · assumption
  · simp at h

/-- What is found as the title is a heading with its partner. -/
theorem titleRange?_eq_some {ts : List Token} (h : PageContent ts) {start stop : Nat}
    (hrange : titleRange? ts = some (start, stop)) :
    ∃ (pre : List Token) (o : Token) (body : List Token) (c : Token) (rest : List Token),
      ts = pre ++ o :: (body ++ c :: rest) ∧ start = pre.length ∧
        stop = pre.length + 1 + body.length ∧
        IsBalanced (bracketsBy Token.shown (o :: body ++ [c])) := by
  obtain ⟨start', hstart, hrange⟩ := Option.bind_eq_some_iff.mp hrange
  obtain ⟨stop', hstop, hrange⟩ := Option.bind_eq_some_iff.mp hrange
  obtain ⟨rfl, rfl⟩ := Prod.mk.inj (Option.some.inj hrange)
  obtain ⟨hlt, htitle, -⟩ := List.findIdx?_eq_some_iff_getElem.mp hstart
  have ho := beginsTitle_spec htitle
  generalize hget : ts[start'] = o at ho
  obtain ⟨pre, tail, rfl, rfl⟩ :=
    exists_eq_append_of_getElem? (hget ▸ List.getElem?_eq_getElem hlt)
  obtain ⟨body, c, rest, rfl, hc, hk, hbody⟩ := exists_partner Token.shown ho h.balanced
  -- The partner by kind and visibility is the one by kind, which counting finds.
  have hkind : c.kind = o.kind := congrArg Prod.fst hk
  have hnested : Nested body := nested_of_balanced (balanced_of_shown hbody)
  rw [findClose?_eq ho hc hkind hnested] at hstop
  exact ⟨pre, o, body, c, rest, rfl, rfl, (Option.some.inj hstop).symm,
    balanced_pair Token.shown ho hc hk hbody⟩

/-- **What the title leaves is a page**, and the runs that stay are not touched. -/
theorem extractTitle_spec {ts : List Token} (h : PageContent ts) :
    PageContent (extractTitle ts).tokens ∧ KeepsReading ts (extractTitle ts).tokens := by
  unfold extractTitle
  split
  · exact ⟨h, .refl ts⟩
  · next start stop hrange =>
    obtain ⟨pre, o, body, c, rest, rfl, rfl, rfl, hpair⟩ := titleRange?_eq_some h hrange
    have hsplit : pre ++ o :: (body ++ c :: rest) = pre ++ (o :: body ++ [c]) ++ rest := by simp
    have hdrop : (pre ++ o :: (body ++ c :: rest)).drop (pre.length + 1 + body.length + 1)
        = rest := by
      rw [hsplit]
      exact List.drop_left' (by simp; omega)
    dsimp only
    rw [hdrop, List.take_left]
    refine ⟨⟨?_, fun t ht => ?_⟩, .of_sublist ?_⟩
    · have hbalanced := h.balanced
      rw [hsplit, shownBrackets, bracketsBy_append, bracketsBy_append,
        BracketOf.balanced_remove hpair, ← bracketsBy_append] at hbalanced
      exact hbalanced
    · refine h.parts t ?_
      rcases List.mem_append.mp ht with ht | ht <;> simp [ht]
    · refine List.Sublist.filter _ ((List.Sublist.refl pre).append ?_)
      exact ((List.sublist_cons_self c rest).trans (List.sublist_append_right body _)).trans
        (List.sublist_cons_self o _)

end Folio
