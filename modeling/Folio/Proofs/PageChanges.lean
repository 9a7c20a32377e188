import Folio.Proofs.AttributePass
import Folio.Proofs.PageContent

/-!
# Changes of a page

What revises the tokens of a page changes the attributes of some tokens, edits the texts of its
runs, rewrites the runs one by one, or takes tokens off that stand alone.  None of this takes the
balance of the page away.

## Main definitions

* `runs` — the runs of a list of tokens.
* `mapRuns` — the content of every run is rewritten.

## Main results

* `InlineContent.of_editsTexts`, `PageContent.of_forall₂`, `PageContent.mapRuns`,
  `PageContent.filter` — **what remains is still the content of a page.**
-/

namespace Folio

open Plugin.Terms (referenceKind)

/-! ### The text of a run -/

theorem plainText_append (xs ys : List Token) :
    plainText (xs ++ ys) = plainText xs ++ plainText ys := by
  induction xs with
  | nil => simp
  | cons t ts ih => simp [ih, String.append_assoc]

theorem Token.plainText_eq (t : Token) : t.plainText = match t.kind with
    | .text | .codeInline => t.content
    | .softBreak | .hardBreak => " "
    | _ => Folio.plainText t.children := by
  obtain ⟨kind, nesting, level, attrs, content, info, children, block, hidden⟩ := t
  cases kind <;> rw [Token.plainText] <;> first | rfl | nofun

theorem Token.plainText_text {t : Token} (hk : t.kind = .text) : t.plainText = t.content := by
  rw [plainText_eq, hk]

/-- The ends of a link are nothing to read. -/
theorem Token.plainText_link {t : Token} (hk : t.kind = .link ∨ t.kind = referenceKind)
    (hc : t.children = []) : t.plainText = "" := by
  rw [plainText_eq, hc]
  rcases hk with hk | hk <;> rw [hk] <;> rfl

/-! ### The content of a run -/

theorem InlineContent.append {xs ys : List Token} (hx : InlineContent xs)
    (hy : InlineContent ys) : InlineContent (xs ++ ys) := by
  refine ⟨?_, List.forall_mem_append.mpr ⟨hx.parts, hy.parts⟩⟩
  rw [brackets, bracketsBy_append]
  exact hx.balanced.append hy.balanced

/-- Only tokens of the kinds that come in pairs open or close anything. -/
theorem Token.IsInlinePart.single {t : Token} (h : t.IsInlinePart)
    (hpair : t.kind.isInlinePair = false) (href : t.kind ≠ referenceKind) :
    t.nesting = .single := by
  by_contra hn
  rcases h.pair hn with hk | hk
  · rw [hpair] at hk
    cases hk
  · exact href hk

theorem Token.IsInlinePart.single_of_text {t : Token} (h : t.IsInlinePart) (hk : t.kind = .text) :
    t.nesting = .single :=
  h.single (hk ▸ rfl) (by rw [hk]; nofun)

theorem Token.IsInlinePart.single_of_code {t : Token} (h : t.IsInlinePart)
    (hk : t.kind = .codeInline) : t.nesting = .single :=
  h.single (hk ▸ rfl) (by rw [hk]; nofun)

theorem Edited.isInlinePart {t t' : Token} (h : Edited t t') (ht : t.IsInlinePart) :
    t'.IsInlinePart := by
  obtain ⟨attrs, content, info, rfl⟩ := h.eq
  exact ⟨ht.pair, ht.leaf, ht.children⟩

/-- What is edited is still the content of a run. -/
theorem InlineContent.of_editsTexts {xs ys : List Token} (h : EditsTexts xs ys)
    (hx : InlineContent xs) : InlineContent ys := by
  have hparts : ∀ t ∈ ys, t.IsInlinePart := by
    have hparts := hx.parts
    -- The induction is on the edits; the balance of the whole is no hypothesis about a rest.
    clear hx
    induction h with
    | nil => exact List.forall_mem_nil _
    | keep h _ ih =>
      obtain ⟨ht, hparts⟩ := List.forall_mem_cons.mp hparts
      exact List.forall_mem_cons.mpr ⟨h.isInlinePart ht, ih hparts⟩
    | drop _ _ ih => exact ih (List.forall_mem_cons.mp hparts).2
  exact ⟨h.brackets_eq (fun t ht => (hx.parts t ht).single_of_text) ▸ hx.balanced, hparts⟩

/-! ### The tokens of a page -/

/-- A token is a run of inline content. -/
def Token.isRun (t : Token) : Bool := t.kind == .inline

/-- The runs of inline content of a list. -/
def runs (ts : List Token) : List Token := ts.filter Token.isRun

theorem bracketsBy_congr {κ : Type} {key : Token → κ} {ts ts' : List Token}
    (h : List.Forall₂ (fun t t' => t'.nesting = t.nesting ∧ key t' = key t) ts ts') :
    bracketsBy key ts' = bracketsBy key ts := by
  induction h with
  | nil => rfl
  | cons h _ ih =>
    rw [bracketsBy_cons, bracketsBy_cons, ih, Token.bracketBy?, Token.bracketBy?, h.1, h.2]

/-- Tokens that keep their place can be changed one by one. -/
theorem PageContent.of_forall₂ {ts ts' : List Token}
    (h : List.Forall₂ (fun t t' => SameShape t t' ∧ (t.IsPagePart → t'.IsPagePart)) ts ts')
    (hts : PageContent ts) : PageContent ts' := by
  have hbrackets : shownBrackets ts' = shownBrackets ts :=
    bracketsBy_congr (h.imp fun t t' ht => ⟨ht.1.2.1, by rw [Token.shown, ht.1.1, ht.1.2.2]; rfl⟩)
  refine ⟨hbrackets ▸ hts.balanced, ?_⟩
  have hparts := hts.parts
  clear hts hbrackets
  induction h with
  | nil => exact List.forall_mem_nil _
  | @cons t t' ts ts' h _ ih =>
    intro u hu
    rcases List.mem_cons.mp hu with rfl | hu
    · exact h.2 (hparts t List.mem_cons_self)
    · exact ih (fun v hv => hparts v (List.mem_cons_of_mem t hv)) u hu

theorem SameButAttrs.isPagePart {t t' : Token} (h : SameButAttrs t t') (ht : t.IsPagePart) :
    t'.IsPagePart := by
  obtain ⟨attrs, info, rfl⟩ := h
  exact ⟨ht.pair, ht.leaf, ht.children⟩

/-- Attributes are no matter of balance. -/
theorem PageContent.of_sameButAttrs {ts ts' : List Token} (h : List.Forall₂ SameButAttrs ts ts')
    (hts : PageContent ts) : PageContent ts' :=
  hts.of_forall₂ (h.imp fun _ _ h => ⟨h.sameShape, h.isPagePart⟩)

/-- A token of kind `inline` is a run. -/
theorem Token.IsPagePart.single_of_inline {t : Token} (h : t.IsPagePart) (hk : t.kind = .inline) :
    t.nesting = .single := by
  by_contra hn
  have hpair := (h.pair hn).1
  simp [hk, Kind.isBlockPair] at hpair

/-- A run with other content. -/
theorem Token.IsPagePart.of_sameShape {t t' : Token} (ht : t.IsPagePart) (h : SameShape t t')
    (hk : t.kind = .inline) (hc : InlineContent t'.children) : t'.IsPagePart := by
  obtain ⟨hk', hn', -⟩ := h
  have hn := ht.single_of_inline hk
  refine ⟨fun hne => absurd (hn'.trans hn) hne, fun _ => ?_, hc⟩
  rw [hk']
  exact ht.leaf hn

/-- The content of every run is rewritten. -/
def mapRuns (f : List Token → List Token) (ts : List Token) : List Token :=
  ts.map fun t => if t.kind == .inline then { t with children := f t.children } else t

theorem mem_mapRuns_iff {f : List Token → List Token} {ts : List Token} {t : Token}
    (hk : t.kind = .inline) : t ∈ mapRuns f ts ↔ ∃ run ∈ ts, run.kind = .inline ∧
      t = { run with children := f run.children } := by
  rw [mapRuns, List.mem_map]
  constructor
  · rintro ⟨run, hrun, rfl⟩
    split at hk
    · next hcond => exact ⟨run, hrun, by simpa using hcond, by rw [if_pos hcond]⟩
    · next hcond => exact absurd (by simpa using hk) hcond
  · rintro ⟨run, hrun, hkind, rfl⟩
    exact ⟨run, hrun, if_pos (by simpa using hkind)⟩

/-- What the runs have after the change is what the change makes of what they had. -/
theorem exists_run_mapRuns_iff {f : List Token → List Token} {ts : List Token}
    {P : List Token → Prop} : (∃ t ∈ mapRuns f ts, t.kind = .inline ∧ P t.children) ↔
      ∃ t ∈ ts, t.kind = .inline ∧ P (f t.children) := by
  constructor
  · rintro ⟨t, ht, hk, h⟩
    obtain ⟨run, hrun, hkind, rfl⟩ := (mem_mapRuns_iff hk).mp ht
    exact ⟨run, hrun, hkind, h⟩
  · rintro ⟨run, hrun, hkind, h⟩
    have hk : ({ run with children := f run.children } : Token).kind = .inline := hkind
    exact ⟨_, (mem_mapRuns_iff hk).mpr ⟨run, hrun, hkind, rfl⟩, hk, h⟩

theorem mapRuns_mapRuns (f g : List Token → List Token) (ts : List Token) :
    mapRuns g (mapRuns f ts) = mapRuns (fun children => g (f children)) ts := by
  rw [mapRuns, mapRuns, mapRuns, List.map_map]
  refine List.map_congr_left fun t _ => ?_
  rw [Function.comp_apply]
  split <;> rfl

theorem PageContent.mapRuns {f : List Token → List Token}
    (hf : ∀ xs, InlineContent xs → InlineContent (f xs)) {ts : List Token} (h : PageContent ts) :
    PageContent (Folio.mapRuns f ts) := by
  refine h.of_forall₂ (List.forall₂_map_right_iff.mpr (List.forall₂_same.mpr fun t _ => ?_))
  split
  · next hk =>
    have hshape : SameShape t { t with children := f t.children } := ⟨rfl, rfl, rfl⟩
    refine ⟨hshape, fun hpart => hpart.of_sameShape hshape (by simpa using hk) ?_⟩
    exact hf _ hpart.children
  · exact ⟨⟨rfl, rfl, rfl⟩, id⟩

theorem PageContent.append {xs ys : List Token} (hx : PageContent xs) (hy : PageContent ys) :
    PageContent (xs ++ ys) := by
  refine ⟨?_, List.forall_mem_append.mpr ⟨hx.parts, hy.parts⟩⟩
  rw [shownBrackets, bracketsBy_append]
  exact hx.balanced.append hy.balanced

/-- Tokens that stand alone can be taken off. -/
theorem PageContent.filter {p : Token → Bool} {ts : List Token} (h : PageContent ts)
    (hp : ∀ t ∈ ts, p t = false → t.nesting = .single) : PageContent (ts.filter p) := by
  refine ⟨?_, fun t ht => h.parts t (List.mem_of_mem_filter ht)⟩
  rw [shownBrackets, bracketsBy_filter Token.shown hp]
  exact h.balanced

/-- Tokens that stand alone make a page. -/
theorem pageContent_of_single {ts : List Token} (hn : ∀ t ∈ ts, t.nesting = .single)
    (h : ∀ t ∈ ts, t.IsPagePart) : PageContent ts := by
  refine ⟨?_, h⟩
  have hnil : shownBrackets ts = [] :=
    List.filterMap_eq_nil_iff.mpr fun t ht => bracketBy?_single _ (hn t ht)
  rw [hnil]
  exact BracketOf.balanced_nil

end Folio
