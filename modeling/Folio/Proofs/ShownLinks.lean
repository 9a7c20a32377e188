import Folio.Proofs.RecordedFiles

/-!
# Links that are shown

An image is shown with its alternative text, and that is plain text.  So of the tokens of a run
those that stand in an image are not rendered, and all others are, each on its own.  The links of a
page are the links of its tokens that stand in no image.

## Main definitions

* `outsideImages` — the tokens of a run that stand in no image.
* `RunsLinkTo` — the runs of a document show a link to an address.
* `IsSourceTarget` — an address that only a link of the source has.
* `Rendered.LinksTo` — a page links to an address.

## Main results

* `Renderer.mem_inlinesFrom_append_iff` — **the tokens in no image are rendered, and no others.**
* `Options.showsLink_parsed_iff` — **no rule adds a link of the source or takes one away.**
* `Options.linksTo_pageOf_iff` — **the links of a page are those of its tokens that stand in no
  image.**
-/

namespace Folio

open Html (Markup startTags)
open Markdown (Event ProperlyNested)
open Plugin.Terms (definition? definition?_eq_some definitionKind extract markReferences
  referenceClosing referenceKey? referenceOpening)

/-! ### Outside of images -/

/-- The number of images around what stands behind a token. -/
def imagesBehind (depth : Nat) (t : Token) : Nat :=
  if t.kind = .image then
    match t.nesting with
    | .opening => depth + 1
    | .closing => depth - 1
    | .single => depth
  else depth

/-- The tokens that stand in no image and are none, if there are `depth` images around the first. -/
def outsideImages : (depth : Nat) → List Token → List Token
  | _, [] => []
  | depth, t :: ts =>
    (if t.kind ≠ .image ∧ depth = 0 then [t] else []) ++ outsideImages (imagesBehind depth t) ts

/-- What follows these tokens stands in no image. -/
def EndsOutsideImages (ts : List Token) : Prop := ts.foldl imagesBehind 0 = 0

section OutsideImages

variable {t : Token} {ts : List Token} {depth : Nat}

theorem imagesBehind_of_ne (hk : t.kind ≠ .image) (depth : Nat) : imagesBehind depth t = depth :=
  if_neg hk

theorem outsideImages_cons (depth : Nat) (t : Token) (ts : List Token) :
    outsideImages depth (t :: ts) = (if t.kind ≠ .image ∧ depth = 0 then [t] else [])
      ++ outsideImages (imagesBehind depth t) ts := by
  rw [outsideImages]

theorem outsideImages_append (xs ys : List Token) : ∀ depth, outsideImages depth (xs ++ ys)
    = outsideImages depth xs ++ outsideImages (xs.foldl imagesBehind depth) ys := by
  induction xs with
  | nil => exact fun _ => rfl
  | cons x xs ih =>
    intro depth
    rw [List.cons_append, outsideImages_cons, ih, outsideImages_cons, List.foldl_cons,
      List.append_assoc]

theorem mem_of_mem_outsideImages : ∀ {depth : Nat}, t ∈ outsideImages depth ts →
    t ∈ ts ∧ t.kind ≠ .image := by
  induction ts with
  | nil => exact fun h => absurd h List.not_mem_nil
  | cons u ts ih =>
    intro depth h
    rw [outsideImages_cons] at h
    rcases List.mem_append.mp h with h | h
    · split at h
      · next hu =>
        obtain rfl := List.mem_singleton.mp h
        exact ⟨List.mem_cons_self, hu.1⟩
      · cases h
    · exact ⟨List.mem_cons_of_mem u (ih h).1, (ih h).2⟩

theorem imagesBehind_of_single (hn : t.nesting = .single) (depth : Nat) :
    imagesBehind depth t = depth := by
  rw [imagesBehind, hn]
  split <;> rfl

theorem imagesBehind_pair {o c : Token} (ho : o.nesting = .opening) (hc : c.nesting = .closing)
    (hk : c.kind = o.kind) (depth : Nat) : imagesBehind (imagesBehind depth o) c = depth := by
  rw [imagesBehind, imagesBehind, hk, ho, hc]
  split <;> rfl

/-- Nested content leaves as many images open as there were. -/
theorem foldl_imagesBehind_of_nested (h : Nested ts) :
    ∀ depth, ts.foldl imagesBehind depth = depth := by
  induction h with
  | nil => exact fun _ => rfl
  | single hn _ ih =>
    intro depth
    rw [List.foldl_cons, ih, imagesBehind_of_single hn]
  | pair ho hc hk _ _ ihbody ihrest =>
    intro depth
    rw [List.cons_append, List.foldl_cons, List.foldl_append, ihbody, List.foldl_cons,
      imagesBehind_pair ho hc hk, ihrest]

/-- An element is the token that opens it, its content and the other end. -/
theorem outsideImages_pair {o c : Token} {body : List Token} (ho : o.nesting = .opening)
    (hc : c.nesting = .closing) (hk : c.kind = o.kind) (hbody : Nested body) (rest : List Token)
    (depth : Nat) : outsideImages depth (o :: body ++ c :: rest)
      = (if o.kind ≠ .image ∧ depth = 0 then [o] else [])
        ++ (outsideImages (imagesBehind depth o) body
          ++ ((if o.kind ≠ .image ∧ depth = 0 then [c] else []) ++ outsideImages depth rest)) := by
  rw [List.cons_append, outsideImages_cons, outsideImages_append,
    foldl_imagesBehind_of_nested hbody, outsideImages_cons, imagesBehind_pair ho hc hk, hk]
  by_cases himage : o.kind = .image
  · simp [himage]
  · rw [imagesBehind_of_ne himage]

/-- Nothing of the content of an image stands outside of images. -/
theorem outsideImages_succ_of_nested (h : Nested ts) : ∀ depth,
    outsideImages (depth + 1) ts = [] := by
  induction h with
  | nil => exact fun _ => rfl
  | single hn _ ih =>
    intro depth
    rw [outsideImages_cons, imagesBehind_of_single hn, ih]
    simp
  | @pair o c body rest ho hc hk hbody _ ihbody ihrest =>
    intro depth
    obtain ⟨inner, hinner⟩ : ∃ inner, imagesBehind (depth + 1) o = inner + 1 := by
      by_cases himage : o.kind = .image
      · exact ⟨depth + 1, by rw [imagesBehind, if_pos himage, ho]⟩
      · exact ⟨depth, imagesBehind_of_ne himage _⟩
    rw [outsideImages_pair ho hc hk hbody, ihrest, hinner, ihbody]
    simp

/-- Another token in place of one that is no image changes nothing around it. -/
theorem mem_outsideImages_replace_iff {o u : Token} (ho : o.kind ≠ .image) (hu : u.kind ≠ .image)
    (hto : t ≠ o) (htu : t ≠ u) (pre post : List Token) (depth : Nat) :
    t ∈ outsideImages depth (pre ++ u :: post) ↔ t ∈ outsideImages depth (pre ++ o :: post) := by
  have hone : ∀ {v : Token}, v.kind ≠ .image → t ≠ v →
      (t ∈ outsideImages depth (pre ++ v :: post) ↔ t ∈ outsideImages depth pre ∨
        t ∈ outsideImages (pre.foldl imagesBehind depth) post) := by
    intro v hv htv
    rw [outsideImages_append, outsideImages_cons, imagesBehind_of_ne hv, List.mem_append,
      List.mem_append]
    split <;> simp [htv]
  rw [hone hu htu, hone ho hto]

/-- So do several tokens in place of one. -/
theorem outsideImages_append_of_ne {xs : List Token} (hxs : ∀ x ∈ xs, x.kind ≠ .image)
    (ys : List Token) (depth : Nat) :
    outsideImages depth (xs ++ ys) = outsideImages depth xs ++ outsideImages depth ys := by
  have hfold : ∀ xs : List Token, (∀ x ∈ xs, x.kind ≠ .image) →
      xs.foldl imagesBehind depth = depth := by
    intro xs
    induction xs with
    | nil => exact fun _ => rfl
    | cons x xs ih =>
      intro h
      obtain ⟨hx, hxs⟩ := List.forall_mem_cons.mp h
      rw [List.foldl_cons, imagesBehind_of_ne hx, ih hxs]
  rw [outsideImages_append, hfold xs hxs]

end OutsideImages

namespace Renderer

variable {r : Renderer} {m : Markup}

/-- **The tokens in no image are rendered, and no others.**  What an image itself is rendered as is
left out here. -/
theorem mem_inlinesFrom_append_iff (himage : ∀ t alt, m ∉ imageMarkup t alt) {ts : List Token}
    (hts : Nested ts) : ∀ rest, m ∈ r.inlinesFrom 0 (ts ++ rest) ↔
      (∃ c ∈ outsideImages 0 ts, m ∈ r.inlinePiece c) ∨ m ∈ r.inlinesFrom 0 rest := by
  have hpiece : ∀ {t : Token}, t.kind = .image → m ∉ r.inlinePiece t := by
    intro t hk
    rw [inlinePiece, hk]
    dsimp only
    rw [inlineMarkup, hk]
    dsimp only
    split
    · exact List.not_mem_nil
    · exact himage t _
  have hown : ∀ (t : Token) (others : List Token),
      (∃ c ∈ (if t.kind ≠ .image ∧ 0 = 0 then [t] else []) ++ others, m ∈ r.inlinePiece c) ↔
        m ∈ r.inlinePiece t ∨ ∃ c ∈ others, m ∈ r.inlinePiece c := by
    intro t others
    by_cases hk : t.kind = .image
    · simp [hk, hpiece hk]
    · simp [hk]
  have hsplit : ∀ xs ys : List Token, (∃ c ∈ xs ++ ys, m ∈ r.inlinePiece c) ↔
      (∃ c ∈ xs, m ∈ r.inlinePiece c) ∨ ∃ c ∈ ys, m ∈ r.inlinePiece c := by
    intro xs ys
    simp only [List.mem_append, or_and_right, exists_or]
  induction hts with
  | nil => simp [outsideImages]
  | @single t ts hn _ ih =>
    intro rest
    rw [List.cons_append, inlinesFrom_cons _ fun _ => by rw [hn]; exact Nesting.noConfusion,
      List.mem_append, ih, outsideImages_cons, imagesBehind_of_single hn, hown, or_assoc]
  | @pair o c body rest ho hc hk hbody _ ihbody ihrest =>
    intro post
    rw [outsideImages_pair ho hc hk hbody]
    by_cases hi : o.kind = .image
    · have hskip : body ++ c :: (rest ++ post) = (body ++ [c]) ++ (rest ++ post) := by simp
      have hinside : outsideImages (imagesBehind 0 o) body = [] := by
        rw [imagesBehind, if_pos hi, ho]
        exact outsideImages_succ_of_nested hbody 0
      rw [List.cons_append, List.cons_append, List.append_assoc, List.cons_append,
        inlinesFrom_image r hi ho, imageLength_eq ho hc hk hbody, hskip,
        show body.length + 1 = (body ++ [c]).length by simp, inlinesFrom_length, List.mem_append,
        ihrest, hinside]
      simp [hi, himage]
    · rw [List.cons_append, List.cons_append, List.append_assoc, List.cons_append,
        inlinesFrom_cons _ fun h => absurd h hi, List.mem_append, ihbody,
        inlinesFrom_cons _ fun h => absurd (hk ▸ h) hi, List.mem_append, ihrest,
        imagesBehind_of_ne hi, hown, ← hk, hsplit, hown]
      simp only [or_assoc]

theorem mem_inlines_iff (himage : ∀ t alt, m ∉ imageMarkup t alt) {ts : List Token}
    (hts : Nested ts) :
    m ∈ r.inlinesFrom 0 ts ↔ ∃ c ∈ outsideImages 0 ts, m ∈ r.inlinePiece c := by
  have h := mem_inlinesFrom_append_iff (r := r) himage hts []
  rwa [List.append_nil, inlinesFrom_nil, or_iff_left List.not_mem_nil] at h

end Renderer

/-! ### What the rules leave of a link -/

/-- A token in the run shows the link: it begins a link to the address, and stands in no image. -/
def Token.ShowsLink (t : Token) (href : String) : Prop :=
  ∃ c ∈ outsideImages 0 t.children, c.BeginsLink href

/-- A run of the document shows a link to the address. -/
def RunsLinkTo (ts : List Token) (href : String) : Prop :=
  ∃ run ∈ ts, run.kind = .inline ∧ run.ShowsLink href

/-- Only a link of the source has the address: it is not that of a term, and none that is given to
what is found in the text. -/
structure IsSourceTarget (href : String) : Prop where
  noTerm : ¬"*".toList <+: href.toList
  notFound : ∀ text, href ≠ Linkify.linkTarget text

namespace Token.BeginsLink

variable {t : Token} {href : String}

theorem ne_text (h : t.BeginsLink href) : t.kind ≠ .text := by
  rw [h.kind]
  exact Kind.noConfusion

theorem referenceKey?_eq_none_iff (h : t.BeginsLink href) :
    referenceKey? t = none ↔ ¬"*".toList <+: href.toList := by
  constructor
  · rintro hnone ⟨key, hkey⟩
    have hhref : href = "*" ++ String.ofList key := String.toList_inj.mp (by simp [← hkey])
    have hsome : referenceKey? t = some (String.ofList key) :=
      referenceKey?_eq_some_iff.mpr ⟨h.kind, h.opening, hhref ▸ h.target⟩
    rw [hnone] at hsome
    cases hsome
  · intro hnot
    rw [Option.eq_none_iff_forall_ne_some]
    intro key hkey
    obtain ⟨-, -, hattr⟩ := referenceKey?_eq_some_iff.mp hkey
    obtain rfl := Option.some.inj (h.target.symm.trans hattr)
    exact hnot ⟨key.toList, by simp⟩

theorem not_mem_segmentTokens (h : t.BeginsLink href) (hhref : IsSourceTarget href)
    (segment : Linkify.Segment) : t ∉ segment.tokens := by
  intro ht
  rcases Linkify.mem_segmentTokens ht with ⟨s, rfl⟩ | ⟨s, rfl⟩ | rfl
  · exact absurd h.kind Kind.noConfusion
  · have hattr : (Linkify.openingToken s).attr? "href" = some (Linkify.linkTarget s) := rfl
    exact hhref.notFound _ (Option.some.inj (h.target.symm.trans hattr))
  · exact absurd h.opening Nesting.noConfusion

/-- Finding addresses in the text leaves the links of the source where they are. -/
theorem mem_outsideImages_linkChildren_iff (h : t.BeginsLink href) (hhref : IsSourceTarget href)
    (l : Linkify) (ts : List Token) : ∀ linksAround depth,
    t ∈ outsideImages depth (l.linkChildren linksAround ts) ↔ t ∈ outsideImages depth ts := by
  induction ts with
  | nil => exact fun _ _ => Iff.rfl
  | cons u ts ih =>
    intro linksAround depth
    obtain ⟨linksBehind, heq | ⟨hk, heq⟩⟩ := l.linkChildren_cons linksAround u ts
    · rw [heq, outsideImages_cons, outsideImages_cons, List.mem_append, List.mem_append, ih]
    · -- A text is cut into texts and links that are not of the source.
      have hcut : ∀ x ∈ (l.segments u.content.toList).flatMap Linkify.Segment.tokens,
          x.kind ≠ .image ∧ x ≠ t := by
        intro x hx
        obtain ⟨segment, -, hx⟩ := List.mem_flatMap.mp hx
        exact ⟨kind_ne_image_of_mem_segmentTokens hx,
          fun hxt => h.not_mem_segmentTokens hhref segment (hxt ▸ hx)⟩
      have hu : u.kind ≠ .image := by
        rw [hk]
        exact Kind.noConfusion
      have htu : t ≠ u := by
        rintro rfl
        exact h.ne_text hk
      have hnot : t ∉ outsideImages depth
          ((l.segments u.content.toList).flatMap Linkify.Segment.tokens) :=
        fun ht => (hcut t (mem_of_mem_outsideImages ht).1).2 rfl
      rw [heq, outsideImages_append_of_ne fun x hx => (hcut x hx).1, List.mem_append, ih,
        outsideImages_cons, imagesBehind_of_ne hu, List.mem_append, or_iff_right hnot]
      split <;> simp [htu]

/-- So does marking the references. -/
theorem mem_outsideImages_markReferences_iff (h : t.BeginsLink href)
    (hhref : IsSourceTarget href) {ts : List Token} (hts : InlineContent ts) :
    t ∈ outsideImages 0 (markReferences ts).1 ↔ t ∈ outsideImages 0 ts := by
  refine markReferences_induction
    (P := fun us => t ∈ outsideImages 0 us ↔ t ∈ outsideImages 0 ts) hts Iff.rfl ?_
  intro pre o body c rest key ho hc hlink hmarked
  have hne : o.kind ≠ .image ∧ c.kind ≠ .image := by
    rw [(referenceKey?_eq_some_iff.mp ho).1, hlink]
    exact ⟨Kind.noConfusion, Kind.noConfusion⟩
  have hto : t ≠ o := by
    rintro rfl
    rw [h.referenceKey?_eq_none_iff.mpr hhref.noTerm] at ho
    cases ho
  have htc : t ≠ c := by
    rintro rfl
    rw [h.opening] at hc
    cases hc
  have hopening : t ≠ referenceOpening key := by
    rintro rfl
    exact absurd h.kind Kind.noConfusion
  have hclosing : t ≠ referenceClosing := by
    rintro rfl
    exact absurd h.kind Kind.noConfusion
  -- One end is replaced, and then the other.
  have hbehind := mem_outsideImages_replace_iff hne.2 (u := referenceClosing) Kind.noConfusion htc
    hclosing (pre ++ referenceOpening key :: body) rest 0
  have hbefore := mem_outsideImages_replace_iff hne.1 (u := referenceOpening key)
    Kind.noConfusion hto hopening pre (body ++ c :: rest) 0
  rw [List.append_assoc, List.append_assoc, List.cons_append, List.cons_append] at hbehind
  rw [hbehind, hbefore, hmarked]

end Token.BeginsLink

/-- A paragraph and the definition that it becomes show the same links. -/
theorem showsLink_definition_iff {o run c d : Token} (h : definition? o run c = some d)
    (href : String) : d.ShowsLink href ↔ run.ShowsLink href := by
  obtain ⟨-, -, -, first, others, key, text, hchildren, htext, -, rfl⟩ :=
    Plugin.Terms.definition?_eq_some_iff.mp h
  have hfirst : ∀ {t : Token}, t.kind = .text → ((∃ c ∈ outsideImages 0 (t :: others),
      c.BeginsLink href) ↔ ∃ c ∈ outsideImages 0 others, c.BeginsLink href) := by
    intro t hk
    have hne : t.kind ≠ .image := by
      rw [hk]
      exact Kind.noConfusion
    have hnot : ¬t.BeginsLink href := fun h => h.ne_text hk
    rw [outsideImages_cons, imagesBehind_of_ne hne]
    simp [hne, hnot]
  rw [Token.ShowsLink, Token.ShowsLink, hchildren, hfirst htext]
  dsimp only [Plugin.Terms.definitionToken]
  split
  · exact Iff.rfl
  · exact hfirst (t := first.withContent (String.ofList text)) htext

/-- A run is left by the definitions, or it is that of one of them. -/
theorem Plugin.Terms.mem_extract_or_of_inline {ts : List Token} (hts : ∀ t ∈ ts, t.IsPagePart)
    {run : Token} (hrun : run ∈ ts) (hk : run.kind = .inline) :
    run ∈ extract ts ∨ ∃ o c d, [o, run, c] <:+: ts ∧ definition? o run c = some d := by
  have hn := (hts run hrun).single_of_inline hk
  induction ts using extract.induct with
  | case1 a b c rest d hd ih =>
    obtain ⟨ha, -, hc, -⟩ := definition?_eq_some hd
    rw [extract_of_some hd]
    simp only [List.mem_cons] at hrun
    rcases hrun with rfl | rfl | rfl | hrun
    · rw [ha] at hk
      cases hk
    · exact .inr ⟨a, c, d, ⟨[], rest, rfl⟩, hd⟩
    · rw [hc] at hn
      cases hn
    · rcases ih (fun t ht => hts t (by simp [ht])) hrun with hleft | ⟨o, c', d', hrow, hd'⟩
      · exact .inl (List.mem_cons_of_mem d hleft)
      · exact .inr ⟨o, c', d', hrow.trans (List.suffix_append [a, b, c] rest).isInfix, hd'⟩
  | case2 a b c rest hd ih =>
    rw [extract_of_none hd]
    rcases List.mem_cons.mp hrun with rfl | hrun
    · exact .inl List.mem_cons_self
    · rcases ih (fun t ht => hts t (List.mem_cons_of_mem a ht)) hrun with
        hleft | ⟨o, c', d', hrow, hd'⟩
      · exact .inl (List.mem_cons_of_mem a hleft)
      · exact .inr ⟨o, c', d', List.infix_cons hrow, hd'⟩
  | case3 ts hshort =>
    rw [extract_of_short hshort]
    exact .inl hrun

/-! ### The document -/

section Parsed

variable {o : Options} {events : List Event} (ho : o.plugins = Plugin.defaults) {href : String}
  (hhref : IsSourceTarget href)

include hhref

/-- What comes after the definitions leaves the links of a run. -/
theorem Engine.showsLink_linkedRun_iff (e : Engine) {run : Token}
    (hcontent : InlineContent run.children) :
    { run with children := e.linkedRun (markReferences run.children).1 }.ShowsLink href ↔
      run.ShowsLink href := by
  refine exists_congr fun c => and_congr_left fun hc => ?_
  show c ∈ outsideImages 0 (e.linkedRun (markReferences run.children).1) ↔ _
  rw [← hc.mem_outsideImages_markReferences_iff hhref hcontent]
  unfold Engine.linkedRun
  split
  · exact hc.mem_outsideImages_linkChildren_iff hhref e.linkify _ 0 0
  · exact Iff.rfl

include ho

/-- **A parsed document shows the links of its runs**, in its runs and in its definitions. -/
theorem Options.showsLink_parsed_iff (h : ProperlyNested events) :
    (∃ t ∈ (o.engine.parseEvents events {}).1, t.ShowsLink href) ↔
      RunsLinkTo (o.anchored events) href := by
  have hpage := pageContent_anchored o h
  have hextract := Plugin.Terms.pageContent_extract hpage
  constructor
  · rintro ⟨t, ht, hshows⟩
    by_cases hk : t.kind = .inline
    · obtain ⟨run, hrun, hkind, rfl⟩ := (Options.mem_run_parsed ho hk).mp ht
      rw [o.engine.showsLink_linkedRun_iff hhref (hextract.parts run hrun).children] at hshows
      rcases Plugin.Terms.mem_extract hrun with hmem | ⟨a, b, c, -, hd⟩
      · exact ⟨run, hmem, hkind, hshows⟩
      · rw [(definition?_eq_some hd).2.2.2.2.1] at hkind
        cases hkind
    · -- Only a definition has children beside the runs.
      rcases Plugin.Terms.mem_extract ((Options.mem_parsed_of_ne ho hk).mp ht) with
        hmem | ⟨a, run, b, hrow, hd⟩
      · obtain ⟨c, hc, -⟩ := hshows
        have hmem' := (mem_of_mem_outsideImages hc).1
        rw [(o.isBlock_anchored events t hmem).bare hk] at hmem'
        cases hmem'
      · have hrun : run ∈ o.anchored events := hrow.subset (by simp)
        obtain ⟨-, -, -, hchildren, -⟩ := definition?_eq_some hd
        rw [showsLink_definition_iff hd] at hshows
        refine ⟨run, hrun, ?_, hshows⟩
        by_contra hne
        exact hchildren ((o.isBlock_anchored events run hrun).bare hne)
  · rintro ⟨run, hrun, hk, hshows⟩
    rcases Plugin.Terms.mem_extract_or_of_inline hpage.parts hrun hk with
      hleft | ⟨a, c, d, hrow, hd⟩
    · have hparsed : { run with children := o.engine.linkedRun (markReferences run.children).1 } ∈
          (o.engine.parseEvents events {}).1 := by
        rw [Options.mem_run_parsed ho (by exact hk)]
        exact ⟨run, hleft, hk, rfl⟩
      refine ⟨_, hparsed, ?_⟩
      exact (o.engine.showsLink_linkedRun_iff hhref (hextract.parts run hleft).children).mpr hshows
    · have hmem := Plugin.Terms.mem_extract_of_infix hpage.parts hrow hd
      have hne : d.kind ≠ .inline := by
        rw [(definition?_eq_some hd).2.2.2.2.1]
        exact Kind.noConfusion
      exact ⟨d, (Options.mem_parsed_of_ne ho hne).mpr hmem,
        (showsLink_definition_iff hd href).mpr hshows⟩

end Parsed

/-- The page has a link to the address. -/
def Rendered.LinksTo (page : Rendered) (href : String) : Prop :=
  ∃ tag ∈ startTags page.html, tag.name = "a" ∧ tag.attr? "href" = some href

section Page

variable {o : Options} (hhtml : o.allowHtml = false) (ho : o.UsesBuiltins)
  (hhighlighter : WritesNo "a" o.highlighter) {ts : List Token} (hts : PageContent ts)
  (hkind : ∀ t ∈ ts, ∀ c ∈ t.children, t.kind = .inline ∨ t.kind = definitionKind)
  (hlegible : ∀ t ∈ ts, ∀ c ∈ t.children, c.HasLegibleNames)

include hhtml ho hhighlighter hts hkind hlegible

/-- **The links of a page are those of its tokens that stand in no image.** -/
theorem Options.linksTo_pageOf_iff {env : Environment} {href : String} :
    (o.pageOf ts env).LinksTo href ↔ ∃ t ∈ ts, t.ShowsLink href := by
  have hrules : (o.engine.rendererIn {}).HasBuiltinRules := Options.hasBuiltinRules ho
  have himage : ∀ attrs t alt, Markup.startTag "a" attrs ∉ imageMarkup t alt := by
    intro attrs t alt hmem
    exact absurd (Markup.startTag.inj (mem_imageMarkup.mp hmem)).1 (by decide)
  have hnested : ∀ t ∈ ts, Nested t.children := fun t ht =>
    nested_of_balanced (hts.parts t ht).children.balanced
  have hwritten : ∀ t ∈ ts, ∀ c ∈ t.children,
      (Html.written "a" (Html.attributes c.attrs)).attr? "href" = c.attr? "href" := by
    intro t ht c hc
    exact Html.attr?_written "a" (List.forall_mem_map.mp (hlegible t ht c hc))
      (by decide : Html.escapeChars "href".toList = "href".toList)
  constructor
  · rintro ⟨tag, htag, hname, hhref⟩
    obtain ⟨t, ht, attrs, hpiece, rfl⟩ :=
      Options.exists_of_mem_startTags_pageOf hhtml ho hhighlighter htag hname
    rcases Renderer.startTag_mem_blockPiece hrules (by decide) (hts.parts t ht) hpiece with
      hinlines | ⟨hdfn, -⟩
    · obtain ⟨c, hc, hpiece⟩ := (Renderer.mem_inlines_iff (himage attrs) (hnested t ht)).mp hinlines
      have hmem := (mem_of_mem_outsideImages hc).1
      obtain ⟨pairs, hbecomes, rfl⟩ := Renderer.startTag_mem_inlinePiece hrules (by decide)
        ((hts.parts t ht).children.parts c hmem) hpiece
      obtain ⟨hk, hn, rfl⟩ := Token.becomes_a_iff.mp hbecomes
      rw [hwritten t ht c hmem] at hhref
      exact ⟨t, ht, c, hc, hk, hn, hhref⟩
    · exact absurd hdfn (by decide)
  · rintro ⟨t, ht, c, hc, hlink⟩
    have hmem := (mem_of_mem_outsideImages hc).1
    have hpiece : .startTag "a" (Html.attributes c.attrs) ∈
        (o.engine.rendererIn {}).inlinePiece c := by
      rw [Renderer.inlinePiece, hlink.kind]
      dsimp only
      rw [Renderer.inlineMarkup, hlink.kind]
      dsimp only
      rw [tagMarkup, hlink.opening]
      exact List.mem_singleton_self _
    have hinlines := (Renderer.mem_inlines_iff (himage _) (hnested t ht)).mpr ⟨c, hc, hpiece⟩
    have hblock :=
      Renderer.mem_blockPiece_of_mem_inlinesFrom hrules (hkind t ht c hmem) hinlines
    refine ⟨_, Options.written_mem_startTags_pageOf hhtml ho hhighlighter ht
      (isTagName_of_mem_elementNames (by decide)) hblock, rfl, ?_⟩
    rw [hwritten t ht c hmem, hlink.target]

end Page

end Folio
