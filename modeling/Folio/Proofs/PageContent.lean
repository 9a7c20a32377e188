import Folio.Proofs.MarkupPieces
import Folio.Proofs.PageTags

/-!
# Pages

A list of tokens that is balanced, and whose runs are balanced, is rendered to a page whose tags
are balanced: a pair of tokens becomes the two tags of one name or nothing at all, and everything
else becomes markup that is balanced by itself.  Between the two ends of an image no tag is
written.

## Main definitions

* `InlineContent`, `PageContent` — the lists of tokens that make a page.
* `Token.HasTags` — the tags that a token becomes.

## Main results

* `Renderer.allPlain_blocks` — all markup is read as it is written, whatever the tokens are.
* `Renderer.wellNested_render` — **the tags of a page are well nested.**
-/

namespace Folio

open BracketOf (IsBalanced)
open Html (Markup)
open Plugin.Terms (definitionKind referenceKind renderDefinition renderReference)

/-! ### The tokens of a page -/

/-- One end of an inline container or of a reference, or an inline leaf. -/
structure Token.IsInlinePart (t : Token) : Prop where
  pair : t.nesting ≠ .single → t.kind.isInlinePair = true ∨ t.kind = referenceKind
  leaf : t.nesting = .single → t.kind.isInlineLeaf = true
  children : t.children = []

/-- The content of a run of a page. -/
structure InlineContent (ts : List Token) : Prop where
  balanced : IsBalanced (brackets ts)
  parts : ∀ t ∈ ts, t.IsInlinePart

/-- One end of a block, or a block that is one token; a definition of a term is one. -/
structure Token.IsPagePart (t : Token) : Prop where
  pair : t.nesting ≠ .single → t.kind.isBlockPair = true ∧ t.children = []
  leaf : t.nesting = .single → t.kind.isBlockLeaf = true ∨ t.kind = definitionKind
  children : InlineContent t.children

/-- The tokens of a page. -/
structure PageContent (ts : List Token) : Prop where
  balanced : IsBalanced (shownBrackets ts)
  parts : ∀ t ∈ ts, t.IsPagePart

theorem inlineContent_nil : InlineContent [] := ⟨rfl, List.forall_mem_nil _⟩

/-! ### The tags of one token -/

/-- The bracket that a token is, with the name of an element as its key; none if there is no name
for its kind. -/
def Token.namedBracket? (name? : Kind → Option String) (t : Token) : Option (BracketOf String) :=
  (t.bracketBy? Token.kind).bind (BracketOf.map? name?)

/-- The tags that a token becomes: the one that its name says, or tags that are balanced by
themselves. -/
def Token.HasTags (name? : Kind → Option String) (t : Token) (word : List (BracketOf String)) :
    Prop :=
  match t.namedBracket? name? with
  | some b => word = [b]
  | none => IsBalanced word

section HasTags

variable {name? : Kind → Option String} {t : Token} {word : List (BracketOf String)} {name : String}

theorem namedBracket?_opening (hn : t.nesting = .opening) (hname : name? t.kind = some name) :
    t.namedBracket? name? = some (.opening name) := by
  rw [Token.namedBracket?, bracketBy?_opening _ hn, Option.bind_some, BracketOf.map?, hname]
  rfl

theorem namedBracket?_closing (hn : t.nesting = .closing) (hname : name? t.kind = some name) :
    t.namedBracket? name? = some (.closing name) := by
  rw [Token.namedBracket?, bracketBy?_closing _ hn, Option.bind_some, BracketOf.map?, hname]
  rfl

theorem namedBracket?_single (hn : t.nesting = .single) : t.namedBracket? name? = none := by
  rw [Token.namedBracket?, bracketBy?_single _ hn]
  rfl

theorem namedBracket?_of_none (hname : name? t.kind = none) : t.namedBracket? name? = none := by
  cases hn : t.nesting <;> simp [Token.namedBracket?, Token.bracketBy?, hn, BracketOf.map?, hname]

theorem hasTags_of_some {b : BracketOf String} (hb : t.namedBracket? name? = some b) :
    t.HasTags name? word ↔ word = [b] := by
  rw [Token.HasTags, hb]

theorem hasTags_of_none (hb : t.namedBracket? name? = none) :
    t.HasTags name? word ↔ IsBalanced word := by
  rw [Token.HasTags, hb]

/-- Only the name for the kind of the token counts. -/
theorem hasTags_congr {name?' : Kind → Option String} (hname : name?' t.kind = name? t.kind) :
    t.HasTags name?' word ↔ t.HasTags name? word := by
  have hbracket : t.namedBracket? name?' = t.namedBracket? name? := by
    cases hn : t.nesting <;> simp [Token.namedBracket?, Token.bracketBy?, hn, BracketOf.map?, hname]
  rw [Token.HasTags, hbracket, Token.HasTags]

end HasTags

/-! ### The markup of all tokens -/

/-- All markup is read as it is written. -/
def AllPlain (page : List Markup) : Prop := ∀ m ∈ page, m.IsPlain

theorem isTagName_of_mem_elementNames {name : String} (h : name ∈ elementNames) :
    Html.IsTagName name := by
  have hnames : elementNames.all (fun name => name.toList.all Char.isAlphanum) = true := by decide
  exact Html.isTagName_of_all (List.all_eq_true.mp hnames name h)

theorem holdsOfPieces_isPlain : HoldsOfPieces Markup.IsPlain := by
  have hraw : ∀ s : String, s.toList.all (· != '<') = true → (Markup.raw s).IsPlain :=
    fun s h c hc => by simpa using List.all_eq_true.mp h c hc
  exact ⟨fun _ => trivial, hraw _ rfl, hraw _ rfl,
    fun _ h _ => isTagName_of_mem_elementNames h, fun _ h => isTagName_of_mem_elementNames h⟩

namespace Renderer

variable {r : Renderer}

/-- **All markup is read as it is written**, whatever the tokens are. -/
theorem allPlain_blocks (hr : r.IsBuiltin) (ts : List Token) : AllPlain (r.blocks ts) := by
  have hpiece : ∀ t, AllPlain (r.blockPiece t) := by
    intro t
    cases ht : t.kind.isHeading with
    | false =>
      refine forall_blockPiece holdsOfPieces_isPlain hr.html hr.rules (fun h hh => ?_) ht
      rw [hr.highlighter] at hh
      cases hh
    | true =>
      obtain ⟨n, hn⟩ := Kind.exists_of_isHeading ht
      rw [blockPiece_heading r hn]
      split
      · exact List.forall_mem_nil _
      · split <;> exact List.forall_mem_singleton.mpr (Html.isTagName_heading n)
  rw [blocks_eq_flatMap]
  intro m hm
  obtain ⟨t, -, hm⟩ := List.mem_flatMap.mp hm
  exact hpiece t m hm

/-! ### The tags of one piece -/

/-- The tags in a piece of a page. -/
def tags (page : List Markup) : List (BracketOf String) := page.filterMap Markup.bracket?

theorem tags_append (xs ys : List Markup) : tags (xs ++ ys) = tags xs ++ tags ys :=
  List.filterMap_append

/-- The name of the element that a pair of blocks becomes. -/
def blockName : Kind → String
  | .heading n => "h" ++ toString n
  | .paragraph => "p"
  | .blockquote => "blockquote"
  | .bulletList => "ul"
  | .orderedList => "ol"
  | .listItem => "li"
  | .table => "table"
  | .tableHead => "thead"
  | .tableBody => "tbody"
  | .tableRow => "tr"
  | .tableHeaderCell => "th"
  | .tableDataCell => "td"
  | .definitionList => "dl"
  | .definitionTerm => "dt"
  | _ => "dd"

/-- The name of the element that an inline container becomes, if it becomes one. -/
def inlineName? (r : Renderer) : Kind → Option String
  | .emphasis => some "em"
  | .strong => some "strong"
  | .strikethrough => some "s"
  | .superscript => some "sup"
  | .subscript => some "sub"
  | .link => some "a"
  | .custom name => (r.rules.lookup name).map fun _ => "i"
  | _ => none

/-- The heading elements have an end tag. -/
theorem heading_not_void (n : Nat) : Html.voidNames.contains ("h" ++ toString n) = false := by
  have hne : ∀ name ∈ Html.voidNames, "h" ++ toString n ≠ name := by
    intro name hname heq
    have htoList := congrArg String.toList heq
    rw [String.toList_append, show "h".toList = ['h'] from rfl] at htoList
    simp only [Html.voidNames, List.mem_cons, List.not_mem_nil, or_false] at hname
    rcases hname with rfl | rfl | rfl | rfl
    · simp at htoList
    · -- The letter behind `h` is no digit.
      have hr : 'r' ∈ (toString n).toList := by
        simp only [List.cons_append, List.nil_append] at htoList
        rw [(List.cons.inj htoList).2]
        decide
      exact absurd (Html.isDigit_of_mem_toString hr) (by decide)
    · simp at htoList
    · simp at htoList
  simpa using fun h => hne _ h rfl

theorem blockName_not_void (k : Kind) : Html.voidNames.contains (blockName k) = false := by
  cases k
  case heading n => exact heading_not_void n
  all_goals
    simp only [blockName]
    decide

theorem bracket?_startTag {name : String} (hname : Html.voidNames.contains name = false)
    (attrs : List Html.Attribute) :
    (Markup.startTag name attrs).bracket? = some (.opening name) := by
  rw [Markup.bracket?, Html.startBracket?, String.ofList_toList, hname]
  rfl

theorem tags_tagMarkup_opening {name : String} (hname : Html.voidNames.contains name = false)
    {t : Token} (hn : t.nesting = .opening) : tags (tagMarkup name t) = [.opening name] := by
  rw [tagMarkup, hn]
  simp only [tags]
  rw [List.filterMap_cons_some (bracket?_startTag hname _)]
  rfl

theorem tags_tagMarkup_closing (name : String) {t : Token} (hn : t.nesting = .closing) :
    tags (tagMarkup name t) = [.closing name] := by
  rw [tagMarkup, hn]
  rfl

/-- The markup of a pair of blocks. -/
theorem blockMarkup_pair (r : Renderer) {t : Token} (hk : t.kind.isBlockPair = true)
    (hn : t.nesting ≠ .single) : r.blockMarkup t
      = if t.hidden then [] else tagMarkup (blockName t.kind) t := by
  unfold blockMarkup
  split
  · rfl
  cases hkind : t.kind with
  | heading n =>
    -- Headings look at one nesting only.
    unfold tagMarkup
    cases h : t.nesting with
    | opening => simp [Token.isOpening, h, blockName]
    | closing => simp [Token.isOpening, h, blockName]
    | single => exact absurd h hn
  | _ => first | rfl | simp [hkind, Kind.isBlockPair] at hk

/-- A pair of blocks becomes the tags of one name; a hidden one becomes nothing. -/
theorem tags_blockPiece_pair (r : Renderer) {t : Token} (hk : t.kind.isBlockPair = true)
    {b : BracketOf (Kind × Bool)} (hb : t.bracketBy? Token.shown = some b) :
    tags (r.blockPiece t)
      = (b.map? fun k => if k.2 then none else some (blockName k.1)).toList := by
  have hpiece : r.blockPiece t = r.blockMarkup t := by
    unfold blockPiece
    cases hkind : t.kind <;> simp [hkind, Kind.isBlockPair] at hk ⊢
  have hname := blockName_not_void t.kind
  rw [hpiece]
  rcases bracketBy?_eq_some Token.shown hb with ⟨hn, rfl⟩ | ⟨hn, rfl⟩ <;>
    rw [blockMarkup_pair r hk (by simp [hn])] <;> cases hh : t.hidden
  · simp [tags_tagMarkup_opening hname hn, BracketOf.map?, Token.shown, hh]
  · simp [tags, BracketOf.map?, Token.shown, hh]
  · simp [tags_tagMarkup_closing _ hn, BracketOf.map?, Token.shown, hh]
  · simp [tags, BracketOf.map?, Token.shown, hh]

/-- The markup of an inline container that is no image. -/
theorem inlinePiece_pair (r : Renderer) {t : Token} (hk : t.kind.isInlinePair = true)
    (hi : t.kind ≠ .image) : ∃ name, r.inlineName? t.kind = some name ∧
      Html.voidNames.contains name = false ∧ r.inlinePiece t = tagMarkup name t := by
  unfold inlinePiece inlineMarkup
  cases hkind : t.kind with
  | image => exact absurd hkind hi
  | emphasis | strong | strikethrough | superscript | subscript | link =>
    exact ⟨_, rfl, by decide, rfl⟩
  | _ => simp [hkind, Kind.isInlinePair] at hk

/-- The markup of one end of a reference. -/
theorem inlinePiece_reference (r : Renderer) {t : Token} (hk : t.kind = referenceKind) :
    r.inlinePiece t = r.customMarkup "term" t := by
  unfold inlinePiece
  rw [hk]
  rfl

/-- A pair of inline tokens that is no image becomes the tags of one name, or nothing. -/
theorem tags_inlinePiece_pair (hr : r.IsBuiltin) {t : Token} (ht : t.IsInlinePart)
    (hi : t.kind ≠ .image) {b : BracketOf Kind} (hb : t.bracketBy? Token.kind = some b) :
    tags (r.inlinePiece t) = (b.map? r.inlineName?).toList := by
  have hn : t.nesting ≠ .single := fun h => by rw [bracketBy?_single _ h] at hb; simp at hb
  rcases ht.pair hn with hk | hk
  · obtain ⟨name, hname, hvoid, hpiece⟩ := inlinePiece_pair r hk hi
    rw [hpiece]
    rcases bracketBy?_eq_some Token.kind hb with ⟨hn, rfl⟩ | ⟨hn, rfl⟩
    · simp [tags_tagMarkup_opening hvoid hn, BracketOf.map?, hname]
    · simp [tags_tagMarkup_closing _ hn, BracketOf.map?, hname]
  · -- A reference becomes an element if there is a rule for it.
    have hname : r.inlineName? t.kind = (r.rules.lookup "term").map fun _ => "i" := by
      rw [hk]
      rfl
    rw [inlinePiece_reference r hk, customMarkup_eq]
    rcases hr.lookup_cases "term" with hnone | ⟨hfalse, -⟩ | ⟨-, href⟩
    · rw [hnone, Option.map_none] at hname
      rw [hnone, ht.children]
      rcases bracketBy?_eq_some Token.kind hb with ⟨-, rfl⟩ | ⟨-, rfl⟩ <;>
        rw [BracketOf.map?, hname] <;> rfl
    · exact absurd hfalse (by decide)
    · rw [href, Option.map_some] at hname
      rw [href]
      rcases bracketBy?_eq_some Token.kind hb with ⟨hn, rfl⟩ | ⟨hn, rfl⟩ <;>
        simp only [renderReference, hn] <;> rw [BracketOf.map?, hname] <;> rfl

/-- An inline leaf has no tags, or two tags of one name. -/
theorem balanced_tags_inlineLeaf (hr : r.IsBuiltin) {t : Token}
    (hk : t.kind.isInlineLeaf = true) : IsBalanced (tags (r.inlinePiece t)) := by
  unfold inlinePiece inlineMarkup
  cases hkind : t.kind <;> simp only [hkind, Kind.isInlineLeaf, Bool.false_eq_true] at hk ⊢
  · exact BracketOf.balanced_nil
  · exact BracketOf.balanced_nil.enclose "code"
  · rw [rawMarkup, hr.html]
    exact BracketOf.balanced_nil
  · cases r.breaks <;> exact BracketOf.balanced_nil
  · exact BracketOf.balanced_nil
  · exact BracketOf.balanced_nil

theorem tags_imageMarkup (t : Token) (alt : String) : tags (imageMarkup t alt) = [] := by
  rfl

/-- The tokens up to the other end of an image are passed over. -/
theorem imageLength_eq {o c : Token} {body : List Token} (ho : o.nesting = .opening)
    (hc : c.nesting = .closing) (hk : c.kind = o.kind) (hbody : Nested body) (rest : List Token) :
    imageLength o (body ++ c :: rest) = body.length := by
  have h := findClose?_eq ho hc hk hbody [] rest
  rw [List.nil_append, List.length_nil] at h
  rw [imageLength, h, Option.getD_some]
  omega

/-- **The tags of a nested list of inline tokens are balanced**, whatever follows the list, if those
of its tokens are what `HasTags` says. -/
theorem exists_balanced_tags {name? : Kind → Option String} {ts : List Token} (hts : Nested ts)
    (htags : ∀ t ∈ ts, t.nesting = .single ∨ t.kind ≠ .image →
      t.HasTags name? (tags (r.inlinePiece t))) : ∃ word, IsBalanced word ∧
      ∀ rest, tags (r.inlinesFrom 0 (ts ++ rest)) = word ++ tags (r.inlinesFrom 0 rest) := by
  induction hts with
  | nil => exact ⟨[], BracketOf.balanced_nil, fun _ => rfl⟩
  | @single t ts hn _ ih =>
    obtain ⟨word, hword, hrest⟩ := ih fun u hu => htags u (List.mem_cons_of_mem t hu)
    have hpiece := htags t List.mem_cons_self (.inl hn)
    rw [hasTags_of_none (namedBracket?_single hn)] at hpiece
    refine ⟨tags (r.inlinePiece t) ++ word, hpiece.append hword, ?_⟩
    intro rest
    rw [List.cons_append, inlinesFrom_cons r fun _ ho => by simp [hn] at ho, tags_append, hrest,
      List.append_assoc]
  | @pair o c body after ho hc hk hbody _ ihbody ihafter =>
    obtain ⟨inside, hinside, hbodyEq⟩ := ihbody fun u hu => htags u (by simp [hu])
    obtain ⟨word, hword, hrest⟩ := ihafter fun u hu => htags u (by simp [hu])
    -- An image writes one tag without an end and passes over its body; any other pair writes the
    -- two tags of one name, or balanced tags at each end, around the tags of its body.
    by_cases hi : o.kind = .image
    · refine ⟨word, hword, fun rest => ?_⟩
      have hskip : body ++ c :: (after ++ rest) = (body ++ [c]) ++ (after ++ rest) := by simp
      rw [List.cons_append, List.cons_append, List.append_assoc, List.cons_append,
        inlinesFrom_image r hi ho, imageLength_eq ho hc hk hbody, tags_append, tags_imageMarkup,
        hskip, List.nil_append]
      rw [show body.length + 1 = (body ++ [c]).length by simp, inlinesFrom_length, hrest]
    · have hopen := htags o (by simp) (.inr hi)
      have hclose := htags c (by simp) (.inr (hk ▸ hi))
      refine ⟨tags (r.inlinePiece o) ++ inside ++ tags (r.inlinePiece c) ++ word, ?_, ?_⟩
      · refine BracketOf.IsBalanced.append ?_ hword
        cases hname : name? o.kind with
        | none =>
          rw [hasTags_of_none (namedBracket?_of_none hname)] at hopen
          rw [hasTags_of_none (namedBracket?_of_none (hk ▸ hname))] at hclose
          exact (hopen.append hinside).append hclose
        | some name =>
          rw [hasTags_of_some (namedBracket?_opening ho hname)] at hopen
          rw [hasTags_of_some (namedBracket?_closing hc (hk ▸ hname))] at hclose
          rw [hopen, hclose]
          exact hinside.enclose name
      · intro rest
        rw [List.cons_append, List.cons_append, List.append_assoc, List.cons_append,
          inlinesFrom_cons r fun h => absurd h hi, tags_append, hbodyEq,
          inlinesFrom_cons r fun h => absurd (hk ▸ h) hi, tags_append, hrest]
        simp only [List.append_assoc]

theorem balanced_tags_of_hasTags {name? : Kind → Option String} {ts : List Token}
    (hts : Nested ts) (htags : ∀ t ∈ ts, t.nesting = .single ∨ t.kind ≠ .image →
      t.HasTags name? (tags (r.inlinePiece t))) : IsBalanced (tags (r.inlinesFrom 0 ts)) := by
  obtain ⟨word, hword, hrest⟩ := exists_balanced_tags hts htags
  have heq := hrest []
  rw [List.append_nil, inlinesFrom_nil] at heq
  rw [heq]
  simpa [tags] using hword

theorem balanced_tags_inlines (hr : r.IsBuiltin) {ts : List Token} (h : InlineContent ts) :
    IsBalanced (tags (r.inlinesFrom 0 ts)) := by
  have htags : ∀ t ∈ ts, t.nesting = .single ∨ t.kind ≠ .image →
      t.HasTags r.inlineName? (tags (r.inlinePiece t)) := by
    intro t ht himage
    cases hb : t.bracketBy? Token.kind with
    | none =>
      have hn := (bracketBy?_eq_none_iff _).mp hb
      rw [hasTags_of_none (namedBracket?_single hn)]
      exact balanced_tags_inlineLeaf hr ((h.parts t ht).leaf hn)
    | some b =>
      have hn : t.nesting ≠ .single := fun hn => by rw [bracketBy?_single _ hn] at hb; simp at hb
      have hi : t.kind ≠ .image := himage.resolve_left hn
      rw [Token.HasTags, Token.namedBracket?, hb, Option.bind_some,
        tags_inlinePiece_pair hr (h.parts t ht) hi hb]
      cases b.map? r.inlineName? <;> rfl
  exact balanced_tags_of_hasTags (nested_iff_balanced.mpr h.balanced) htags

/-- A block that is one token has balanced tags. -/
theorem balanced_tags_blockPiece (hr : r.IsBuiltin) {t : Token} (ht : t.IsPagePart)
    (hn : t.nesting = .single) : IsBalanced (tags (r.blockPiece t)) := by
  have hinlines := balanced_tags_inlines hr ht.children
  rcases ht.leaf hn with hk | hk
  · unfold blockPiece blockMarkup
    cases hkind : t.kind <;> simp only [hkind, Kind.isBlockLeaf, Bool.false_eq_true] at hk ⊢
    · -- Code stands within two elements.
      split
      · exact BracketOf.balanced_nil
      unfold codeMarkup
      rw [hr.highlighter]
      cases (firstWord? t.info).map (resolveLang r.langs) <;>
        exact (BracketOf.balanced_nil.enclose "code").enclose "pre"
    · split
      · exact BracketOf.balanced_nil
      · rw [rawMarkup, hr.html]
        exact BracketOf.balanced_nil
    · split <;> exact BracketOf.balanced_nil
    · exact hinlines
  · have hpiece : r.blockPiece t = r.customMarkup "term_definition" t := by
      unfold blockPiece
      rw [hk]
      rfl
    rw [hpiece, customMarkup_eq]
    rcases hr.lookup_cases "term_definition" with hnone | ⟨-, hdef⟩ | ⟨hfalse, -⟩
    · rw [hnone]
      dsimp only
      split
      · exact BracketOf.balanced_nil
      · exact hinlines
    · rw [hdef]
      have htags : tags (renderDefinition
          ⟨t, r.inlinesFrom 0 t.children, r.blocks t.children, r.env⟩)
          = .opening "dfn" :: tags (r.inlinesFrom 0 t.children) ++ [BracketOf.closing "dfn"] := by
        simp only [renderDefinition, List.cons_append, tags]
        rw [List.filterMap_cons_some (bracket?_startTag (by decide) _), List.filterMap_append]
        rfl
      dsimp only
      rw [htags]
      exact hinlines.enclose "dfn"
    · exact absurd hfalse (by decide)

/-- **The tags of a page are well nested.** -/
theorem wellNested_render (hr : r.IsBuiltin) {ts : List Token} (h : PageContent ts) :
    Html.WellNested (r.render ts) := by
  rw [render, Html.wellNested_writeAll_iff (allPlain_blocks hr ts), blocks_eq_flatMap,
    List.filterMap_flatMap]
  refine BracketOf.balanced_flatMap (fun k => if k.2 then none else some (blockName k.1))
    (Token.bracketBy? Token.shown) (fun t => tags (r.blockPiece t)) ?_ ?_ h.balanced
  · intro t ht b hb
    have hn : t.nesting ≠ .single := fun hn => by rw [bracketBy?_single _ hn] at hb; simp at hb
    exact tags_blockPiece_pair r ((h.parts t ht).pair hn).1 hb
  · intro t ht hb
    exact balanced_tags_blockPiece hr (h.parts t ht) ((bracketBy?_eq_none_iff _).mp hb)

end Renderer

end Folio
