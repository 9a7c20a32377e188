import Folio.Proofs.Assembling
import Folio.Proofs.AttributePass
import Folio.Proofs.Partners
import Folio.Proofs.StrippedBlocks

/-!
# The blocks behind inline elements

Attribute blocks are taken off the texts of a run from its beginning to its end, and each is
attached to a token that has been passed already, which is looked for by counting backwards.  Seen
along the structure of the run nothing has to be looked for: a text that begins with a block hands
the block back to what stands before it, which is an element as a whole.  So the element takes the
block at its own beginning, and no other token has any part in it.

## Main definitions

* `attach` — a token with a block that it may be handed.
* `HandsBack` — what becomes of nested inline content, along its structure.
* `CutsEnd` — the block at the end of inline content is cut off.

## Main results

* `HandsBack.toElementsAfter_eq` — **every block behind an element is attached to that element**,
  whatever stands around the content.
* `exists_handsBack` — nested content whose texts are separated hands its blocks back.
* `stripChildren?_eq_some_iff` — where a block is cut off the end.
-/

namespace Folio

open Plugin.Attributes (attachLast isAttachable stripChildren? toElements toElementsAfter
  toElementsAfter_cons toElementsAfter_nil blockAfter? blockAfter?_eq_some_iff)

/-! ### Handing blocks back -/

/-- The token with a block attached to it, if it is handed one. -/
def attach (handed : Option AttributeBlock) (t : Token) : Token :=
  handed.elim t fun block => block.apply t

@[simp] theorem attach_none (t : Token) : attach none t = t := rfl

@[simp] theorem attach_some (block : AttributeBlock) (t : Token) :
    attach (some block) t = block.apply t := rfl

theorem changesAttrs_attach (handed : Option AttributeBlock) (t : Token) :
    ChangesAttrs t (attach handed t) := by
  cases handed with
  | none => exact .refl t
  | some block => exact block.changesAttrs_apply t

section Attach

variable (handed : Option AttributeBlock) (t : Token)

@[simp] theorem attach_kind : (attach handed t).kind = t.kind := by
  obtain ⟨attrs, h⟩ := changesAttrs_attach handed t
  rw [h]

@[simp] theorem attach_nesting : (attach handed t).nesting = t.nesting := by
  obtain ⟨attrs, h⟩ := changesAttrs_attach handed t
  rw [h]

@[simp] theorem attach_info : (attach handed t).info = t.info := by
  obtain ⟨attrs, h⟩ := changesAttrs_attach handed t
  rw [h]

@[simp] theorem attach_children : (attach handed t).children = t.children := by
  obtain ⟨attrs, h⟩ := changesAttrs_attach handed t
  rw [h]

end Attach

/-- The tokens begin with no text. -/
def BeginsWithoutText (ts : List Token) : Prop := ∀ t ∈ ts.head?, t.kind ≠ .text

/-- What becomes of nested inline content.  `behind` says that it stands behind an element.  In this
case the block with which its first text begins is taken off that text and handed back, to be
attached to the element. -/
inductive HandsBack (d : Delimiters) :
    (behind : Bool) → List Token → List Token → (handed : Option AttributeBlock) → Prop
  | nil {behind : Bool} : HandsBack d behind [] [] none
  /-- A text behind an element, of which something is left behind its block. -/
  | shortened {t : Token} {ts us : List Token} {inner : List Char} {rest : String}
      {block : AttributeBlock} (hk : t.kind = .text) (hn : t.nesting = .single)
      (hblock : d.BeginsWith t.content.toList inner rest.toList block) (hrest : rest ≠ "")
      (hts : HandsBack d false ts us none) :
      HandsBack d true (t :: ts) (t.withContent rest :: us) (some block)
  /-- A text behind an element that is nothing but a block. -/
  | dropped {t : Token} {ts us : List Token} {inner : List Char} {block : AttributeBlock}
      (hk : t.kind = .text) (hn : t.nesting = .single)
      (hblock : d.BeginsWith t.content.toList inner [] block) (hnext : BeginsWithoutText ts)
      (hts : HandsBack d false ts us none) : HandsBack d true (t :: ts) us (some block)
  /-- A token that stands alone and takes no block, and no block is at its beginning. -/
  | single {behind : Bool} {t : Token} {ts us : List Token} (hn : t.nesting = .single)
      (hk : t.kind ≠ .codeInline)
      (hnone : behind = true → t.kind = .text → ∀ inner rest block,
        ¬ d.BeginsWith t.content.toList inner rest block)
      (hts : HandsBack d false ts us none) : HandsBack d behind (t :: ts) (t :: us) none
  /-- A piece of code takes the block behind it. -/
  | code {behind : Bool} {t : Token} {ts us : List Token} {handed : Option AttributeBlock}
      (hn : t.nesting = .single) (hk : t.kind = .codeInline) (hts : HandsBack d true ts us handed) :
      HandsBack d behind (t :: ts) (attach handed t :: us) none
  /-- The token that opens an element takes the block behind the element. -/
  | pair {behind : Bool} {o c : Token} {body body' rest rest' : List Token}
      {handed : Option AttributeBlock} (ho : o.nesting = .opening) (hc : c.nesting = .closing)
      (hk : c.kind = o.kind) (hpair : o.kind.isInlinePair = true)
      (hbody : HandsBack d false body body' none) (hrest : HandsBack d true rest rest' handed) :
      HandsBack d behind (o :: body ++ c :: rest) (attach handed o :: body' ++ c :: rest') none

section HandsBack

variable {d : Delimiters} {behind : Bool} {ts us : List Token} {handed : Option AttributeBlock}

theorem Kind.ne_of_isInlinePair {k : Kind} (h : k.isInlinePair = true) :
    k ≠ .text ∧ k ≠ .codeInline := by
  constructor <;> (rintro rfl; cases h)

/-- **The elements keep their nesting.** -/
theorem HandsBack.nested (h : HandsBack d behind ts us handed) : Nested us := by
  induction h with
  | nil => exact .nil
  | shortened _ hn _ _ _ ih => exact .single hn ih
  | dropped _ _ _ _ _ ih => exact ih
  | single hn _ _ _ ih => exact .single hn ih
  | code hn _ _ ih => exact .single (by rwa [attach_nesting]) ih
  | pair ho hc hk _ _ _ ihbody ihrest =>
    exact .pair (by rwa [attach_nesting]) hc (by rwa [attach_kind]) ihbody ihrest

/-- The tokens before, last first, with a block attached to the element that ends there. -/
def attachBack (handed : Option AttributeBlock) (done : List Token) : List Token :=
  handed.elim done fun block => (attachLast block done.reverse).reverse

theorem modify_append_cons (pre : List Token) (t : Token) (post : List Token) (f : Token → Token) :
    (pre ++ t :: post).modify pre.length f = pre ++ f t :: post := by
  induction pre with
  | nil => rfl
  | cons u pre ih => exact congrArg (u :: ·) ih

/-- A block is attached to the token at which counting backwards from the last one ends. -/
theorem attachBack_of_findOpen? {t : Token} {body done : List Token}
    (h : findOpen? (done.reverse ++ t :: body) (done.length + body.length) = some done.length)
    (handed : Option AttributeBlock) :
    attachBack handed (body.reverse ++ t :: done) = body.reverse ++ attach handed t :: done := by
  cases handed with
  | none => rfl
  | some block =>
    have hreverse : ∀ u : Token,
        (body.reverse ++ u :: done).reverse = done.reverse ++ u :: body := by simp
    have hlast : (done.reverse ++ t :: body).length - 1 = done.length + body.length := by simp
    have hmodify := modify_append_cons done.reverse t body block.apply
    rw [List.length_reverse] at hmodify
    rw [attachBack, Option.elim_some, hreverse, attachLast, hlast, h]
    dsimp only
    rw [hmodify, ← hreverse, List.reverse_reverse, attach_some]

theorem attachBack_single {t : Token} (hn : t.nesting = .single)
    (handed : Option AttributeBlock) (done : List Token) :
    attachBack handed (t :: done) = attach handed t :: done := by
  have hfind : findOpen? (done.reverse ++ [t]) (done.length + ([] : List Token).length)
      = some done.length := by
    simp [findOpen?, hn]
  have hback := attachBack_of_findOpen? hfind handed
  exact hback

theorem attachBack_pair {o c : Token} {body : List Token} (ho : o.nesting = .opening)
    (hc : c.nesting = .closing) (hk : c.kind = o.kind) (hbody : Nested body)
    (handed : Option AttributeBlock) (done : List Token) :
    attachBack handed (c :: (body.reverse ++ o :: done))
      = c :: (body.reverse ++ attach handed o :: done) := by
  have hfind := findOpen?_eq ho hc hk hbody done.reverse []
  have hlength : done.reverse.length + 1 + body.length = done.length + (body ++ [c]).length := by
    simp; omega
  rw [hlength, List.length_reverse] at hfind
  simpa using attachBack_of_findOpen? hfind handed

theorem isAttachable_of_isInlinePair {o : Token} (hn : o.nesting = .opening)
    (hk : o.kind.isInlinePair = true) : isAttachable o = false := by
  have hne := (Kind.ne_of_isInlinePair hk).2
  simp [isAttachable, Token.isClosing, hn, hne]

theorem toElementsAfter_of_none {done : List Token} {t : Token}
    (h : blockAfter? d done.head? t = none) (ts : List Token) :
    toElementsAfter d done (t :: ts) = toElementsAfter d (t :: done) ts := by
  rw [toElementsAfter_cons, h]

theorem blockAfter?_of_ne {t : Token} (hk : t.kind ≠ .text) (last : Option Token) :
    blockAfter? d last t = none := by
  cases last <;> simp [blockAfter?, hk]

/-- **Every block behind an element is attached to that element**, whatever stands around the
content. -/
theorem HandsBack.toElementsAfter_eq (h : HandsBack d behind ts us handed) :
    ∀ done post, (∀ t ∈ ts.head?, t.kind = .text → done.head?.any isAttachable = behind) →
      toElementsAfter d done (ts ++ post)
        = toElementsAfter d (us.reverse ++ attachBack handed done) post := by
  -- Only a text looks at the token before it, so nothing is asked of content that begins otherwise.
  induction h with
  | nil => exact fun _ _ _ => rfl
  | @shortened t ts us inner rest block hk hn hblock hrest _ ih =>
    intro done post hlast
    have hnext : ∀ u ∈ ts.head?, u.kind = .text →
        (t.withContent rest :: attachBack (some block) done).head?.any isAttachable = false := by
      intro _ _ _
      simp [isAttachable, Token.withContent, Token.isClosing, hn, hk]
    have hstrip := Delimiters.stripLeading?_eq_some_iff.mpr ⟨inner, hblock⟩
    rw [List.cons_append, toElementsAfter_cons,
      (blockAfter?_eq_some_iff d).mpr ⟨hk, hlast t rfl hk, hstrip⟩]
    dsimp only
    rw [if_neg (by simpa using hrest)]
    simpa [attachBack] using ih _ post hnext
  | @dropped t ts us inner block hk _ hblock hnext _ ih =>
    intro done post hlast
    have hstrip : d.stripLeading? t.content = some (block, "") :=
      Delimiters.stripLeading?_eq_some_iff.mpr ⟨inner, hblock⟩
    rw [List.cons_append, toElementsAfter_cons,
      (blockAfter?_eq_some_iff d).mpr ⟨hk, hlast t rfl hk, hstrip⟩]
    exact ih _ post fun u hu hku => absurd hku (hnext u hu)
  | @single behind t ts us hn hk hnone _ ih =>
    intro done post hlast
    have hblock : blockAfter? d done.head? t = none := by
      rw [Option.eq_none_iff_forall_ne_some]
      rintro ⟨block, rest⟩ hfound
      obtain ⟨htext, hattachable, hstrip⟩ := (blockAfter?_eq_some_iff d).mp hfound
      obtain ⟨inner, hbegins⟩ := Delimiters.stripLeading?_eq_some_iff.mp hstrip
      exact hnone (hlast t rfl htext ▸ hattachable) htext inner _ block hbegins
    have hnext : ∀ u ∈ ts.head?, u.kind = .text → (t :: done).head?.any isAttachable = false := by
      simp [isAttachable, Token.isClosing, hn, hk]
    rw [List.cons_append, toElementsAfter_of_none hblock, ih _ post hnext]
    simp [attachBack]
  | @code behind t ts us handed hn hk _ ih =>
    intro done post _
    rw [List.cons_append, toElementsAfter_of_none (blockAfter?_of_ne (by simp [hk]) _),
      ih _ post fun _ _ _ => by simp [isAttachable, hk], attachBack_single hn]
    simp [attachBack]
  | @pair behind o c body body' rest rest' handed ho hc hk hpair hbody _ ihbody ihrest =>
    intro done post _
    have hkind := (Kind.ne_of_isInlinePair hpair).1
    have hopen : (o :: done).head?.any isAttachable = false := isAttachable_of_isInlinePair ho hpair
    have hclose : isAttachable c = true := by simp [isAttachable, Token.isClosing, hc]
    have hback := attachBack_pair ho hc hk hbody.nested handed done
    simp only [List.cons_append, List.append_assoc]
    rw [toElementsAfter_of_none (blockAfter?_of_ne hkind _), ihbody _ _ fun _ _ _ => hopen,
      toElementsAfter_of_none (blockAfter?_of_ne (by rwa [hk]) _)]
    dsimp only [attachBack, Option.elim_none]
    rw [ihrest _ _ fun _ _ _ => by simpa using hclose, hback]
    simp

theorem HandsBack.toElements_eq (h : HandsBack d false ts us none) : toElements d ts = us := by
  have heq := h.toElementsAfter_eq [] [] fun _ _ _ => rfl
  rw [List.append_nil, toElementsAfter_nil] at heq
  simpa [attachBack, toElements] using heq

/-- **Nested content whose texts are separated hands its blocks back.**  Only content behind an
element has anything to hand back. -/
theorem exists_handsBack (d : Delimiters) (h : Nested ts) (hseparated : Separated ts)
    (hinline : ∀ t ∈ ts, t.IsInline) : ∀ behind, ∃ us handed, HandsBack d behind ts us handed ∧
      (behind = false → handed = none) := by
  -- The rest of a pair stands behind an element, and its body does not.
  induction h with
  | nil => exact fun _ => ⟨[], none, .nil, fun _ => rfl⟩
  | @single t ts hn _ ih =>
    intro behind
    obtain ⟨hnext, hseparated⟩ := List.isChain_cons.mp hseparated
    have ih := ih hseparated fun u hu => hinline u (List.mem_cons_of_mem t hu)
    by_cases hcode : t.kind = .codeInline
    · obtain ⟨us, handed, hts, -⟩ := ih true
      exact ⟨_, none, .code hn hcode hts, fun _ => rfl⟩
    obtain ⟨us, handed, hts, hhanded⟩ := ih false
    obtain rfl := hhanded rfl
    by_cases hblock : behind = true ∧ t.kind = .text ∧ ∃ inner rest block,
      d.BeginsWith t.content.toList inner rest block
    · obtain ⟨rfl, hk, inner, rest, block, hblock⟩ := hblock
      by_cases hrest : rest = []
      · subst hrest
        exact ⟨_, _, .dropped hk hn hblock (fun u hu hku => hnext u hu ⟨hk, hku⟩) hts, nofun⟩
      · rw [← String.toList_ofList (l := rest)] at hblock
        exact ⟨_, _, .shortened hk hn hblock (by simpa using hrest) hts, nofun⟩
    · exact ⟨_, none, .single hn hcode (fun hbehind hk inner rest block hbegins =>
        hblock ⟨hbehind, hk, inner, rest, block, hbegins⟩) hts, fun _ => rfl⟩
  | @pair o c body rest ho hc hk _ _ ihbody ihrest =>
    intro behind
    have hpair := (hinline o (by simp)).pair (by simp [ho])
    obtain ⟨hbodySeparated, hrestSeparated, -⟩ := List.isChain_append.mp hseparated
    obtain ⟨body', handed, hbody, hhanded⟩ :=
      ihbody hbodySeparated.tail (fun t ht => hinline t (by simp [ht])) false
    obtain rfl := hhanded rfl
    obtain ⟨rest', handed, hrest, -⟩ :=
      ihrest hrestSeparated.tail (fun t ht => hinline t (by simp [ht])) true
    exact ⟨_, none, .pair ho hc hk hpair hbody hrest, fun _ => rfl⟩

end HandsBack

/-! ### The block at the end -/

/-- The block at the end of inline content is cut off its last text, together with the white space
in front of the block.  A text of which nothing is left goes away. -/
inductive CutsEnd (d : Delimiters) : List Token → List Token → AttributeBlock → Prop
  | shortened {ts : List Token} {t : Token} {front inner : List Char} {block : AttributeBlock}
      (hk : t.kind = .text) (hblock : d.EndsWith t.content.toList front inner block)
      (hfront : ¬ Text.IsBlankText front) :
      CutsEnd d (ts ++ [t]) (ts ++ [t.withContent (String.ofList (Text.trimEnd front))]) block
  | dropped {ts : List Token} {t : Token} {front inner : List Char} {block : AttributeBlock}
      (hk : t.kind = .text) (hblock : d.EndsWith t.content.toList front inner block)
      (hfront : Text.IsBlankText front) : CutsEnd d (ts ++ [t]) ts block

section CutsEnd

variable {d : Delimiters} {ts rest : List Token} {block : AttributeBlock}

theorem stripChildren?_concat (ts : List Token) (t : Token) : stripChildren? d (ts ++ [t])
    = if t.kind = .text then (d.stripTrailing? t.content).map fun (text, block) =>
        (if text.isEmpty then ts else ts ++ [t.withContent text], block)
      else none := by
  by_cases hk : t.kind = .text
  · cases hstrip : d.stripTrailing? t.content <;>
      simp [stripChildren?, guard, hk, hstrip]
  · simp [stripChildren?, guard, hk]

/-- **A block is cut off the end exactly if the last text ends with one.** -/
theorem stripChildren?_eq_some_iff :
    stripChildren? d ts = some (rest, block) ↔ CutsEnd d ts rest block := by
  have hempty : ∀ front, (String.ofList (Text.trimEnd front)).isEmpty = true ↔
      Text.IsBlankText front := by simp [Text.trimEnd_eq_nil_iff]
  constructor
  · intro h
    rcases List.eq_nil_or_concat' ts with rfl | ⟨ts, t, rfl⟩
    · cases h
    rw [stripChildren?_concat] at h
    split at h
    · next hk =>
      obtain ⟨⟨text, block'⟩, hstrip, heq⟩ := Option.map_eq_some_iff.mp h
      obtain ⟨rfl, rfl⟩ := Prod.mk.inj heq
      obtain ⟨front, inner, hblock, rfl⟩ := Delimiters.stripTrailing?_eq_some_iff.mp hstrip
      split
      · next hfront => exact .dropped hk hblock ((hempty front).mp hfront)
      · next hfront => exact .shortened hk hblock fun hblank => hfront ((hempty front).mpr hblank)
    · cases h
  · intro h
    cases h with
    | @shortened ts t front _ _ hk hblock hfront =>
      have hstrip := Delimiters.stripTrailing?_eq_some_iff.mpr ⟨_, _, hblock, rfl⟩
      rw [stripChildren?_concat, if_pos hk, hstrip, Option.map_some]
      dsimp only
      rw [if_neg fun h => hfront ((hempty front).mp h)]
    | @dropped _ t front _ _ hk hblock hfront =>
      have hstrip := Delimiters.stripTrailing?_eq_some_iff.mpr ⟨_, _, hblock, rfl⟩
      rw [stripChildren?_concat, if_pos hk, hstrip, Option.map_some]
      dsimp only
      rw [if_pos ((hempty front).mpr hfront)]

end CutsEnd

end Folio
