import Folio.Proofs.PageTags
import Folio.Proofs.Rendering

/-!
# Texts that cannot become markup

A token without its strings — its content, the words of its info and the values of its
attributes — decides on the characters of the page that can begin or end a tag or a value.  The
strings are written into texts and values only, and there they are escaped.

## Main definitions

* `Token.frame` — a token without its strings.
* `Markup.frame` — a piece of a page without its texts and values.
* `specials` — the characters of a page that can begin or end a tag or a value.

## Main results

* `specials_writeAll` — markup with one frame has the same special characters.
* `Renderer.frame_blocks` — the frame of the tokens decides on the frame of the markup.
* `Renderer.specials_render` — **no string of a document can add a tag or end a value.**
-/

namespace Folio

open Html (Markup isSpecial escape)
open Plugin.Terms (renderDefinition renderReference)

/-! ### Frames -/

mutual

/-- A token without its strings.  Of the info only counts whether there is a word in it. -/
def Token.frame : Token → Token
  | ⟨kind, nesting, level, attrs, _, info, children, block, hidden⟩ =>
    ⟨kind, nesting, level, attrs.map fun p => (p.1, ""), "",
      if (firstWord? info).isSome then "x" else "", Token.frames children, block, hidden⟩

/-- The frames of the tokens. -/
def Token.frames : List Token → List Token
  | [] => []
  | t :: ts => t.frame :: Token.frames ts

end

namespace Token

theorem frames_eq_map (ts : List Token) : frames ts = ts.map frame := by
  induction ts with
  | nil => rw [frames]; rfl
  | cons t ts ih => rw [frames, ih]; rfl

@[simp] theorem frame_kind (t : Token) : t.frame.kind = t.kind := by
  cases t; rw [frame]

@[simp] theorem frame_nesting (t : Token) : t.frame.nesting = t.nesting := by
  cases t; rw [frame]

@[simp] theorem frame_isOpening (t : Token) : t.frame.isOpening = t.isOpening := by
  rw [isOpening, frame_nesting, isOpening]

@[simp] theorem frame_isClosing (t : Token) : t.frame.isClosing = t.isClosing := by
  rw [isClosing, frame_nesting, isClosing]

@[simp] theorem frame_hidden (t : Token) : t.frame.hidden = t.hidden := by
  cases t; rw [frame]

@[simp] theorem frame_attrs (t : Token) : t.frame.attrs = t.attrs.map fun p => (p.1, "") := by
  cases t; rw [frame]

@[simp] theorem frame_children (t : Token) : t.frame.children = t.children.map frame := by
  cases t; rw [frame, frames_eq_map]

/-- The frame still tells whether there is a word in the info. -/
theorem isSome_firstWord?_frame (t : Token) :
    (firstWord? t.frame.info).isSome = (firstWord? t.info).isSome := by
  obtain ⟨kind, nesting, level, attrs, content, info, children, block, hidden⟩ := t
  rw [frame]
  dsimp only
  cases (firstWord? info).isSome <;> rfl

end Token

namespace Html

/-- An attribute without its value. -/
def Attribute.frame (a : Attribute) : Attribute := { a with value := a.value.map fun _ => "" }

/-- A piece of a page without its texts and values. -/
def Markup.frame : Markup → Markup
  | .startTag name attrs => .startTag name (attrs.map Attribute.frame)
  | .endTag name => .endTag name
  | .text _ => .text ""
  | .raw s => .raw s

/-- The characters of a page that can begin or end a tag or a value. -/
def specials (html : String) : List Char := html.toList.filter isSpecial

theorem specials_append (s t : String) : specials (s ++ t) = specials s ++ specials t := by
  rw [specials, String.toList_append, List.filter_append]
  rfl

/-- An escaped text has no special characters. -/
theorem specials_escape (s : String) : specials (escape s) = [] :=
  List.filter_eq_nil_iff.mpr fun c hc => by simp [not_special_of_mem_escape hc]

theorem specials_join {α : Type} {f g : α → String} {xs : List α}
    (h : ∀ x ∈ xs, specials (f x) = specials (g x)) :
    specials (String.join (xs.map f)) = specials (String.join (xs.map g)) := by
  induction xs with
  | nil => rfl
  | cons x xs ih =>
    rw [List.map_cons, List.map_cons, String.join_cons, String.join_cons, specials_append,
      specials_append, h x List.mem_cons_self, ih fun y hy => h y (List.mem_cons_of_mem x hy)]

theorem specials_attribute (a : Attribute) : specials a.frame.write = specials a.write := by
  obtain ⟨name, value⟩ := a
  cases value with
  | none => rfl
  | some value => simp only [Attribute.frame, Attribute.write, Option.map_some, specials_append,
      specials_escape]

/-- What is special of a piece is in its frame. -/
theorem specials_write (m : Markup) : specials m.frame.write = specials m.write := by
  cases m with
  | startTag name attrs =>
    have hattrs : specials (String.join ((attrs.map Attribute.frame).map Attribute.write))
        = specials (String.join (attrs.map Attribute.write)) := by
      rw [List.map_map]
      exact specials_join fun a _ => specials_attribute a
    simp only [Markup.frame, Markup.write, specials_append, hattrs]
  | text s => rw [Markup.frame, Markup.write, Markup.write, specials_escape, specials_escape]
  | endTag name => rfl
  | raw s => rfl

/-- **Markup with one frame has the same special characters.** -/
theorem specials_writeAll {xs ys : List Markup} (h : xs.map Markup.frame = ys.map Markup.frame) :
    specials (writeAll xs) = specials (writeAll ys) := by
  have hframe : ∀ page : List Markup,
      specials (writeAll page) = specials (writeAll (page.map Markup.frame)) := by
    intro page
    rw [writeAll, writeAll, List.map_map]
    exact specials_join fun m _ => (specials_write m).symm
  rw [hframe xs, h, ← hframe ys]

theorem map_frame_attributes (pairs : List (String × String)) :
    (attributes pairs).map Attribute.frame = pairs.map fun p => ⟨p.1, some ""⟩ := by
  rw [attributes, List.map_map]
  rfl

/-- The names of attributes are in the frame. -/
theorem map_frame_attributes_frame (t : Token) :
    (attributes t.frame.attrs).map Attribute.frame = (attributes t.attrs).map Attribute.frame := by
  rw [map_frame_attributes, map_frame_attributes, Token.frame_attrs, List.map_map]
  rfl

end Html

/-! ### The markup of a frame -/

section Frames

variable {f : Token → Token}
  (hf : ∀ t, (f t).kind = t.kind ∧ (f t).nesting = t.nesting)

include hf

/-- Counting looks at kinds and nestings only. -/
theorem closeAfter?_map (kind : Kind) (ts : List Token) : ∀ depth index,
    closeAfter? kind depth index (ts.map f) = closeAfter? kind depth index ts := by
  induction ts with
  | nil => exact fun _ _ => rfl
  | cons t ts ih =>
    intro depth index
    rw [List.map_cons, closeAfter?, closeAfter?, (hf t).1, (hf t).2]
    simp only [ih]

theorem findClose?_map (ts : List Token) (index : Nat) :
    findClose? (ts.map f) index = findClose? ts index := by
  unfold findClose?
  rw [List.getElem?_map]
  cases ts[index]? with
  | none => rfl
  | some t =>
    simp only [Option.map_some, Token.isOpening, (hf t).1, (hf t).2, ← List.map_drop,
      closeAfter?_map hf]
    rfl

end Frames

theorem imageLength_frame (t : Token) (ts : List Token) :
    Renderer.imageLength t.frame (ts.map Token.frame) = Renderer.imageLength t ts := by
  rw [Renderer.imageLength, ← List.map_cons,
    findClose?_map fun t => ⟨t.frame_kind, t.frame_nesting⟩, List.length_map]
  rfl

theorem frame_tagMarkup (name : String) (t : Token) :
    (tagMarkup name t.frame).map Markup.frame = (tagMarkup name t).map Markup.frame := by
  unfold tagMarkup
  rw [Token.frame_nesting]
  cases t.nesting <;>
    simp only [List.map_cons, List.map_nil, Markup.frame, Html.map_frame_attributes_frame]

/-- The alternative text of an image is a value, too. -/
theorem frame_imageMarkup (t : Token) (alt alt' : String) :
    (imageMarkup t.frame alt).map Markup.frame = (imageMarkup t alt').map Markup.frame := by
  -- Whether an attribute is `src` is seen from its name.
  have hothers : ((t.attrs.map fun p => (p.1, "")).filter fun p => p.1 != "src")
      = (t.attrs.filter fun p => p.1 != "src").map fun p => (p.1, "") := by
    rw [List.filter_map]
    rfl
  simp only [imageMarkup, List.map_cons, List.map_nil, Markup.frame, Html.map_frame_attributes,
    Token.frame_attrs, hothers, List.map_map]
  rfl

namespace Renderer

variable {r : Renderer}

theorem frame_rawMarkup (hr : r.IsBuiltin) (s s' : String) :
    (r.rawMarkup s).map Markup.frame = (r.rawMarkup s').map Markup.frame := by
  rw [rawMarkup, rawMarkup, hr.html]
  rfl

theorem frame_codeMarkup (hr : r.IsBuiltin) (t : Token) :
    (r.codeMarkup t.frame).map Markup.frame = (r.codeMarkup t).map Markup.frame := by
  have hword := t.isSome_firstWord?_frame
  unfold codeMarkup
  rw [hr.highlighter]
  -- The class names a language if there is a word, whichever it is.
  cases h : firstWord? t.info <;> cases h' : firstWord? t.frame.info <;> rw [h, h'] at hword
  · simp [Markup.frame, Html.map_frame_attributes]
  · simp at hword
  · simp at hword
  · simp [Markup.frame, Html.Attribute.frame, Html.map_frame_attributes]

theorem frame_inlineMarkup (hr : r.IsBuiltin) (t : Token) :
    (r.inlineMarkup t.frame).map Markup.frame = (r.inlineMarkup t).map Markup.frame := by
  unfold inlineMarkup
  rw [Token.frame_kind]
  cases t.kind
  case text => rfl
  case codeInline =>
    simp only [List.map_cons, List.map_nil, Markup.frame, Html.map_frame_attributes_frame]
  case htmlInline => exact frame_rawMarkup hr _ _
  case image =>
    simp only [Token.frame_isClosing]
    by_cases hc : t.isClosing = true
    · rw [if_pos hc, if_pos hc]
    · rw [if_neg hc, if_neg hc]
      exact frame_imageMarkup t _ _
  all_goals first | rfl | exact frame_tagMarkup _ t

theorem frame_blockMarkup (hr : r.IsBuiltin) (t : Token) :
    (r.blockMarkup t.frame).map Markup.frame = (r.blockMarkup t).map Markup.frame := by
  unfold blockMarkup
  rw [Token.frame_hidden, Token.frame_kind]
  split
  · rfl
  cases t.kind
  case heading n =>
    simp only [Token.frame_isOpening]
    by_cases ho : t.isOpening = true
    · rw [if_pos ho, if_pos ho]
      simp only [List.map_cons, List.map_nil, Markup.frame, Html.map_frame_attributes_frame]
    · rw [if_neg ho, if_neg ho]
  case fence => exact frame_codeMarkup hr t
  case htmlBlock => exact frame_rawMarkup hr _ _
  case rule =>
    simp only [List.map_cons, List.map_nil, Markup.frame, Html.map_frame_attributes_frame]
  all_goals first | exact frame_tagMarkup _ t | exact frame_inlineMarkup hr t

/-- The rules for terms write the key into values only. -/
theorem frame_customMarkup (hr : r.IsBuiltin) (name : String) {t : Token}
    (h : (r.inlinesFrom 0 (t.children.map Token.frame)).map Markup.frame
      = (r.inlinesFrom 0 t.children).map Markup.frame) :
    (r.customMarkup name t.frame).map Markup.frame
      = (r.customMarkup name t).map Markup.frame := by
  rw [customMarkup_eq, customMarkup_eq, Token.frame_children]
  rcases hr.lookup_cases name with hnone | ⟨-, hdef⟩ | ⟨-, href⟩
  · rw [hnone]
    dsimp only
    rw [List.isEmpty_map]
    split
    · rfl
    · exact h
  · -- The key stands in the id, and the children are rendered between the tags.
    rw [hdef]
    simp only [renderDefinition, List.map_cons, List.map_append, List.map_nil, h, Markup.frame,
      Html.map_frame_attributes]
  · rw [href]
    simp only [renderReference, Token.frame_nesting]
    cases t.nesting <;> simp [Markup.frame, Html.map_frame_attributes]

theorem frame_inlinesFrom {ts : List Token}
    (h : ∀ t ∈ ts, (r.inlinePiece t.frame).map Markup.frame = (r.inlinePiece t).map Markup.frame) :
    ∀ skip, (r.inlinesFrom skip (ts.map Token.frame)).map Markup.frame
      = (r.inlinesFrom skip ts).map Markup.frame := by
  induction ts with
  | nil => exact fun _ => rfl
  | cons t ts ih =>
    have ih := ih fun u hu => h u (List.mem_cons_of_mem t hu)
    intro skip
    rw [List.map_cons]
    cases skip with
    | succ skip =>
      rw [inlinesFrom_succ, inlinesFrom_succ]
      exact ih skip
    | zero =>
      by_cases hi : t.kind = .image ∧ t.nesting = .opening
      · rw [inlinesFrom_image r (by rw [t.frame_kind, hi.1]) (by rw [t.frame_nesting, hi.2]),
          inlinesFrom_image r hi.1 hi.2, List.map_append, List.map_append, imageLength_frame, ih]
        congr 1
        exact frame_imageMarkup t _ _
      · have hne : t.kind = .image → t.nesting ≠ .opening := fun hk hn => hi ⟨hk, hn⟩
        rw [inlinesFrom_cons r (by rwa [t.frame_kind, t.frame_nesting]), inlinesFrom_cons r hne,
          List.map_append, List.map_append, ih, h t List.mem_cons_self]

theorem frame_inlinePiece (hr : r.IsBuiltin) (t : Token) :
    (r.inlinePiece t.frame).map Markup.frame = (r.inlinePiece t).map Markup.frame := by
  induction t using Token.induction with
  | h t ih =>
    unfold inlinePiece
    rw [Token.frame_kind]
    split
    · exact frame_customMarkup hr _ (frame_inlinesFrom ih 0)
    · exact frame_inlineMarkup hr t

theorem frame_inlines (hr : r.IsBuiltin) (ts : List Token) :
    (r.inlinesFrom 0 (ts.map Token.frame)).map Markup.frame
      = (r.inlinesFrom 0 ts).map Markup.frame :=
  frame_inlinesFrom (fun t _ => frame_inlinePiece hr t) 0

/-- **The frame of the tokens decides on the frame of the markup.** -/
theorem frame_blocks (hr : r.IsBuiltin) (ts : List Token) :
    (r.blocks (ts.map Token.frame)).map Markup.frame = (r.blocks ts).map Markup.frame := by
  have hpiece : ∀ t, (r.blockPiece t.frame).map Markup.frame
      = (r.blockPiece t).map Markup.frame := by
    intro t
    unfold blockPiece
    rw [Token.frame_kind]
    split
    · rw [Token.frame_children]
      exact frame_inlines hr t.children
    · exact frame_customMarkup hr _ (frame_inlines hr t.children)
    · exact frame_blockMarkup hr t
  rw [blocks_eq_flatMap, blocks_eq_flatMap, List.flatMap_map, List.map_flatMap, List.map_flatMap]
  exact List.flatMap_congr fun t _ => hpiece t

/-- **No string of a document can add a tag or end a value**: tokens that differ in their contents,
in the words of their infos and in the values of their attributes only are rendered with the same
special characters, whatever the tokens are. -/
theorem specials_render (hr : r.IsBuiltin) {ts us : List Token}
    (h : ts.map Token.frame = us.map Token.frame) :
    Html.specials (r.render ts) = Html.specials (r.render us) ∧
      Html.specials (r.renderInline ts) = Html.specials (r.renderInline us) := by
  constructor
  · refine Html.specials_writeAll ?_
    rw [← frame_blocks hr ts, h, frame_blocks hr us]
  · refine Html.specials_writeAll ?_
    rw [inlines, inlines, ← frame_inlines hr ts, h, frame_inlines hr us]

/-- A quote in a key and a tag in a text, with the rules for terms. -/
theorem specials_render_quote :
    Html.specials (({ rules := Plugin.terms.renderRules } : Renderer).render
        [.inlineRun [Plugin.Terms.referenceOpening "\"><b>", .text "<script>"] 0])
      = Html.specials (({ rules := Plugin.terms.renderRules } : Renderer).render
        [.inlineRun [Plugin.Terms.referenceOpening "a", .text "b"] 0]) := by
  refine (specials_render ⟨rfl, rfl, fun _ => .inr rfl⟩ ?_).1
  rfl

end Renderer

end Folio
