import Folio.Proofs.Assembling
import Folio.Proofs.Rendering

/-!
# What the markup of a page is made of

As long as raw HTML is escaped and the only rules are those for terms, tokens become texts, line
ends and blanks, and the tags of a few elements.  Only headings and highlighted code need a closer
look: the name of a heading element has the level in it, and a highlighter writes what it likes.

## Main definitions

* `elementNames`, `inlineElementNames` — the names of those elements.
* `HoldsOfPieces`, `HoldsOfInlines` — the property holds of all such markup.

## Main results

* `Renderer.forall_inlinesFrom`, `Renderer.forall_blockPiece` — **such a property holds of the
  markup of all tokens.**
-/

namespace Folio

open Html (Markup)
open Plugin.Terms (renderReference)

/-- The names of the elements that tokens become, headings apart. -/
def elementNames : List String :=
  ["p", "blockquote", "ul", "ol", "li", "table", "thead", "tbody", "tr", "th", "td", "dl", "dt",
    "dd", "pre", "hr", "em", "strong", "s", "sup", "sub", "a", "code", "br", "input", "img", "dfn",
    "i"]

/-- The names of the elements that inline tokens become, definitions of terms apart. -/
def inlineElementNames : List String :=
  ["em", "strong", "s", "sup", "sub", "a", "code", "br", "input", "img", "i"]

/-- The property holds of texts, of line ends and blanks, and of the tags of the elements of these
names. -/
structure HoldsOfTags (names : List String) (P : Markup → Prop) : Prop where
  text : ∀ s, P (.text s)
  newline : P (.raw "\n")
  blank : P (.raw " ")
  startTag : ∀ name ∈ names, ∀ attrs, P (.startTag name attrs)
  endTag : ∀ name ∈ names, P (.endTag name)

/-- The property holds of all such markup. -/
abbrev HoldsOfPieces (P : Markup → Prop) : Prop := HoldsOfTags elementNames P

/-- The property holds of the markup of inline tokens that define no term. -/
abbrev HoldsOfInlines (P : Markup → Prop) : Prop := HoldsOfTags inlineElementNames P

theorem HoldsOfPieces.inlines {P : Markup → Prop} (hP : HoldsOfPieces P) : HoldsOfInlines P := by
  have hsubset : inlineElementNames ⊆ elementNames := by decide
  exact ⟨hP.text, hP.newline, hP.blank, fun name h => hP.startTag name (hsubset h),
    fun name h => hP.endTag name (hsubset h)⟩

theorem HoldsOfTags.tagMarkup {names : List String} {P : Markup → Prop} (hP : HoldsOfTags names P)
    {name : String} (hname : name ∈ names) (t : Token) : ∀ m ∈ tagMarkup name t, P m := by
  have hstart := hP.startTag name hname
  have hend := hP.endTag name hname
  unfold Folio.tagMarkup
  cases t.nesting <;> simp [hstart, hend, hP.text]

namespace HoldsOfInlines

variable {P : Markup → Prop} (hP : HoldsOfInlines P)

include hP

theorem imageMarkup (t : Token) (alt : String) : ∀ m ∈ imageMarkup t alt, P m :=
  List.forall_mem_singleton.mpr (hP.startTag "img" (by decide) _)

theorem breakMarkup : ∀ m ∈ breakMarkup, P m :=
  List.forall_mem_cons.mpr
    ⟨hP.startTag "br" (by decide) _, List.forall_mem_singleton.mpr hP.newline⟩

theorem taskMarkup (checked : Bool) : ∀ m ∈ taskMarkup checked, P m :=
  List.forall_mem_cons.mpr
    ⟨hP.startTag "input" (by decide) _, List.forall_mem_singleton.mpr hP.blank⟩

end HoldsOfInlines

namespace Renderer

variable {r : Renderer} {P : Markup → Prop}

theorem forall_rawMarkup {names : List String} (hP : HoldsOfTags names P)
    (hhtml : r.allowHtml = false) (s : String) : ∀ m ∈ r.rawMarkup s, P m := by
  rw [rawMarkup, hhtml]
  exact List.forall_mem_singleton.mpr (hP.text s)

/-- The property holds of the markup of an inline token, if it holds of raw HTML as it is
rendered. -/
theorem forall_inlineMarkup_of_raw (hP : HoldsOfInlines P) (t : Token)
    (hraw : t.kind = .htmlInline → ∀ m ∈ r.rawMarkup t.content, P m) :
    ∀ m ∈ r.inlineMarkup t, P m := by
  unfold inlineMarkup
  split
  all_goals try exact hP.tagMarkup (by decide) t
  · exact List.forall_mem_singleton.mpr (hP.text _)
  · have hstart := hP.startTag "code" (by decide)
    have hend := hP.endTag "code" (by decide)
    simp [hstart, hend, hP.text]
  · next hk => exact hraw hk
  · split
    · exact hP.breakMarkup
    · exact List.forall_mem_singleton.mpr hP.newline
  · exact hP.breakMarkup
  · exact hP.taskMarkup _
  · split
    · exact List.forall_mem_nil _
    · exact hP.imageMarkup _ _
  · exact List.forall_mem_nil _

theorem forall_inlineMarkup (hP : HoldsOfInlines P) (hhtml : r.allowHtml = false) (t : Token) :
    ∀ m ∈ r.inlineMarkup t, P m :=
  forall_inlineMarkup_of_raw hP t fun _ => forall_rawMarkup hP hhtml _

theorem forall_inlinesFrom_of_mem (hP : HoldsOfInlines P) {ts : List Token}
    (h : ∀ t ∈ ts, ∀ m ∈ r.inlinePiece t, P m) : ∀ skip, ∀ m ∈ r.inlinesFrom skip ts, P m := by
  induction ts with
  | nil =>
    intro skip
    rw [inlinesFrom_nil]
    exact List.forall_mem_nil _
  | cons t ts ih =>
    have ih := ih fun u hu => h u (List.mem_cons_of_mem t hu)
    intro skip
    cases skip with
    | succ skip =>
      rw [inlinesFrom_succ]
      exact ih skip
    | zero =>
      by_cases hi : t.kind = .image ∧ t.nesting = .opening
      · rw [inlinesFrom_image r hi.1 hi.2]
        exact List.forall_mem_append.mpr ⟨hP.imageMarkup _ _, ih _⟩
      · rw [inlinesFrom_cons r fun hk hn => hi ⟨hk, hn⟩]
        exact List.forall_mem_append.mpr ⟨h t List.mem_cons_self, ih 0⟩

theorem forall_customMarkup (hP : HoldsOfPieces P) (hr : r.HasBuiltinRules) (name : String)
    {t : Token} (h : ∀ m ∈ r.inlinesFrom 0 t.children, P m) : ∀ m ∈ r.customMarkup name t, P m := by
  rw [customMarkup_eq]
  rcases hr.lookup_cases name with hnone | ⟨-, hdef⟩ | ⟨-, href⟩
  · rw [hnone]
    dsimp only
    -- A kind without a rule is written as text, or as its children.
    split
    · exact List.forall_mem_singleton.mpr (hP.text _)
    · exact h
  · rw [hdef]
    have hend := List.forall_mem_singleton.mpr (hP.endTag "dfn" (by decide))
    exact List.forall_mem_cons.mpr
      ⟨hP.startTag "dfn" (by decide) _, List.forall_mem_append.mpr ⟨h, hend⟩⟩
  · rw [href]
    unfold renderReference
    dsimp only
    split
    · exact List.forall_mem_singleton.mpr (hP.startTag "i" (by decide) _)
    · exact List.forall_mem_singleton.mpr (hP.endTag "i" (by decide))
    · exact List.forall_mem_nil _

theorem forall_inlinePiece (hP : HoldsOfPieces P) (hhtml : r.allowHtml = false)
    (hr : r.HasBuiltinRules) (t : Token) : ∀ m ∈ r.inlinePiece t, P m := by
  induction t using Token.induction with
  | h t ih =>
    unfold inlinePiece
    split
    · exact forall_customMarkup hP hr _ (forall_inlinesFrom_of_mem hP.inlines ih 0)
    · exact forall_inlineMarkup hP.inlines hhtml t

/-- **The property holds of all inline markup.** -/
theorem forall_inlinesFrom (hP : HoldsOfPieces P) (hhtml : r.allowHtml = false)
    (hr : r.HasBuiltinRules) (skip : Nat) (ts : List Token) : ∀ m ∈ r.inlinesFrom skip ts, P m :=
  forall_inlinesFrom_of_mem hP.inlines (fun t _ => forall_inlinePiece hP hhtml hr t) skip

/-- The property holds of code, if it holds of what the highlighter writes. -/
theorem forall_codeMarkup (hP : HoldsOfPieces P)
    (hhighlighter : ∀ h ∈ r.highlighter, ∀ code lang html, h code lang = some html → P (.raw html))
    (t : Token) : ∀ m ∈ r.codeMarkup t, P m := by
  have hpre := hP.startTag "pre" (by decide)
  have hcode := hP.startTag "code" (by decide)
  have hpre' := hP.endTag "pre" (by decide)
  have hcode' := hP.endTag "code" (by decide)
  unfold codeMarkup
  cases (firstWord? t.info).map (resolveLang r.langs) with
  | none => simp [hpre, hcode, hpre', hcode', hP.text]
  | some lang =>
    simp only [Option.bind_some]
    cases hhtml : r.highlighter.bind fun h => h t.content lang with
    | none => simp [hpre, hcode, hpre', hcode', hP.text]
    | some html =>
      obtain ⟨h, hh, hhtml⟩ := Option.bind_eq_some_iff.mp hhtml
      have hraw := hhighlighter h hh t.content lang html hhtml
      simp [hpre, hcode, hpre', hcode', hraw]

/-- A heading becomes a tag, or nothing if it is hidden. -/
theorem blockPiece_heading (r : Renderer) {t : Token} {n : Nat} (hk : t.kind = .heading n) :
    r.blockPiece t = if t.hidden then []
      else if t.isOpening then [.startTag ("h" ++ toString n) (Html.attributes t.attrs)]
      else [.endTag ("h" ++ toString n)] := by
  rw [blockPiece, hk]
  dsimp only
  rw [blockMarkup, hk]

/-- **The property holds of the markup of every block** that is no heading, if it holds of what the
highlighter writes. -/
theorem forall_blockPiece (hP : HoldsOfPieces P) (hhtml : r.allowHtml = false)
    (hr : r.HasBuiltinRules)
    (hhighlighter : ∀ h ∈ r.highlighter, ∀ code lang html, h code lang = some html → P (.raw html))
    {t : Token} (ht : t.kind.isHeading = false) : ∀ m ∈ r.blockPiece t, P m := by
  have hinlines := forall_inlinesFrom hP hhtml hr 0 t.children
  unfold blockPiece
  split
  · exact hinlines
  · exact forall_customMarkup hP hr _ hinlines
  unfold blockMarkup
  split
  · exact List.forall_mem_nil _
  split
  all_goals try exact hP.tagMarkup (by decide) t
  · next n hk =>
    rw [hk] at ht
    cases ht
  · exact forall_codeMarkup hP hhighlighter t
  · exact forall_rawMarkup hP hhtml _
  · exact List.forall_mem_singleton.mpr (hP.startTag "hr" (by decide) _)
  · exact forall_inlineMarkup hP.inlines hhtml t

end Renderer

end Folio
