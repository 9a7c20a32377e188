import Folio.Proofs.ShapedAssembly

/-!
# The tokens of a run

As long as nothing is captured, an inline event adds one token to the run or none, and which one
it adds depends on the event alone.  So the tokens of a run are read off the events that stand
between its beginning and its end.

## Main definitions

* `Event.inlineToken?` — the token that an inline event adds.
* `runTokens` — the tokens of a run.

## Main results

* `Assembly.foldl_inlineOnly_of_capture` — inline events add their tokens if nothing is captured.
* `Assembly.foldl_run` — the events of a run become the tokens of the run.
-/

namespace Folio

namespace Markdown

/-- The token that the start of an inline container adds. -/
def Tag.mark? : Tag → Option Token
  | .emphasis => some (.mark .emphasis .opening)
  | .strong => some (.mark .strong .opening)
  | .strikethrough => some (.mark .strikethrough .opening)
  | .superscript => some (.mark .superscript .opening)
  | .subscript => some (.mark .subscript .opening)
  | .link target => some (Assembly.targetToken .link "href" target)
  | .image target => some (Assembly.targetToken .image "src" target)
  | _ => none

/-- The token that the end of an inline container adds. -/
def TagEnd.mark? : TagEnd → Option Token
  | .emphasis => some (.mark .emphasis .closing)
  | .strong => some (.mark .strong .closing)
  | .strikethrough => some (.mark .strikethrough .closing)
  | .superscript => some (.mark .superscript .closing)
  | .subscript => some (.mark .subscript .closing)
  | .link => some (.mark .link .closing)
  | .image => some (.mark .image .closing)
  | _ => none

/-- The token that an inline event adds to the run. -/
def Event.inlineToken? : Event → Option Token
  | .start tag => tag.mark?
  | .finish tag => tag.mark?
  | .text s | .inlineMath s | .displayMath s => some (.text s)
  | .code s => some (Assembly.inlineLeaf .codeInline s)
  | .html s | .inlineHtml s => some (Assembly.inlineLeaf .htmlInline s)
  | .softBreak => some (.mark .softBreak .single)
  | .hardBreak => some (.mark .hardBreak .single)
  | .taskMarker checked => some (.mark (.taskMarker checked) .single)
  | .footnoteReference _ | .rule => none

/-- The tokens of a run that holds these events. -/
def runTokens (es : List Event) : List Token :=
  ((es.filterMap Event.inlineToken?).foldl Assembly.addInline []).reverse

namespace Assembly

variable {a : Assembly}

/-! ### Nothing is captured -/

/-- A leaf adds its token if it has one, and does nothing otherwise. -/
theorem event_of_capture (h : a.capture = none) {e : Event} (he : e.isInlineLeaf = true) :
    a.event e = e.inlineToken?.toList.foldl pushInline a := by
  cases e with
  | text s | inlineMath s | displayMath s =>
    simp only [event, text, h]
    rfl
  | html s =>
    simp only [event, h]
    rfl
  | code _ | inlineHtml _ | softBreak | hardBreak | taskMarker _ | footnoteReference _ => rfl
  | start _ | finish _ | rule => simp [Event.isInlineLeaf] at he

theorem mark?_of_isInline {tag : Tag} (h : tag.isInline = true) : ∃ t u : Token,
    tag.mark? = some t ∧ tag.toEnd.mark? = some u ∧ (∀ a : Assembly, a.start tag = a.pushInline t) ∧
      ∀ a : Assembly, a.finishTag tag.toEnd = a.pushInline u := by
  cases tag with
  | emphasis | strong | strikethrough | superscript | subscript | link _ | image _ =>
    exact ⟨_, _, rfl, rfl, fun _ => rfl, fun _ => rfl⟩
  | _ => simp [Tag.isInline] at h

theorem capture_foldl_pushInline (ts : List Token) : ∀ a : Assembly,
    (ts.foldl pushInline a).capture = a.capture := by
  induction ts with
  | nil => exact fun _ => rfl
  | cons t ts ih => exact fun a => (ih (a.pushInline t)).trans (a.capture_pushInline t)

/-- **Inline events add their tokens**, one after the other, if nothing is captured. -/
theorem foldl_inlineOnly_of_capture {es : List Event} (hes : InlineOnly es) : ∀ {a : Assembly},
    a.capture = none → es.foldl event a = (es.filterMap Event.inlineToken?).foldl pushInline a := by
  induction hes with
  | nil => exact fun _ => rfl
  | @leaf e es he _ ih =>
    intro a h
    rw [List.foldl_cons, event_of_capture h he, ih (by rw [capture_foldl_pushInline, h]),
      ← List.foldl_append]
    cases ht : e.inlineToken? with
    | none => rw [List.filterMap_cons_none ht, Option.toList_none, List.nil_append]
    | some t => rw [List.filterMap_cons_some ht, Option.toList_some, List.singleton_append]
  | @span tag body es htag _ _ ihbody ih =>
    intro a h
    obtain ⟨t, u, ht, hu, hstart, hfinish⟩ := mark?_of_isInline htag
    have hbody := ihbody (a := a.pushInline t) (by rw [capture_pushInline, h])
    have hcapture : ((body.filterMap Event.inlineToken?).foldl pushInline (a.pushInline t)).capture
        = none := by rw [capture_foldl_pushInline, capture_pushInline, h]
    rw [foldl_within, hstart, hfinish, hbody, ih (by rw [capture_pushInline, hcapture])]
    simp [within, Event.inlineToken?, ht, hu]

theorem foldl_pushInline (ts : List Token) : ∀ {a : Assembly} {children : List Token}
    {implicit : Bool}, a.run = some ⟨children, implicit⟩ →
      ts.foldl pushInline a = { a with run := some ⟨ts.foldl addInline children, implicit⟩ } := by
  induction ts with
  | nil => exact fun {a children implicit} h => by rw [List.foldl_nil, List.foldl_nil, ← h]
  | cons t ts ih =>
    intro a children implicit h
    rw [List.foldl_cons, pushInline_of_some h, List.foldl_cons]
    exact ih (a := { a with run := some ⟨addInline children t, implicit⟩ }) rfl

/-- The events of a run become the tokens of the run. -/
theorem foldl_run {es : List Event} (hes : InlineOnly es) (hrun : a.run = some ⟨[], false⟩) :
    ∃ children capture,
      es.foldl event a = { a with run := some ⟨children.reverse, false⟩, capture } ∧
      (a.capture = none → capture = none ∧ children = runTokens es) := by
  by_cases hc : a.capture = none
  · refine ⟨runTokens es, none, ?_, fun _ => ⟨rfl, rfl⟩⟩
    rw [foldl_inlineOnly_of_capture hes hc, foldl_pushInline _ hrun, runTokens,
      List.reverse_reverse, ← hc]
  · obtain ⟨children, capture, -, hfold⟩ := foldl_inlineOnly hes hrun
    exact ⟨children.reverse, capture, by rw [List.reverse_reverse]; exact hfold,
      fun h => absurd h hc⟩

end Assembly

end Markdown

end Folio
