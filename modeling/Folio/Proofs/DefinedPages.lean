import Folio.Proofs.DefinitionLines
import Folio.Proofs.TermReferences

/-!
# The page of one definition

A line `[*key]: text` that Markdown takes for a paragraph goes through the default plugins as three
tokens: no attribute block stands at its end, no heading is in it, and the plugin for terms makes
one definition of it, which is all that the page holds.  A line that Markdown takes for a link
definition never comes so far.

## Main definitions

* `definitionHtml` — the HTML of a definition.
* `Options.RendersTo` — a text is rendered to this HTML, and nothing is reported.

## Main results

* `Options.rendersTo_definitionLine` — **the page of a line that defines a key.**
* `Options.not_rendersTo_definitionLine` — a definition of one word is lost.
-/

namespace Folio

open Html (Markup)
open Markdown (IsWord assemble blockEvents definitionLine definitionTail spaced)
open Plugin.Terms (definitionKind definitionToken extract)

/-- The HTML of a definition whose key and text have nothing to escape. -/
def definitionHtml (key : List Char) (words : List (List Char)) : String :=
  "<dfn class=\"term-definition\" id=\"term-" ++ String.ofList key ++ "\">"
    ++ String.ofList (spaced words) ++ "</dfn>"

/-- The text of a line that defines a key. -/
def definitionText (key : List Char) (words : List (List Char)) : Token :=
  .text (String.ofList (definitionLine key words))

/-- The tokens of a line that is a paragraph. -/
def definitionParagraph (key : List Char) (words : List (List Char)) : List Token :=
  [.opening .paragraph 0, .inlineRun [definitionText key words] 1, .closing .paragraph 0]

/-! ### The tokens -/

section Tokens

variable {key : List Char} {words : List (List Char)} (hkey : IsWord key) (hne : words ≠ [])
  (hwords : ∀ w ∈ words, IsWord w)

include hkey hne hwords

/-- The texts of the paragraph are put together. -/
theorem assemble_definitionLine :
    assemble (blockEvents (Markdown.readDocument (definitionLine key words)))
      = (if words.length = 1 ∧ key.length ≤ 998 then []
          else definitionParagraph key words, []) := by
  have htext : definitionText key words = .text ("[" ++ "*" ++ String.ofList key
      ++ String.ofList (']' :: ':' :: ' ' :: spaced words)) := by
    have hline : String.ofList (definitionLine key words) = "[" ++ "*" ++ String.ofList key
        ++ String.ofList (']' :: ':' :: ' ' :: spaced words) :=
      String.toList_inj.mp (by simp [definitionLine, definitionTail])
    rw [definitionText, hline]
  rw [Markdown.readDocument_definitionLine hkey hne hwords, definitionParagraph, htext]
  split <;> rfl

omit hkey in
/-- The line ends with a letter, so no attribute block stands at its end. -/
theorem stripTrailing?_definitionLine :
    ({} : Delimiters).stripTrailing? (String.ofList (definitionLine key words)) = none := by
  obtain ⟨front, last, hlast, hletter⟩ := Markdown.exists_spaced_eq_concat hne hwords
  obtain ⟨cs, hline⟩ : ∃ cs, definitionLine key words = cs ++ [last] :=
    ⟨'[' :: '*' :: (key ++ ']' :: ':' :: ' ' :: front), by
      simp [definitionLine, definitionTail, hlast]⟩
  have hblank := Markdown.isBlank_of_isAlpha hletter
  have htrim : Text.trimEnd (cs ++ [last]) = cs ++ [last] := by
    rw [Text.trimEnd, List.reverse_append, List.reverse_singleton, List.singleton_append,
      List.dropWhile_cons_of_neg (by simp [hblank])]
    simp
  have hend : Text.dropEnd? ['\x7d'] (cs ++ [last]) = none := by
    by_contra hsome
    obtain ⟨before, hbefore⟩ := Option.ne_none_iff_exists'.mp hsome
    have heq := Text.dropEnd?_eq_some_iff.mp hbefore
    obtain rfl := List.singleton_inj.mp (List.append_inj_right' heq rfl)
    exact absurd hletter (by decide)
  have htext : (String.ofList (definitionLine key words)).toList = cs ++ [last] :=
    String.toList_ofList.trans hline
  have hright : ({} : Delimiters).right.toList = ['\x7d'] := rfl
  rw [Delimiters.stripTrailing?, htext, htrim, hright, hend]
  rfl

omit hkey in
/-- The plugin for attributes and the one for headings have nothing to do. -/
theorem revise_definitionParagraph :
    Plugin.Anchors.revise (Plugin.Attributes.revise {} (definitionParagraph key words))
      = definitionParagraph key words := by
  have hstrip : Plugin.Attributes.stripChildren? {} [definitionText key words] = none := by
    have htext : ({} : Delimiters).stripTrailing? (String.ofList (definitionLine key words))
        = none := stripTrailing?_definitionLine hne hwords
    simp [Plugin.Attributes.stripChildren?, guard, definitionText, Token.text, htext]
  let run := Token.inlineRun [definitionText key words] 1
  have hblock : Plugin.Attributes.toBlock? {}
      { run with children := Plugin.Attributes.toElements {} run.children }
      [.opening .paragraph 0] = none := Plugin.Attributes.toBlock?_of_none _ hstrip _
  rw [Plugin.Attributes.revise, definitionParagraph,
    Plugin.Attributes.reviseAfter_of_ne {} (t := .opening .paragraph 0) nofun nofun,
    Plugin.Attributes.reviseAfter_inline {} rfl, hblock]
  dsimp only
  rw [Plugin.Attributes.reviseAfter_of_ne {} (t := .closing .paragraph 0) nofun nofun]
  rfl

/-- The three tokens make one definition. -/
theorem extract_definitionParagraph : extract (definitionParagraph key words)
    = [definitionToken (String.ofList key) 0 [.text (String.ofList (spaced words))]] := by
  have hchars : ∀ c ∈ key, Plugin.Terms.isKeyChar c = true := fun c hc => by
    have halpha := hkey.letters c hc
    have hascii := Markdown.toNat_lt_of_isAlpha halpha
    simp [Plugin.Terms.isKeyChar, Text.isWordChar, hascii, Char.isAlphanum, halpha]
  obtain ⟨c, cs, hcons, hc⟩ := Markdown.exists_spaced_eq_cons hne hwords
  have hdrop : (' ' :: spaced words).dropWhile (fun c => c == ' ' || c == '\t') = spaced words := by
    rw [hcons]
    simp [Markdown.ne_of_isAlpha hc (d := ' ') (by decide),
      Markdown.ne_of_isAlpha hc (d := '\t') (by decide)]
  have hmark : Plugin.Terms.definitionMark? (definitionText key words).content.toList
      = some (key, spaced words) := by
    rw [definitionText, Token.text, String.toList_ofList, definitionLine, definitionTail,
      Plugin.Terms.definitionMark?_of_mark hkey.nonempty hchars, hdrop]
  have hempty : (spaced words).isEmpty = false := by rw [hcons]; rfl
  refine Plugin.Terms.extract_of_some (Plugin.Terms.definition?_eq_some_iff.mpr
    ⟨rfl, rfl, rfl, definitionText key words, [], key, spaced words, rfl, rfl, hmark, ?_⟩) []
  rw [hempty]
  rfl

end Tokens

/-! ### The page -/

theorem escape_eq_self {s : String} (h : ∀ c ∈ s.toList, Html.escapeChar c = [c]) :
    Html.escape s = s := by
  rw [Html.escape, Html.escapeChars, List.flatMap_congr h, List.flatMap_singleton',
    String.ofList_toList]

theorem escapeChar_of_isAlpha {c : Char} (hc : c.isAlpha = true) : Html.escapeChar c = [c] := by
  have hne : ∀ d ∈ ['&', '<', '>', '\x22', '\x27'], c ≠ d := fun d hd =>
    have hnone : ∀ d ∈ ['&', '<', '>', '\x22', '\x27'], d.isAlpha = false := by simp
    Markdown.ne_of_isAlpha hc (hnone d hd)
  simp only [List.forall_mem_cons] at hne
  simp [Html.escapeChar, hne]

/-- A definition of one text is rendered as one element. -/
theorem Renderer.blockPiece_definition {r : Renderer}
    (hrule : r.rules.lookup "term_definition" = some Plugin.Terms.renderDefinition)
    (key text : String) (level : Nat) : r.blockPiece (definitionToken key level [.text text])
      = [.startTag "dfn" (Html.attributes (definitionAttributes key)), .text text,
          .endTag "dfn"] := by
  have hkind : (definitionToken key level [.text text]).kind = .custom "term_definition" := rfl
  have hinlines : r.inlinesFrom 0 [.text text] = [.text text] := by
    rw [Renderer.inlinesFrom_cons r (fun hk => by cases hk), Renderer.inlinesFrom_nil]
    rfl
  rw [Renderer.blockPiece, hkind]
  dsimp only
  rw [Renderer.customMarkup_eq, hrule]
  simp only [Plugin.Terms.renderDefinition, definitionToken, hinlines]
  rfl

/-- The HTML of the element, if nothing in it is to be escaped. -/
theorem writeAll_definition {key text : String} (hkey : ∀ c ∈ key.toList, Html.escapeChar c = [c])
    (htext : ∀ c ∈ text.toList, Html.escapeChar c = [c]) :
    Html.writeAll [.startTag "dfn" (Html.attributes (definitionAttributes key)), .text text,
        .endTag "dfn"]
      = "<dfn class=\"term-definition\" id=\"term-" ++ key ++ "\">" ++ text ++ "</dfn>" := by
  have hid : Html.escape ("term-" ++ key) = "term-" ++ key := by
    have hterm : ∀ c ∈ "term-".toList, Html.escapeChar c = [c] := by simp [Html.escapeChar]
    refine escape_eq_self fun c hc => ?_
    rw [String.toList_append] at hc
    exact (List.mem_append.mp hc).elim (hterm c) (hkey c)
  have hclass : (⟨"class", some "term-definition"⟩ : Html.Attribute).write
      = " class=\"term-definition\"" := by decide +kernel
  have hname : Html.escape "id" = "id" := by decide
  have hwrite : Html.writeAll [.startTag "dfn" (Html.attributes (definitionAttributes key)),
      .text text, .endTag "dfn"]
      = "<dfn" ++ (" class=\"term-definition\"" ++ (" id=\"" ++ ("term-" ++ (key ++ ("\">"
        ++ (text ++ "</dfn>")))))) := by
    simp [Html.writeAll, Html.attributes, definitionAttributes, Markup.write, hclass,
      Html.Attribute.write.eq_1, hid, hname, escape_eq_self htext, String.append_assoc]
  have hstart : "<dfn class=\"term-definition\" id=\"term-"
      = "<dfn" ++ (" class=\"term-definition\"" ++ (" id=\"" ++ "term-")) := by decide +kernel
  rw [hwrite, hstart]
  simp only [String.append_assoc]

/-! ### The document -/

theorem filter_not_append_filter_singleton {α : Type} (p : α → Bool) (x : α) :
    ([x].filter fun y => !p y) ++ [x].filter p = [x] := by
  cases hp : p x <;> simp [hp]

namespace Options

variable {o : Options} {key : List Char} {words : List (List Char)}

section Line

variable (ho : o.plugins = Plugin.defaults) (hdelimiters : o.delimiters = {})
  (hkey : IsWord key) (hne : words ≠ []) (hwords : ∀ w ∈ words, IsWord w)

include hdelimiters hkey hne hwords

theorem anchored_definitionLine :
    o.anchored (Engine.readEvents (String.ofList (definitionLine key words)))
      = if words.length = 1 ∧ key.length ≤ 998 then [] else definitionParagraph key words := by
  rw [Options.anchored, Engine.readEvents, String.toList_ofList,
    assemble_definitionLine hkey hne hwords, hdelimiters]
  split
  · rfl
  · exact revise_definitionParagraph hne hwords

include ho

/-- The plugin for terms makes one definition of the line. -/
theorem fst_parseEvents_definitionLine :
    (o.engine.parseEvents (Engine.readEvents (String.ofList (definitionLine key words))) {}).1
      = if words.length = 1 ∧ key.length ≤ 998 then []
        else [definitionToken (String.ofList key) 0 [.text (String.ofList (spaced words))]] := by
  rw [fst_engine_parseEvents_defaults ho, anchored_definitionLine hdelimiters hkey hne hwords]
  split
  · rfl
  · rw [extract_definitionParagraph hkey hne hwords]
    rfl

/-- A single definition repeats no key, and no link refers to another. -/
theorem log_parseEvents_definitionLine :
    (o.engine.parseEvents (Engine.readEvents (String.ofList (definitionLine key words))) {}).2.log
      = [] := by
  rw [log_engine_parseEvents_defaults ho, anchored_definitionLine hdelimiters hkey hne hwords]
  split
  · rfl
  · have hblocks : ∀ t ∈ definitionParagraph key words, t.kind ≠ definitionKind := by
      simp only [definitionParagraph, List.forall_mem_cons]
      exact ⟨nofun, nofun, nofun, List.forall_mem_nil _⟩
    have hkeys := Plugin.Terms.extractedKeys_eq hblocks
    have hextract := extract_definitionParagraph hkey hne hwords
    rw [Plugin.Terms.revise, hkeys, hextract]
    rfl

end Line

end Options

/-- The page of a text consists of this HTML, and nothing is reported. -/
def Options.RendersTo (o : Options) (input html : String) : Prop :=
  ∃ page, (o.pipeline.render input).1 = .ok page ∧ page.html = html ∧
    (o.pipeline.render input).2.log = []

/-- **The page of a line that defines a key**: the definition, unless Markdown takes the line for
a link definition, and then nothing. -/
theorem Options.rendersTo_definitionLine (o : Options) (ho : o.plugins = Plugin.defaults)
    (hdelimiters : o.delimiters = {}) (hsanitize : o.sanitize = none)
    (htitle : o.extractTitle = true → o.titleStrategy = Folio.extractTitle)
    {key : List Char} {words : List (List Char)} (hkey : IsWord key) (hne : words ≠ [])
    (hwords : ∀ w ∈ words, IsWord w) :
    o.RendersTo (String.ofList (definitionLine key words))
      (if words.length = 1 ∧ key.length ≤ 998 then "" else definitionHtml key words) := by
  have hnested : Markdown.ProperlyNested
      (Engine.readEvents (String.ofList (definitionLine key words))) :=
    (Markdown.shaped_blockEvents _).properlyNested
  have hbuiltins := Options.usesBuiltins_of_defaults ho htitle
  obtain ⟨hpage, -, hdeferred⟩ := pipeline_parseEvents_spec hbuiltins hnested
  have hparsed := Options.fst_parseEvents_definitionLine ho hdelimiters hkey hne hwords
  have hkept := Options.keepsTokens hbuiltins hnested
  have hsublist := hkept.sublist
  have hfinish := Options.finish_eq_pageOf hbuiltins hsanitize hpage hdeferred
  refine ⟨_, congrArg Prod.fst hfinish, ?_, (Pipeline.log_renderEvents ho _).trans
    (Options.log_parseEvents_definitionLine ho hdelimiters hkey hne hwords)⟩
  rw [Options.html_pageOf]
  split at hparsed
  · next hlost =>
    rw [hparsed, List.sublist_nil] at hsublist
    rw [hsublist, if_pos hlost]
    rfl
  · next hshown =>
    -- Taking out a title leaves the definition.
    have hmem := hkept.definitions _ (hparsed ▸ List.mem_singleton_self _) rfl
    rw [hparsed] at hsublist
    rw [hsublist.eq_of_length_le (List.length_pos_of_mem hmem), filter_not_append_filter_singleton,
      if_neg hshown, Renderer.render, Renderer.blocks_eq_flatMap, List.flatMap_singleton,
      Renderer.blockPiece_definition (Options.lookup_definition ho)]
    refine writeAll_definition (fun c hc => ?_) fun c hc => ?_
    · exact escapeChar_of_isAlpha (hkey.letters c (by simpa using hc))
    · rcases Markdown.isAlpha_or_of_mem_spaced hwords c (by simpa using hc) with hc | rfl
      · exact escapeChar_of_isAlpha hc
      · rfl

/-- A text of two words. -/
theorem Options.rendersTo_definitionLine_api :
    String.ofList (definitionLine "api".toList ["some".toList, "text".toList])
      = "[*api]: some text" ∧
    ({} : Options).RendersTo
      (String.ofList (definitionLine "api".toList ["some".toList, "text".toList]))
      (definitionHtml "api".toList ["some".toList, "text".toList]) :=
  ⟨by decide, Options.rendersTo_definitionLine {} rfl rfl rfl (fun _ => rfl)
    (show IsWord "api".toList by decide) (by decide)
    (show ∀ w ∈ ["some".toList, "text".toList], IsWord w by decide)⟩

/-- A definition of one word is taken for the definition of a link, and lost. -/
theorem Options.not_rendersTo_definitionLine :
    (IsWord ['a'] ∧ IsWord ['b'] ∧ String.ofList (definitionLine ['a'] [['b']]) = "[*a]: b") ∧
    (({} : Options).pipeline.render "[*a]: b").1.toOption.map Rendered.html = some "" ∧
    ¬({} : Options).RendersTo "[*a]: b" (definitionHtml ['a'] [['b']]) := by
  have hhtml : (({} : Options).pipeline.render "[*a]: b").1.toOption.map Rendered.html
      = some "" := by decide +kernel
  refine ⟨by decide, hhtml, ?_⟩
  rintro ⟨page, hpage, hdefinition, -⟩
  rw [hpage] at hhtml
  have hempty : definitionHtml ['a'] [['b']] = "" := hdefinition.symm.trans (Option.some.inj hhtml)
  exact absurd hempty (by decide)

end Folio
