import Folio.Config.Options
import Folio.Config.Reading
import Folio.Proofs.LowerCase
import Folio.Proofs.RenderRules
import Folio.Proofs.TagTexts
import Mathlib.Data.List.Nodup

/-!
# The languages of code blocks

The first word behind the fence of a code block names its language.  A configuration can let other
names stand for a language.  The word of a code block is looked up in lower case, while the names
are kept as the configuration writes them, so a name is found exactly if it is written in lower
case.  A code block of any other name is shown with the name itself in lower case: no second name of
the table could be meant, if the names stay distinct in lower case.

## Main definitions

* `BeginsWithWord`, `Token.IsFenceOf` — a code block of a name, in any case.
* `codeBlockHtml`, `Engine.ShowsFence` — a code block is shown in a language, wherever it stands.
* `Engine.WorksInAnyCase`, `Engine.ShowsAlias` — the language that all code blocks of a name are
  shown in, and what they are shown with.

## Main results

* `resolveLang_eq` — the language that a name stands for.
* `Config.ne_empty_of_check` — a configuration that keeps the rules has no empty names.
* `Config.showsAlias_options` — **a name works in any case exactly if it is written in lower case.**
* `Config.not_worksInAnyCase` — a name that no code block can use.
-/

namespace Folio

open Linkify (lowerCase)
open Text (IsBlankText StopsAt isBlank)

/-! ### Words -/

/-- The text begins with a word, if blanks before it do not count. -/
def BeginsWithWord (s word : String) : Prop :=
  ∃ lead rest, s.toList = lead ++ (word.toList ++ rest) ∧ IsBlankText lead ∧ word ≠ "" ∧
    (∀ c ∈ word.toList, isBlank c = false) ∧ StopsAt isBlank rest

theorem firstWord?_eq_some_iff {s word : String} :
    firstWord? s = some word ↔ BeginsWithWord s word := by
  unfold firstWord?
  constructor
  · intro h
    obtain ⟨lead, hlead, hblank⟩ := Text.exists_trimStart s.toList
    split at h
    · cases h
    · next hne =>
      obtain rfl := Option.some.inj h
      refine ⟨lead, (Text.trimStart s.toList).dropWhile fun c => !isBlank c, ?_, hblank, ?_, ?_, ?_⟩
      · rw [String.toList_ofList, List.takeWhile_append_dropWhile, ← hlead]
      · exact fun hnil => hne (by simpa using congrArg String.toList hnil)
      · intro c hc
        rw [String.toList_ofList] at hc
        simpa using List.mem_takeWhile_imp hc
      · exact Text.stopsAt_dropWhile (by simp) _
  · rintro ⟨lead, rest, heq, hlead, hne, hword, hrest⟩
    have hstop : StopsAt (fun c => !isBlank c) (word.toList ++ rest) := by
      cases hchars : word.toList with
      | nil => exact absurd (String.toList_eq_nil_iff.mp hchars) hne
      | cons c cs => exact Text.stopsAt_cons.mpr (by simp [hword c (hchars ▸ List.mem_cons_self)])
    have htrim : Text.trimStart s.toList = word.toList ++ rest := by
      rw [heq, Text.trimStart, Text.dropWhile_append hlead (by simp) hstop]
    have htake : (Text.trimStart s.toList).takeWhile (fun c => !isBlank c) = word.toList := by
      rw [htrim, Text.takeWhile_append (by simpa using hword) (by simp) hrest]
    rw [htake]
    split
    · next hnil => exact absurd (String.toList_eq_nil_iff.mp hnil) hne
    · rw [String.ofList_toList]

theorem isBlank_of_all {word : String} (h : word.toList.all (fun c => !isBlank c) = true) :
    ∀ c ∈ word.toList, isBlank c = false := by
  intro c hc
  simpa using List.all_eq_true.mp h c hc

/-- A word by itself begins with itself. -/
theorem beginsWithWord_self {word : String} (hne : word ≠ "")
    (hword : ∀ c ∈ word.toList, isBlank c = false) : BeginsWithWord word word :=
  ⟨[], [], by simp, Text.isBlankText_nil, hne, hword, Text.stopsAt_nil _⟩

theorem lowerCase_lowerCase (s : String) : lowerCase (lowerCase s) = lowerCase s := by
  rw [lowerCase, lowerCase, String.toList_ofList, Text.lowerText_lowerText]

/-! ### Tables -/

section Tables

variable {langs : List (String × String)} {name lang : String}

/-- **The language that a name stands for**, however it is written: a name of the table is found if
it is in lower case, and of all others the lower case stays. -/
theorem resolveLang_eq (hdistinct : (langs.map fun p => lowerCase p.1).Nodup)
    (hmem : (name, lang) ∈ langs) {word : String} (hword : lowerCase word = lowerCase name) :
    resolveLang langs word = if lowerCase name = name then lang else lowerCase name := by
  -- Of two entries with one name in lower case both are the same.
  have hsame : ∀ p ∈ langs, lowerCase p.1 = lowerCase name → p = (name, lang) := fun p hp h =>
    List.inj_on_of_nodup_map hdistinct hp hmem h
  have hresolve : resolveLang langs word = (langs.lookup (lowerCase word)).getD (lowerCase word) :=
    rfl
  rw [hresolve, hword]
  cases hlookup : langs.lookup (lowerCase name) with
  | none =>
    have hnone := List.lookup_eq_none_iff.mp hlookup (name, lang) hmem
    rw [if_neg fun h => by simp [h] at hnone]
    rfl
  | some l =>
    obtain ⟨before, after, heq, -⟩ := List.lookup_eq_some_iff.mp hlookup
    have hfound := hsame (lowerCase name, l) (by simp [heq]) (lowerCase_lowerCase name)
    obtain ⟨hname, rfl⟩ := Prod.mk.inj hfound
    rw [if_pos hname]
    rfl

end Tables

/-! ### Code blocks -/

/-- The HTML of a code block in a language that no highlighter knows. -/
def codeBlockHtml (t : Token) (lang : String) : String :=
  "<pre" ++ String.join ((Html.attributes t.attrs).map Html.Attribute.write)
    ++ "><code class=\"language-" ++ Html.escape lang ++ "\">" ++ Html.escape t.content
    ++ "</code></pre>"

theorem codeBlockHtml_injective (t : Token) : Function.Injective (codeBlockHtml t) := by
  intro lang lang' h
  rw [codeBlockHtml, codeBlockHtml, String.append_left_inj, String.append_left_inj,
    String.append_left_inj, String.append_right_inj] at h
  exact Html.escape_injective h

/-- A code block that is not hidden, and whose first word is the name, in any case. -/
structure Token.IsFenceOf (t : Token) (name : String) : Prop where
  kind : t.kind = .fence
  visible : t.hidden = false
  word : ∃ word, BeginsWithWord t.info word ∧ lowerCase word = lowerCase name

/-- The code block that has a name behind its fence, and nothing else. -/
theorem exists_isFenceOf {name : String} (hne : name ≠ "")
    (hblank : ∀ c ∈ name.toList, isBlank c = false) : ∃ t, Token.IsFenceOf t name :=
  ⟨{ Token.leaf .fence 0 with info := name }, rfl, rfl, name, beginsWithWord_self hne hblank, rfl⟩

theorem Renderer.render_fence {r : Renderer} (hr : r.highlighter = none) {t : Token}
    (hkind : t.kind = .fence) (hvisible : t.hidden = false) {word : String}
    (hword : firstWord? t.info = some word) :
    r.render [t] = codeBlockHtml t (resolveLang r.langs word) := by
  have hclass : Html.escape "class" = "class" := by decide
  have hlanguage : Html.escape "language-" = "language-" := by decide
  have hpiece : r.blockPiece t = r.codeMarkup t := by
    rw [blockPiece, hkind]
    dsimp only
    rw [blockMarkup, hkind, hvisible]
    rfl
  rw [render_singleton, hpiece, codeMarkup, hword, hr, codeBlockHtml]
  rw [← String.toList_inj]
  simp [Html.writeAll, Html.Markup.write, Html.Attribute.write, Html.escape_append, hclass,
    hlanguage]

namespace Engine

/-- Wherever the code block stands on a page, it is shown in the language. -/
def ShowsFence (e : Engine) (t : Token) (lang : String) : Prop :=
  ∀ before after env, e.render (before ++ t :: after) env
    = e.render before env ++ codeBlockHtml t lang ++ e.render after env

/-- All code blocks of the name are shown in the language. -/
def WorksInAnyCase (e : Engine) (name lang : String) : Prop :=
  ∀ t, Token.IsFenceOf t name → e.ShowsFence t lang

/-- What the code blocks of a name that stands for a language are shown with. -/
structure ShowsAlias (e : Engine) (name lang : String) : Prop where
  /-- The language of a name in lower case; else the name itself, in lower case. -/
  shown : ∀ t, Token.IsFenceOf t name →
    e.ShowsFence t (if lowerCase name = name then lang else lowerCase name)
  /-- So the name works in any case exactly if it is written in lower case, or needs no table. -/
  works_iff : e.WorksInAnyCase name lang ↔ lowerCase name = name ∨ lang = lowerCase name

variable {e : Engine} {t : Token} {name lang : String}

theorem showsFence_iff :
    e.ShowsFence t lang ↔ ∀ env, e.render [t] env = codeBlockHtml t lang := by
  constructor
  · intro h env
    have hempty : e.render [] env = "" := rfl
    have halone := h [] [] env
    rwa [List.nil_append, hempty, String.empty_append, String.append_empty] at halone
  · intro h before after env
    rw [e.render_append, ← List.singleton_append, e.render_append, h env, String.append_assoc]

theorem ShowsFence.unique {lang' : String} (h : e.ShowsFence t lang) (h' : e.ShowsFence t lang') :
    lang = lang' :=
  codeBlockHtml_injective t ((showsFence_iff.mp h {}).symm.trans (showsFence_iff.mp h' {}))

/-- What the names of the table are shown with, if they stay distinct in lower case. -/
theorem showsAlias_of_mem (hhighlighter : e.renderer.highlighter = none)
    (hdistinct : (e.renderer.langs.map fun p => lowerCase p.1).Nodup)
    (hmem : (name, lang) ∈ e.renderer.langs) (hne : name ≠ "")
    (hblank : ∀ c ∈ name.toList, isBlank c = false) : e.ShowsAlias name lang := by
  have hshown : ∀ t, Token.IsFenceOf t name →
      e.ShowsFence t (if lowerCase name = name then lang else lowerCase name) := by
    intro t ht
    obtain ⟨word, hbegins, hword⟩ := ht.word
    refine showsFence_iff.mpr fun env => ?_
    rw [← resolveLang_eq hdistinct hmem hword]
    exact Renderer.render_fence (r := e.rendererIn env) hhighlighter ht.kind ht.visible
      (firstWord?_eq_some_iff.mpr hbegins)
  refine ⟨hshown, fun h => ?_, fun h t ht => ?_⟩
  · -- The code block that consists of the name tells the two languages apart.
    obtain ⟨t, ht⟩ := exists_isFenceOf hne hblank
    have hlang := (h t ht).unique (hshown t ht)
    split at hlang
    · next hlower => exact .inl hlower
    · exact .inr hlang
  · have hlang := hshown t ht
    split at hlang
    · exact hlang
    · next hlower => rwa [h.resolve_left hlower]

end Engine

/-! ### Configurations -/

theorem exists_of_bind_eq_ok {α β ε : Type} {x : Except ε α} {f : α → Except ε β} {b : β}
    (h : x >>= f = .ok b) : ∃ a, x = .ok a ∧ f a = .ok b := by
  cases x with
  | error e => cases h
  | ok a => exact ⟨a, rfl, h⟩

/-- A loop over all items that fails at none of them has asked each. -/
theorem forall_of_forIn_eq_ok {α ε : Type} {f : α → Except ε (ForInStep PUnit)} {xs : List α}
    (hyield : ∀ x s, f x = .ok s → s = .yield ⟨⟩)
    (h : (forIn xs PUnit.unit fun x _ => f x) = .ok ⟨⟩) : ∀ x ∈ xs, f x = .ok (.yield ⟨⟩) := by
  induction xs with
  | nil => exact List.forall_mem_nil _
  | cons x xs ih =>
    rw [List.forIn_cons] at h
    cases hx : f x with
    | error e =>
      rw [hx] at h
      cases h
    | ok s =>
      obtain rfl := hyield x s hx
      rw [hx] at h
      exact List.forall_mem_cons.mpr ⟨hx, ih h⟩

theorem ne_empty_of_requireText {field text : String} (h : requireText field text = .ok ()) :
    text ≠ "" := by
  rintro rfl
  cases h

namespace Config

variable {c : Config} {path : Option String} {o : Options}

/-- **A configuration that keeps the rules has no empty names, and none for an empty language.** -/
theorem ne_empty_of_check (h : c.check = .ok ()) :
    ∀ p ∈ c.markdown.langs, p.1 ≠ "" ∧ p.2 ≠ "" := by
  obtain ⟨_, -, h⟩ := exists_of_bind_eq_ok h
  obtain ⟨_, -, h⟩ := exists_of_bind_eq_ok h
  obtain ⟨_, -, h⟩ := exists_of_bind_eq_ok h
  obtain ⟨_, hlangs, -⟩ := exists_of_bind_eq_ok h
  intro p hp
  have hasked := forall_of_forIn_eq_ok (fun p s hs => ?_) hlangs p hp
  · obtain ⟨_, hname, hrest⟩ := exists_of_bind_eq_ok hasked
    obtain ⟨_, hlang, -⟩ := exists_of_bind_eq_ok hrest
    exact ⟨ne_empty_of_requireText hname, ne_empty_of_requireText hlang⟩
  · obtain ⟨_, -, hrest⟩ := exists_of_bind_eq_ok hs
    obtain ⟨_, -, hyield⟩ := exists_of_bind_eq_ok hrest
    exact (Except.ok.inj hyield).symm

/-- A configuration that has been read keeps the rules. -/
theorem check_of_parse {value? : String → Option String} {file text : String}
    (h : Config.parse value? file text = .ok c) : c.check = .ok () := by
  obtain ⟨_, -, h⟩ := exists_of_bind_eq_ok h
  obtain ⟨_, -, h⟩ := exists_of_bind_eq_ok h
  obtain ⟨_, hcheck, h⟩ := exists_of_bind_eq_ok h
  obtain rfl := Except.ok.inj h
  exact hcheck

/-- The names go from the configuration to the engine as they are, and no highlighter with them. -/
theorem renderer_of_options (h : c.options path = .ok o) :
    o.engine.renderer.langs = c.markdown.langs ∧ o.engine.renderer.highlighter = none := by
  rw [Options.renderer_engine]
  unfold options at h
  cases hplugins : c.markdown.plugins with
  | none =>
    rw [hplugins] at h
    obtain rfl := Except.ok.inj h
    exact ⟨rfl, rfl⟩
  | some names =>
    rw [hplugins] at h
    obtain ⟨plugins, -, h⟩ := exists_of_bind_eq_ok h
    obtain rfl := Except.ok.inj h
    exact ⟨rfl, rfl⟩

/-- **A name works in any case exactly if it is written in lower case**, whatever the command line
changes: this is so for every table of a configuration that keeps the rules, if its names stay
distinct in lower case.  A name with a blank in it is no first word of a code block. -/
theorem showsAlias_options {c : Config} {overrides : Overrides} {path : Option String}
    {o : Options} (hcheck : c.check = .ok ()) (ho : (c.override overrides).options path = .ok o)
    (hdistinct : (c.markdown.langs.map fun p => lowerCase p.1).Nodup) {name lang : String}
    (hmem : (name, lang) ∈ c.markdown.langs) (hblank : ∀ d ∈ name.toList, isBlank d = false) :
    o.engine.ShowsAlias name lang := by
  obtain ⟨hlangs, hhighlighter⟩ := renderer_of_options ho
  have hkept : (c.override overrides).markdown.langs = c.markdown.langs := rfl
  rw [hkept] at hlangs
  exact Engine.showsAlias_of_mem hhighlighter (hlangs ▸ hdistinct) (hlangs ▸ hmem)
    (ne_empty_of_check hcheck _ hmem).1 hblank

/-- A table with a name in lower case and one that is not. -/
def twoNames : List (String × String) := [("yml", "yaml"), ("Rs", "rust")]

theorem showsAlias_options_two :
    ({ markdown := { langs := twoNames } } : Config).check = .ok () ∧
    (({ markdown := { langs := twoNames } } : Config).override
      { linkify := some true }).options none = .ok { langs := twoNames, linkify := true } ∧
    (twoNames.map fun p => lowerCase p.1).Nodup ∧
    ({ langs := twoNames, linkify := true } : Options).engine.ShowsAlias "yml" "yaml" ∧
    ({ langs := twoNames, linkify := true } : Options).engine.ShowsAlias "Rs" "rust" := by
  have hcheck : ({ markdown := { langs := twoNames } } : Config).check = .ok () := rfl
  have ho : (({ markdown := { langs := twoNames } } : Config).override
      { linkify := some true }).options none = .ok { langs := twoNames, linkify := true } := rfl
  have hdistinct : (twoNames.map fun p => lowerCase p.1).Nodup := by decide +kernel
  exact ⟨hcheck, ho, hdistinct,
    showsAlias_options hcheck ho hdistinct (by simp [twoNames]) (isBlank_of_all (by decide)),
    showsAlias_options hcheck ho hdistinct (by simp [twoNames]) (isBlank_of_all (by decide))⟩

/-- A configuration with one name, in upper case. -/
def upperCaseTable : String := "[markdown.highlight_langs]\nYML = \"yaml\"\n"

/-- **A name that no code block can use**: it is found neither as it is written nor in lower
case. -/
theorem not_worksInAnyCase : ∃ c o page,
    Config.parse (fun _ => none) "mdpipe.toml" upperCaseTable = .ok c ∧ c.check = .ok () ∧
    c.markdown.langs = [("YML", "yaml")] ∧ c.options none = .ok o ∧
    (o.pipeline.render "```YML\nx\n```").1 = .ok page ∧
    page.html = "<pre><code class=\"language-yml\">x\n</code></pre>" ∧
    ¬o.engine.WorksInAnyCase "YML" "yaml" := by
  have hparts : (Config.parse (fun _ => none) "mdpipe.toml" upperCaseTable).toOption.map (fun c =>
      (c.markdown.langs, (c.options none).toOption.map fun o =>
        (o.pipeline.render "```YML\nx\n```").1.toOption.map Rendered.html))
      = some ([("YML", "yaml")],
        some (some "<pre><code class=\"language-yml\">x\n</code></pre>")) := by
    decide +kernel
  cases hparse : Config.parse (fun _ => none) "mdpipe.toml" upperCaseTable with
  | error e =>
    rw [hparse] at hparts
    cases hparts
  | ok c =>
  rw [hparse] at hparts
  obtain ⟨hlangs, hoptions⟩ := Prod.mk.inj (Option.some.inj hparts)
  cases ho : c.options none with
  | error e =>
    rw [ho] at hoptions
    cases hoptions
  | ok o =>
  rw [ho] at hoptions
  have hpage : (o.pipeline.render "```YML\nx\n```").1.toOption.map Rendered.html
      = some "<pre><code class=\"language-yml\">x\n</code></pre>" := Option.some.inj hoptions
  cases hrender : (o.pipeline.render "```YML\nx\n```").1 with
  | error e =>
    rw [hrender] at hpage
    cases hpage
  | ok page =>
  rw [hrender] at hpage
  have hhtml : page.html = "<pre><code class=\"language-yml\">x\n</code></pre>" :=
    Option.some.inj hpage
  refine ⟨c, o, page, rfl, check_of_parse hparse, hlangs, ho, hrender, hhtml, ?_⟩
  obtain ⟨htable, hhighlighter⟩ := renderer_of_options ho
  rw [hlangs] at htable
  have hshows : o.engine.ShowsAlias "YML" "yaml" :=
    Engine.showsAlias_of_mem hhighlighter (by simp [htable]) (by simp [htable]) (by decide)
      (isBlank_of_all (by decide))
  rw [hshows.works_iff]
  decide +kernel

end Config

end Folio
