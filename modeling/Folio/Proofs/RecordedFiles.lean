import Folio.Proofs.ImageAssets

/-!
# Addresses that are recorded as files

An address is taken for that of a file unless it begins with a mark, has a host, or has one of two
schemes as they are written in lower case.  So what is recorded need not be a file: every other
scheme passes, the same two in capitals among them, and so does an address that is a query and
nothing else.  Which addresses pass in this way can be told from the address alone.

## Main definitions

* `Plugin.Assets.HasScheme` — the address begins with a scheme, which is no drive letter.
* `Plugin.Assets.NamesFile` — the address has no scheme, and a path.
* `RunsReferTo` — the images and the links of the runs of a document.
* `Options.RecordsFiles` — what is recorded of a document, and what of it names no file.

## Main results

* `Plugin.Assets.isLocal_iff_of_hasScheme`, `Plugin.Assets.isLocal_iff_of_path_eq_nil` — the
  addresses that pass though they name no file.
* `Options.mem_assets_iff` — what is recorded is what the runs refer to.
* `Pipeline.recordsFiles_parseEvents` — **what is recorded names a file, unless it begins with
  another scheme or with the mark of a query.**
* `Pipeline.not_namesFile_render` — an address of either sort.
-/

namespace Folio

open Markdown (Event ProperlyNested isSchemeChar)
open Plugin.Terms (extract markReferences referenceKey?)

namespace Plugin.Assets

/-! ### Addresses -/

/-- A scheme of at least two characters, so that it is no drive letter. -/
structure IsScheme (scheme : List Char) : Prop where
  letter : ∃ first ∈ scheme.head?, first.isAlpha = true
  chars : ∀ c ∈ scheme, isSchemeChar c = true
  length : 2 ≤ scheme.length

/-- The address begins with a scheme, which is no drive letter. -/
structure HasScheme (url scheme : List Char) : Prop where
  isScheme : IsScheme scheme
  stands : scheme ++ [':'] <+: url

/-- The part of an address before its query and its anchor. -/
def path (url : List Char) : List Char := url.takeWhile fun c => c != '#' && c != '?'

/-- The address has no scheme, and a path: it names a file beside the document. -/
structure NamesFile (url : List Char) : Prop where
  noScheme : ∀ scheme, ¬HasScheme url scheme
  path : path url ≠ []

theorem isLocal_iff {url : List Char} : isLocal url = true ↔
    url ≠ [] ∧ ¬"#".toList <+: url ∧ ¬"//".toList <+: url ∧ ¬"data:".toList <+: url ∧
      ¬"mailto:".toList <+: url ∧ ¬"://".toList <:+: url := by
  rw [isLocal, Bool.not_eq_true', ← Bool.not_eq_true]
  simp only [Bool.or_eq_true, List.isEmpty_iff, List.isPrefixOf_iff_prefix, Text.occursIn_iff,
    not_or, and_assoc, ne_eq]

section Schemes

variable {url scheme : List Char}

theorem IsScheme.ne_colon (h : IsScheme scheme) : ∀ c ∈ scheme, c ≠ ':' := by
  intro c hc hcolon
  have hchar := h.chars c hc
  rw [hcolon] at hchar
  exact absurd hchar (by decide)

/-- An address has at most one scheme. -/
theorem HasScheme.unique {scheme' : List Char} (h : HasScheme url scheme)
    (hfree : ∀ c ∈ scheme', c ≠ ':') (hstands : scheme' ++ [':'] <+: url) : scheme = scheme' := by
  obtain ⟨rest, hrest⟩ := h.stands
  obtain ⟨rest', hrest'⟩ := hstands
  rw [List.append_assoc, List.singleton_append] at hrest hrest'
  -- Both end where the first colon stands.
  have hsplit := Text.splitFirst?_append rest h.isScheme.ne_colon
  have hsplit' := Text.splitFirst?_append rest' hfree
  rw [hrest] at hsplit
  rw [hrest', hsplit] at hsplit'
  exact (Prod.mk.inj (Option.some.inj hsplit')).1

/-- The first character of a scheme is none of the marks at which an address is told not to be
that of a file. -/
theorem HasScheme.not_begins (h : HasScheme url scheme) {mark : Char} {marks : List Char}
    (hmark : mark.isAlpha = false) : ¬mark :: marks <+: url := by
  intro hbegins
  obtain ⟨first, hfirst, halpha⟩ := h.isScheme.letter
  have hhead : url.head? = some first := by
    obtain ⟨rest, rfl⟩ := h.stands
    simp [Option.mem_def.mp hfirst]
  obtain ⟨rest, rfl⟩ := hbegins
  obtain rfl : mark = first := by simpa using hhead
  rw [hmark] at halpha
  cases halpha

/-- **An address with a scheme is taken for a file unless it has a host or one of two schemes in
lower case.** -/
theorem isLocal_iff_of_hasScheme (h : HasScheme url scheme) : isLocal url = true ↔
    scheme ≠ "data".toList ∧ scheme ≠ "mailto".toList ∧ ¬"://".toList <:+: url := by
  have hnil : url ≠ [] := by
    rintro rfl
    have hlength := h.stands.length_le
    simp at hlength
  have hscheme : ∀ s : List Char, (∀ c ∈ s, c ≠ ':') → (s ++ [':'] <+: url ↔ scheme = s) := by
    intro s hs
    exact ⟨h.unique hs, fun heq => heq ▸ h.stands⟩
  have hdata : "data:".toList <+: url ↔ scheme = "data".toList :=
    hscheme "data".toList (by simp)
  have hmailto : "mailto:".toList <+: url ↔ scheme = "mailto".toList :=
    hscheme "mailto".toList (by simp)
  have hanchor : ¬"#".toList <+: url := h.not_begins (by decide)
  have hhost : ¬"//".toList <+: url := h.not_begins (by decide)
  rw [isLocal_iff, hdata, hmailto]
  simp only [hnil, hanchor, hhost, ne_eq, not_false_eq_true, true_and]

/-- **An address without a path is taken for a file if it is a query.** -/
theorem isLocal_iff_of_path_eq_nil (h : path url = []) : isLocal url = true ↔
    "?".toList <+: url ∧ ¬"://".toList <:+: url := by
  cases url with
  | nil => decide
  | cons c cs =>
    -- The first character ends the path, so it is one of the two marks.
    have hc : c = '#' ∨ c = '?' := by
      by_contra hne
      rw [not_or] at hne
      simp [path, hne.1, hne.2] at h
    rw [isLocal_iff]
    rcases hc with rfl | rfl <;> simp [List.cons_prefix_cons]

/-- What passes for a file names one, unless it begins with a scheme or with the mark of a query. -/
theorem namesFile_iff_of_isLocal (h : isLocal url = true) : NamesFile url ↔
    (∀ scheme, ¬HasScheme url scheme) ∧ ¬"?".toList <+: url := by
  have hpath : path url = [] ↔ "?".toList <+: url := by
    constructor
    · intro hpath
      exact ((isLocal_iff_of_path_eq_nil hpath).mp h).1
    · rintro ⟨rest, rfl⟩
      rfl
  rw [← hpath]
  exact ⟨fun hnames => ⟨hnames.noScheme, hnames.path⟩, fun hnames => ⟨hnames.1, hnames.2⟩⟩

end Schemes

end Plugin.Assets

/-! ### What the runs refer to -/

/-- The token begins a link to this address. -/
structure Token.BeginsLink (t : Token) (href : String) : Prop where
  kind : t.kind = .link
  opening : t.nesting = .opening
  target : t.attr? "href" = some href

/-- The token refers to a file, if its address is that of one: it begins an image, or a link to
something that is no document. -/
def Token.RefersTo (t : Token) (asset : Asset) : Prop :=
  match asset.kind with
  | .image => t.BeginsImage asset.src
  | .link => t.BeginsLink asset.src ∧ Plugin.Assets.isDocument asset.src.toList = false

/-- A run has an image or a link with the address, and that is no link to a term. -/
def RunsReferTo (ts : List Token) (asset : Asset) : Prop :=
  ∃ run ∈ ts, run.kind = .inline ∧
    ∃ c ∈ run.children, c.RefersTo asset ∧ referenceKey? c = none

namespace Token.RefersTo

variable {t : Token} {asset : Asset}

theorem kind (h : t.RefersTo asset) : t.kind = .image ∨ t.kind = .link := by
  unfold RefersTo at h
  split at h
  · exact .inl h.kind
  · exact .inr h.1.kind

theorem opening (h : t.RefersTo asset) : t.nesting = .opening := by
  unfold RefersTo at h
  split at h
  · exact h.opening
  · exact h.1.opening

end Token.RefersTo

namespace Plugin.Assets

theorem asset?_eq_some_link_iff {t : Token} {href : String} : asset? t = some ⟨.link, href⟩ ↔
    (t.BeginsLink href ∧ isDocument href.toList = false) ∧ isLocal href.toList = true := by
  unfold asset?
  constructor
  · intro h
    split at h
    · cases h
    next hn =>
    split at h
    · obtain ⟨src, -, h⟩ := Option.bind_eq_some_iff.mp h
      split at h
      · exact absurd (Asset.mk.inj (Option.some.inj h)).1 (by decide)
      · cases h
    · next hk =>
      obtain ⟨href', htarget, h⟩ := Option.bind_eq_some_iff.mp h
      split at h
      · next hfile =>
        obtain rfl : href' = href := (Asset.mk.inj (Option.some.inj h)).2
        rw [Bool.and_eq_true, Bool.not_eq_true'] at hfile
        exact ⟨⟨⟨hk, by simpa [Token.isOpening] using hn, htarget⟩, hfile.2⟩, hfile.1⟩
      · cases h
    · cases h
  · rintro ⟨⟨⟨hk, hn, htarget⟩, hdocument⟩, hlocal⟩
    simp [Token.isOpening, hk, hn, htarget, hlocal, hdocument]

theorem asset?_eq_some_iff {t : Token} {asset : Asset} :
    asset? t = some asset ↔ t.RefersTo asset ∧ isLocal asset.src.toList = true := by
  obtain ⟨kind, src⟩ := asset
  cases kind with
  | image => exact asset?_eq_some_image_iff
  | link => exact asset?_eq_some_link_iff

/-- What is recorded of a list are the addresses in its runs that pass for files. -/
theorem mem_collect_iff_refersTo {ts : List Token} {env : Environment} (henv : env.assets = [])
    {asset : Asset} : asset ∈ (collect ts env).assets ↔ isLocal asset.src.toList = true ∧
      ∃ t ∈ ts, t.kind = .inline ∧ ∃ c ∈ t.children, c.RefersTo asset := by
  rw [mem_collect_iff henv]
  constructor
  · rintro ⟨t, ht, hk, c, hc, hasset⟩
    obtain ⟨hrefers, hlocal⟩ := asset?_eq_some_iff.mp hasset
    exact ⟨hlocal, t, ht, hk, c, hc, hrefers⟩
  · rintro ⟨hlocal, t, ht, hk, c, hc, hrefers⟩
    exact ⟨t, ht, hk, c, hc, asset?_eq_some_iff.mpr ⟨hrefers, hlocal⟩⟩

end Plugin.Assets

/-- Marking the references leaves the images and links that do not link to terms, and brings no
others. -/
theorem exists_refersTo_markReferences {children : List Token} (h : InlineContent children)
    (hleft : ∀ c ∈ (markReferences children).1, referenceKey? c = none) (asset : Asset) :
    (∃ c ∈ (markReferences children).1, c.RefersTo asset) ↔
      ∃ c ∈ children, c.RefersTo asset ∧ referenceKey? c = none := by
  constructor
  · rintro ⟨c, hc, hrefers⟩
    rcases mem_markReferences hc with hmem | ⟨key, rfl⟩ | rfl
    · exact ⟨c, hmem, hrefers, hleft c hc⟩
    · exact absurd hrefers.kind (by simp [Plugin.Terms.referenceOpening, Token.setAttr, Token.mark,
        Plugin.Terms.referenceKind])
    · exact absurd hrefers.opening Nesting.noConfusion
  · rintro ⟨c, hc, hrefers, hkey⟩
    exact ⟨c, mem_markReferences_of_opening h hc hrefers.opening hkey, hrefers⟩

section Parsed

variable {o : Options} {events : List Event} (ho : o.plugins = Plugin.defaults)
  (h : ProperlyNested events)

include ho h

/-- **What is recorded is what the runs refer to**, if it passes for a file. -/
theorem Options.mem_assets_iff (asset : Asset) :
    asset ∈ (o.pipeline.parseEvents events).2.env.assets ↔
      Plugin.Assets.isLocal asset.src.toList = true ∧
        RunsReferTo (extract (o.anchored events)) asset := by
  have hpage := Plugin.Terms.pageContent_extract (pageContent_anchored o h)
  have hengine : o.pipeline.engine = o.engine := rfl
  rw [Pipeline.assets_parseEvents, hengine, Options.env_parseEvents_defaults ho,
    Plugin.Assets.mem_collect_iff_refersTo (assets_storedSession events),
    exists_run_mapRuns_iff (P := fun children => ∃ c ∈ children, c.RefersTo asset), RunsReferTo]
  refine and_congr_right fun _ => exists_congr fun run => and_congr_right fun hrun => ?_
  rw [exists_refersTo_markReferences (hpage.parts run hrun).children
    (Options.marked_run h hrun).none_left]

end Parsed

/-! ### What is recorded of a document -/

/-- What is recorded of a document are the addresses in its runs that pass for files, and which of
them name no file can be told from the address. -/
structure Options.RecordsFiles (o : Options) (events : List Event) : Prop where
  /-- What is recorded passes for a file, and a run refers to it. -/
  recorded : ∀ asset, asset ∈ (o.pipeline.parseEvents events).2.env.assets ↔
    Plugin.Assets.isLocal asset.src.toList = true ∧
      RunsReferTo (extract (o.anchored events)) asset
  /-- An address with a scheme is recorded unless it has a host or one of two schemes. -/
  schemes : ∀ asset scheme, Plugin.Assets.HasScheme asset.src.toList scheme →
    (asset ∈ (o.pipeline.parseEvents events).2.env.assets ↔
      (scheme ≠ "data".toList ∧ scheme ≠ "mailto".toList ∧ ¬"://".toList <:+: asset.src.toList) ∧
        RunsReferTo (extract (o.anchored events)) asset)
  /-- An address without a path is recorded if it is a query. -/
  queries : ∀ asset, Plugin.Assets.path asset.src.toList = [] →
    (asset ∈ (o.pipeline.parseEvents events).2.env.assets ↔
      ("?".toList <+: asset.src.toList ∧ ¬"://".toList <:+: asset.src.toList) ∧
        RunsReferTo (extract (o.anchored events)) asset)
  /-- Everything else that is recorded names a file. -/
  files : ∀ asset ∈ (o.pipeline.parseEvents events).2.env.assets,
    Plugin.Assets.NamesFile asset.src.toList ↔
      (∀ scheme, ¬Plugin.Assets.HasScheme asset.src.toList scheme) ∧
        ¬"?".toList <+: asset.src.toList

namespace Pipeline

/-- **What is recorded names a file, unless it begins with another scheme than the two that are
known, or with the mark of a query.** -/
theorem recordsFiles_parseEvents (o : Options) (ho : o.plugins = Plugin.defaults) :
    (∀ events, ProperlyNested events → o.RecordsFiles events) ∧
      ∀ input, o.RecordsFiles (Engine.readEvents input) := by
  have hevents : ∀ events, ProperlyNested events → o.RecordsFiles events := by
    intro events h
    have hrecorded := fun asset => Options.mem_assets_iff ho h asset
    refine ⟨hrecorded, fun asset scheme hscheme => ?_, fun asset hpath => ?_, fun asset hmem => ?_⟩
    · rw [hrecorded, Plugin.Assets.isLocal_iff_of_hasScheme hscheme]
    · rw [hrecorded, Plugin.Assets.isLocal_iff_of_path_eq_nil hpath]
    · exact Plugin.Assets.namesFile_iff_of_isLocal ((hrecorded asset).mp hmem).1
  exact ⟨hevents, fun input => hevents _ (Markdown.shaped_blockEvents _).properlyNested⟩

/-- Of four addresses one names a file, and that and two others are recorded. -/
theorem recordsFiles_parse_four :
    ({} : Options).RecordsFiles
      (Engine.readEvents "![a](a.png) ![b](data:b) ![c](DATA:c) [d](?d)") ∧
    (({} : Options).pipeline.parse "![a](a.png) ![b](data:b) ![c](DATA:c) [d](?d)").2.env.assets
      = [⟨.image, "a.png"⟩, ⟨.image, "DATA:c"⟩, ⟨.link, "?d"⟩] :=
  ⟨(recordsFiles_parseEvents {} rfl).2 _, by decide +kernel⟩

/-- A scheme in capitals and a query are recorded, and neither names a file. -/
theorem not_namesFile_render : ∃ page,
    (({} : Options).pipeline.render "![c](DATA:c) [d](?d)").1 = .ok page ∧
    page.assets = [⟨.image, "DATA:c"⟩, ⟨.link, "?d"⟩] ∧
    Plugin.Assets.HasScheme "DATA:c".toList "DATA".toList ∧
    Plugin.Assets.path "?d".toList = [] ∧
    ∀ asset ∈ page.assets, ¬Plugin.Assets.NamesFile asset.src.toList := by
  have hparts : (({} : Options).pipeline.render "![c](DATA:c) [d](?d)").1.toOption.map
      Rendered.assets = some [⟨.image, "DATA:c"⟩, ⟨.link, "?d"⟩] := by
    decide +kernel
  have hscheme : Plugin.Assets.HasScheme "DATA:c".toList "DATA".toList :=
    ⟨⟨⟨'D', rfl, by decide⟩, by simp [isSchemeChar], by decide⟩, by decide⟩
  have hpath : Plugin.Assets.path "?d".toList = [] := by decide
  cases hrender : (({} : Options).pipeline.render "![c](DATA:c) [d](?d)").1 with
  | error e =>
    rw [hrender] at hparts
    cases hparts
  | ok page =>
    rw [hrender] at hparts
    have hassets : page.assets = [⟨.image, "DATA:c"⟩, ⟨.link, "?d"⟩] := Option.some.inj hparts
    refine ⟨page, rfl, hassets, hscheme, hpath, fun asset hasset hnames => ?_⟩
    rw [hassets, List.mem_cons, List.mem_singleton] at hasset
    rcases hasset with rfl | rfl
    · exact hnames.noScheme _ hscheme
    · exact hnames.path hpath

end Pipeline

end Folio
