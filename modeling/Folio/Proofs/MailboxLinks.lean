import Folio.Proofs.AddressOpenings
import Folio.Proofs.SelfLinks
import Folio.Proofs.ShownLinks

/-!
# Links to mailboxes

An address of a mailbox between angle brackets is a link to itself, and all that is kept of it is
the address: nothing of the token that opens the link says whether the address was one of a mailbox.
So the page links to the address as it is written, without the scheme of a mailbox, and the address
is recorded as that of a file.  A link that has the scheme is one that was written with it.

## Main definitions

* `Options.LinksMailboxes` — what becomes of the addresses of mailboxes in a document.

## Main results

* `IsMailbox.isSourceTarget` — no address that is found in the text is that of a mailbox.
* `Options.KeepsSelfLink.runsLinkTo` — the runs link to an address that links to itself.
* `Pipeline.linksMailboxes_renderEvents` — **the page links to a mailbox as to a file.**
* `Pipeline.not_linksTo_mailto_render` — an address that is linked without its scheme.
-/

namespace Folio

open Html (startTags)
open Markdown (Event IsMailbox ProperlyNested Shaped isMailboxChar selfLink)
open Plugin.Terms (extract)

/-! ### Addresses that are found in the text -/

/-- Every letter of ASCII has one lower case, wherever it stands. -/
theorem Text.lowerAfter_of_ascii {cs : List Char} (h : ∀ c ∈ cs, c.toNat < 0x80) :
    ∀ before, lowerAfter before cs = cs.map Char.toLower := by
  induction cs with
  | nil => exact fun _ => rfl
  | cons c cs ih =>
    obtain ⟨hc, hcs⟩ := List.forall_mem_cons.mp h
    intro before
    have hsigma : (c == capitalSigma) = false := by
      refine beq_false_of_ne ?_
      rintro rfl
      exact absurd hc (by decide)
    rw [lowerAfter, ih hcs, hsigma, Bool.false_and, Bool.false_and, if_neg Bool.false_ne_true,
      lower, if_pos hc]
    rfl

theorem Text.eq_colon_of_toLower {c : Char} (h : c.toLower = ':') : c = ':' := by
  rcases toLower_cases c with hsame | ⟨-, hlower⟩
  · rw [← hsame, h]
  · rw [h] at hlower
    exact absurd hlower (by decide)

/-- A link in the text has a scheme, so its address has a colon. -/
theorem Linkify.ne_linkTarget_of_ne_colon {href : String}
    (hascii : ∀ c ∈ href.toList, c.toNat < 0x80) (hcolon : ∀ c ∈ href.toList, c ≠ ':')
    (text : String) : href ≠ linkTarget text := by
  intro heq
  unfold linkTarget at heq
  dsimp only at heq
  split at heq
  · next hscheme =>
    subst heq
    have hmem : ':' ∈ Text.lowerText href.toList := by
      rw [Bool.or_eq_true, List.isPrefixOf_iff_prefix, List.isPrefixOf_iff_prefix] at hscheme
      rcases hscheme with hbegins | hbegins <;> exact hbegins.subset (by decide)
    rw [Text.lowerText, Text.lowerAfter_of_ascii hascii] at hmem
    obtain ⟨c, hc, hlower⟩ := List.mem_map.mp hmem
    exact hcolon c hc (Text.eq_colon_of_toLower hlower)
  · exact hcolon ':' (by rw [heq]; simp) rfl

namespace Markdown.IsMailbox

variable {address : String}

theorem toNat_lt_of_isMailboxChar {c : Char} (h : isMailboxChar c = true) : c.toNat < 0x80 := by
  have hdigit : c.isDigit = true → c.toNat < 0x80 := by
    intro hdigit
    have hlast : c.toNat ≤ 0x39 :=
      UInt32.le_iff_toNat_le.mp (of_decide_eq_true (Bool.and_eq_true_iff.mp hdigit).2)
    omega
  have hletters : c.isAlphanum = true → c.toNat < 0x80 := by
    intro halnum
    rcases Bool.or_eq_true_iff.mp halnum with hletter | hnumber
    · have hlast := (Text.toNat_of_isAlpha hletter).2
      omega
    · exact hdigit hnumber
  rw [isMailboxChar, Bool.or_eq_true, List.contains_iff_mem] at h
  rcases h with h | h
  · exact hletters h
  · exact of_decide_eq_true
      (List.all_eq_true (p := fun c => decide (c.toNat < 0x80)).mp (by decide) c h)

theorem toNat_lt (h : IsMailbox address.toList) : ∀ c ∈ address.toList, c.toNat < 0x80 := by
  generalize address.toList = cs at h
  obtain ⟨-, hname, hhost⟩ := h
  have hhostChar : ∀ c, Markdown.isHostChar c = true → c.toNat < 0x80 := by
    intro c hc
    refine toNat_lt_of_isMailboxChar ?_
    simp only [Markdown.isHostChar, Bool.or_eq_true, beq_iff_eq] at hc
    rcases hc with (hletter | rfl) | rfl
    · rw [isMailboxChar, hletter, Bool.true_or]
    · decide
    · decide
  refine List.forall_mem_append.mpr ⟨fun c hc => toNat_lt_of_isMailboxChar (hname c hc), ?_⟩
  exact List.forall_mem_cons.mpr ⟨by decide, fun c hc => hhostChar c (hhost.isHostChar c hc)⟩

/-- **No address that is found in the text is that of a mailbox**, as each of them has a scheme. -/
theorem isSourceTarget (h : IsMailbox address.toList) (hstar : ¬"*".toList <+: address.toList) :
    IsSourceTarget address :=
  ⟨hstar, Linkify.ne_linkTarget_of_ne_colon h.toNat_lt h.ne_colon⟩

/-- An address of a mailbox passes for that of a file unless it begins with a mark. -/
theorem isLocal_iff (h : IsMailbox address.toList) : Plugin.Assets.isLocal address.toList = true ↔
    ¬"#".toList <+: address.toList ∧ ¬"//".toList <+: address.toList := by
  have hnil : address.toList ≠ [] := by
    generalize address.toList = cs at h
    obtain ⟨-, -, -⟩ := h
    simp
  have hcolon : ∀ scheme : List Char, ':' ∈ scheme → ¬scheme <:+: address.toList :=
    fun scheme hmem hstands => h.ne_colon ':' (hstands.subset hmem) rfl
  have hdata : ¬"data:".toList <+: address.toList := fun hbegins =>
    hcolon _ (by decide) hbegins.isInfix
  have hmailto : ¬"mailto:".toList <+: address.toList := fun hbegins =>
    hcolon _ (by decide) hbegins.isInfix
  rw [Plugin.Assets.isLocal_iff]
  simp only [hnil, hdata, hmailto, hcolon "://".toList (by decide), ne_eq, not_false_eq_true,
    and_true, true_and]

end Markdown.IsMailbox

/-- An address with the scheme of a mailbox is that of a link of the source. -/
theorem isSourceTarget_mailto (address : String) : IsSourceTarget ("mailto:" ++ address) := by
  have hchars : ("mailto:" ++ address).toList = 'm' :: ("ailto:".toList ++ address.toList) := by
    simp
  refine ⟨fun hbegins => ?_, fun text heq => ?_⟩
  · rw [hchars] at hbegins
    exact absurd (List.cons_prefix_cons.mp hbegins).1 (by decide)
  · rw [heq] at hchars
    exact linkTarget_ne_cons (by decide) (by decide) text _ hchars

/-- An address with the scheme of a mailbox is not that of a file. -/
theorem Plugin.Assets.isLocal_mailto (address : String) :
    isLocal ("mailto:" ++ address).toList = false := by
  rw [← Bool.not_eq_true, isLocal_iff]
  rintro ⟨-, -, -, -, hmailto, -⟩
  exact hmailto ⟨address.toList, by simp⟩

/-! ### What becomes of the addresses -/

/-- **An address that links to itself is a link of the runs**, unless it stands in an image. -/
theorem Options.KeepsSelfLink.runsLinkTo {o : Options} {events : List Event} {address : String}
    {front : List Token} {handed : Option AttributeBlock}
    (h : o.KeepsSelfLink events address front handed) (hfront : EndsOutsideImages front) :
    RunsLinkTo (o.anchored events) (selfLinkTarget handed address) := by
  obtain ⟨-, hanchored, -, hk, -, hchildren⟩ := h
  next i run run' before behind behind' =>
  have hkind : (attach (blockBehind? o.delimiters behind)
      (Markdown.Assembly.targetToken .link "href" ⟨address, ""⟩)).kind = .link := attach_kind _ _
  have hne : (attach (blockBehind? o.delimiters behind)
      (Markdown.Assembly.targetToken .link "href" ⟨address, ""⟩)).kind ≠ .image := by
    rw [hkind]
    exact Kind.noConfusion
  refine ⟨run', List.mem_of_getElem? hanchored, hk, _, ?_, hkind, attach_nesting _ _,
    attr?_href_attach _ address⟩
  rw [hchildren, append_selfLinkTokens, outsideImages_append, hfront, outsideImages_cons,
    if_pos ⟨hne, rfl⟩]
  simp

/-- The page links to the addresses that are written in the document, with a scheme or without one
as they are written. -/
structure Options.LinksAsWritten (o : Options) (events : List Event) (page : Rendered) : Prop where
  /-- The page has no other links than those of the runs. -/
  noOther : ∀ href, IsSourceTarget href → page.LinksTo href → RunsLinkTo (o.anchored events) href
  /-- If no title is taken out, the page has all of these. -/
  all : o.extractTitle = false → ∀ href, IsSourceTarget href → RunsLinkTo (o.anchored events) href →
    page.LinksTo href
  /-- Among them is every address that links to itself and stands in no image. -/
  selfLinks : o.extractTitle = false → ∀ address front handed,
    o.KeepsSelfLink events address front handed → EndsOutsideImages front →
    IsSourceTarget (selfLinkTarget handed address) → page.LinksTo (selfLinkTarget handed address)
  /-- An address of a mailbox is among them as it is written, if no block gives it another one. -/
  mailboxes : o.extractTitle = false → ∀ address front handed, IsMailbox address.toList →
    ¬"*".toList <+: address.toList → o.KeepsSelfLink events address front handed →
    EndsOutsideImages front → selfLinkTarget handed address = address → page.LinksTo address
  /-- With its scheme it is on the page only if a run has it so. -/
  schemes : ∀ address, page.LinksTo ("mailto:" ++ address) →
    RunsLinkTo (o.anchored events) ("mailto:" ++ address)

/-- What becomes of the addresses of mailboxes in a document. -/
structure Options.LinksMailboxes (o : Options) (events : List Event) : Prop where
  /-- Wherever an address links to itself, a run has its tokens. -/
  places : ∀ before address after, events = before ++ selfLink address ++ after →
    ∃ front handed, o.KeepsSelfLink events address front handed
  /-- An address of a mailbox to which a run links is recorded, unless it begins with a mark or has
  the extension of a document. -/
  recorded : ∀ address, IsMailbox address.toList →
    (⟨.link, address⟩ ∈ (o.pipeline.parseEvents events).2.env.assets ↔
      (¬"#".toList <+: address.toList ∧ ¬"//".toList <+: address.toList ∧
        ¬"*".toList <+: address.toList ∧ Plugin.Assets.isDocument address.toList = false) ∧
      ∃ run ∈ extract (o.anchored events), run.kind = .inline ∧
        ∃ c ∈ run.children, c.BeginsLink address)
  /-- With its scheme no address is recorded. -/
  notRecorded : ∀ address, ⟨.link, "mailto:" ++ address⟩ ∉
    (o.pipeline.parseEvents events).2.env.assets
  /-- The page, as it is before it is cleaned, links to what is written. -/
  page : o.allowHtml = false → WritesNo "a" o.highlighter → ∃ page,
    (o.unsanitized.pipeline.renderEvents events).1 = .ok page ∧
    (o.pipeline.renderEvents events).1 = o.sanitized page ∧
    page.assets = (o.pipeline.parseEvents events).2.env.assets ∧ o.LinksAsWritten events page

section Parsed

variable {o : Options} {events : List Event} (ho : o.plugins = Plugin.defaults)
  (h : ProperlyNested events)

include ho h

/-- **An address of a mailbox is recorded as that of a file.** -/
theorem Options.mailbox_mem_assets_iff {address : String} (hmailbox : IsMailbox address.toList) :
    ⟨.link, address⟩ ∈ (o.pipeline.parseEvents events).2.env.assets ↔
      (¬"#".toList <+: address.toList ∧ ¬"//".toList <+: address.toList ∧
        ¬"*".toList <+: address.toList ∧ Plugin.Assets.isDocument address.toList = false) ∧
      ∃ run ∈ extract (o.anchored events), run.kind = .inline ∧
        ∃ c ∈ run.children, c.BeginsLink address := by
  rw [Options.mem_assets_iff ho h, hmailbox.isLocal_iff]
  constructor
  · rintro ⟨hmarks, run, hrun, hk, c, hc, ⟨hlink, hdocument⟩, hkey⟩
    have hstar := hlink.referenceKey?_eq_none_iff.mp hkey
    exact ⟨⟨hmarks.1, hmarks.2, hstar, hdocument⟩, run, hrun, hk, c, hc, hlink⟩
  · rintro ⟨⟨hanchor, hhost, hstar, hdocument⟩, run, hrun, hk, c, hc, hlink⟩
    have hkey := hlink.referenceKey?_eq_none_iff.mpr hstar
    exact ⟨⟨hanchor, hhost⟩, run, hrun, hk, c, hc, ⟨hlink, hdocument⟩, hkey⟩

variable (htitle : o.extractTitle = true → o.titleStrategy = Folio.extractTitle)

include htitle

/-- **The page of a parsed document links to what is written.** -/
theorem Options.linksAsWritten_pageOf (hhtml : o.allowHtml = false)
    (hhighlighter : WritesNo "a" o.highlighter) (env : Environment) :
    o.LinksAsWritten events (o.pageOf (o.pipeline.parseEvents events).1 env) := by
  have hbuiltins := Options.usesBuiltins_of_defaults ho htitle
  have hkept := Options.keepsTokens hbuiltins h
  obtain ⟨hpage, -, -⟩ := pipeline_parseEvents_spec hbuiltins h
  have hlinks : ∀ href, (o.pageOf (o.pipeline.parseEvents events).1 env).LinksTo href ↔
      ∃ t ∈ (o.pipeline.parseEvents events).1, t.ShowsLink href := fun href =>
    Options.linksTo_pageOf_iff hhtml hbuiltins hhighlighter hpage
      (fun t ht c hc => Options.kind_of_mem_children_parsed ho (hkept.sublist.subset ht) hc)
      (fun t ht => Options.legible_parsed ho (hkept.sublist.subset ht))
  have hall : o.extractTitle = false → ∀ href, IsSourceTarget href →
      RunsLinkTo (o.anchored events) href →
      (o.pageOf (o.pipeline.parseEvents events).1 env).LinksTo href := by
    intro hextract href hhref hruns
    rw [hlinks, hkept.all hextract]
    exact (Options.showsLink_parsed_iff ho hhref h).mpr hruns
  have hself : o.extractTitle = false → ∀ address front handed,
      o.KeepsSelfLink events address front handed → EndsOutsideImages front →
      IsSourceTarget (selfLinkTarget handed address) →
      (o.pageOf (o.pipeline.parseEvents events).1 env).LinksTo (selfLinkTarget handed address) :=
    fun hextract _ _ _ hplace hfront htarget => hall hextract _ htarget (hplace.runsLinkTo hfront)
  have hnone : ∀ href, IsSourceTarget href →
      (o.pageOf (o.pipeline.parseEvents events).1 env).LinksTo href →
      RunsLinkTo (o.anchored events) href := by
    intro href hhref hlinked
    obtain ⟨t, ht, hshows⟩ := (hlinks href).mp hlinked
    exact (Options.showsLink_parsed_iff ho hhref h).mp ⟨t, hkept.sublist.subset ht, hshows⟩
  refine ⟨hnone, hall, hself, fun hextract address front handed hmailbox hstar hplace hfront hown =>
    ?_, fun address => hnone _ (isSourceTarget_mailto address)⟩
  rw [← hown] at hmailbox hstar ⊢
  exact hself hextract _ front handed hplace hfront (hmailbox.isSourceTarget hstar)

end Parsed

namespace Pipeline

/-- **The page links to a mailbox as to a file**: an address of a mailbox between angle brackets is
read as a link to itself, and to itself it is a link on the page, with no scheme before it, unless
the block behind it says otherwise. -/
theorem linksMailboxes_renderEvents (o : Options) (ho : o.plugins = Plugin.defaults)
    (htitle : o.extractTitle = true → o.titleStrategy = Folio.extractTitle) :
    (∀ (r : Markdown.InlineReader) (address : String), IsMailbox address.toList → ∀ rest,
      ∃ inline : Markdown.Inline,
        r.angle (address.toList ++ '>' :: rest) = (r.add (.node inline) '>', rest) ∧
          inline.events = selfLink address) ∧
    (∀ events, Shaped events → o.LinksMailboxes events) ∧
      ∀ input, o.LinksMailboxes (Engine.readEvents input) := by
  have hevents : ∀ events, Shaped events → o.LinksMailboxes events := by
    intro events hshaped
    have h := hshaped.properlyNested
    obtain ⟨hpage, -, hdeferred⟩ :=
      pipeline_parseEvents_spec (Options.usesBuiltins_of_defaults ho htitle) h
    refine ⟨?_, fun address => Options.mailbox_mem_assets_iff ho h, fun address hmem => ?_,
      fun hhtml hhighlighter => ?_⟩
    · rintro before address after rfl
      exact o.keepsSelfLink hshaped
    · have hlocal := ((Options.mem_assets_iff ho h _).mp hmem).1
      rw [Plugin.Assets.isLocal_mailto] at hlocal
      cases hlocal
    · obtain ⟨hcompiled, hsanitized⟩ := Options.renderEvents_eq_pageOf
        (Options.usesBuiltins_of_defaults ho htitle) hpage hdeferred
      exact ⟨_, hcompiled, hsanitized, rfl,
        Options.linksAsWritten_pageOf ho h htitle hhtml hhighlighter _⟩
  refine ⟨fun r address hmailbox rest => r.angle_of_isMailbox hmailbox rest, hevents, ?_⟩
  exact fun input => hevents _ (Markdown.shaped_blockEvents _)

/-- An address of a mailbox is recorded like the file that it is not. -/
theorem linksMailboxes_render_mailbox :
    ({} : Options).LinksMailboxes (Engine.readEvents "write to <a@b.c>") ∧
    (({} : Options).pipeline.parse "write to <a@b.c>").2.env.assets = [⟨.link, "a@b.c"⟩] :=
  ⟨(linksMailboxes_renderEvents {} rfl fun _ => rfl).2.2 _, by decide +kernel⟩

/-- An address of a mailbox that is linked without its scheme, and recorded. -/
theorem not_linksTo_mailto_render : ∃ page,
    (({} : Options).pipeline.render "<a@b.c>").1 = .ok page ∧
    IsMailbox "a@b.c".toList ∧
    Engine.readEvents "<a@b.c>" = Markdown.within .paragraph (selfLink "a@b.c") ∧
    page.assets = [⟨.link, "a@b.c"⟩] ∧ page.LinksTo "a@b.c" ∧ ¬page.LinksTo "mailto:a@b.c" := by
  have hparts : (({} : Options).pipeline.render "<a@b.c>").1.toOption.map
      (fun page => (startTags page.html, page.assets))
        = some ([⟨"p", []⟩, ⟨"a", [("href", "a@b.c")]⟩], [⟨.link, "a@b.c"⟩]) := by
    decide +kernel
  have hmailbox : IsMailbox "a@b.c".toList := by
    have hread : Markdown.email? ("a@b.c".toList ++ '>' :: []) = some ("a@b.c".toList, []) := by
      decide +kernel
    exact (Markdown.email?_eq_some_iff.mp hread).1
  have hevents : Engine.readEvents "<a@b.c>"
      = Markdown.within .paragraph (selfLink "a@b.c") := by
    decide +kernel
  cases hrender : (({} : Options).pipeline.render "<a@b.c>").1 with
  | error e =>
    rw [hrender] at hparts
    cases hparts
  | ok page =>
    rw [hrender] at hparts
    obtain ⟨htags, hassets⟩ := Prod.mk.inj (Option.some.inj hparts)
    refine ⟨page, rfl, hmailbox, hevents, hassets, ?_, ?_⟩
    · rw [Rendered.LinksTo, htags]
      decide
    · rw [Rendered.LinksTo, htags]
      decide

end Pipeline

end Folio
