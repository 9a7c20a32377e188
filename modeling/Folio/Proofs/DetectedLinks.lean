import Folio.Proofs.HeadingPass
import Folio.Proofs.LinkPass

/-!
# The links that are detected in a text

The search for addresses does not ask which top-level domains are known, so more of them make more
links of the same addresses: each link that was there before has the same place and leads to the
same target.

A link is an address without the punctuation behind it.  Nearly always its text is an address by
itself.  Two kinds of links are none: a bare opening, of which the punctuation was all that made it
an address, and a domain name that begins with a number that is no part of a word, which is found
only behind a word.

## Main definitions

* `Linkify.DetectedLink`, `Linkify.detectedLinks` — the links that were detected in a run, read off
  its tokens.
* `Linkify.textLinks` — the links that are detected in a text.
* `Linkify.IsAddress` — a text by itself is an address as a whole.
* `Linkify.LinksAddress` — when the text of a link is an address.

## Main results

* `Linkify.sublist_textLinks_addDomains` — **more top-level domains only add links.**
* `Linkify.linksAddress_textLinks` — **the text of a link is an address unless it is a bare
  opening or begins with a number that is no part of a word.**
-/

namespace Folio

namespace Linkify

open Text (isWordChar)

/-! ### Links of a run -/

/-- A link that was detected in a run. -/
structure DetectedLink where
  /-- The place in the text of the run at which the link begins. -/
  start : Nat
  /-- The place behind the link. -/
  stop : Nat
  /-- The text of the link. -/
  text : String
  /-- Where the link leads. -/
  target : Option String
  deriving DecidableEq, Repr

/-- The links that were detected in a run; `start` is the place at which the run begins. -/
def detectedLinks (start : Nat) : List Token → List DetectedLink
  | [] => []
  | t :: ts =>
    if t.info == origin then
      let text := plainText (ts.takeWhile fun u => !(u.kind == .link && u.isClosing))
      ⟨start, start + text.length, text, t.attr? "href"⟩
        :: detectedLinks (start + t.plainText.length) ts
    else detectedLinks (start + t.plainText.length) ts

/-- A token that opens no detected link. -/
theorem detectedLinks_cons (start : Nat) {t : Token} (h : t.info ≠ origin) (ts : List Token) :
    detectedLinks start (t :: ts) = detectedLinks (start + t.plainText.length) ts := by
  rw [detectedLinks, if_neg (by simpa using h)]

theorem detectedLinks_text (start : Nat) (s : String) (ts : List Token) :
    detectedLinks start (.text s :: ts) = detectedLinks (start + s.length) ts := by
  have hinfo : (Token.text s).info ≠ origin := (by decide : "" ≠ origin)
  rw [detectedLinks_cons start hinfo, Token.plainText_text rfl]
  rfl

/-- The tokens of a detected link. -/
theorem detectedLinks_link (start : Nat) (s : String) (ts : List Token) :
    detectedLinks start (openingToken s :: .text s :: .mark .link .closing :: ts)
      = ⟨start, start + s.length, s, some (linkTarget s)⟩
        :: detectedLinks (start + s.length) ts := by
  have hopening : (openingToken s).plainText = "" := Token.plainText_link (.inl rfl) rfl
  have hclosing : (Token.mark .link .closing).plainText = "" := Token.plainText_link (.inl rfl) rfl
  have hinside : ((Token.text s :: .mark .link .closing :: ts).takeWhile
      fun u => !(u.kind == .link && u.isClosing)) = [.text s] := rfl
  have htarget : (openingToken s).attr? "href" = some (linkTarget s) :=
    Token.attr?_setAttr (.mark .link .opening) "href" (linkTarget s)
  have hinfo : (openingToken s).info = origin := rfl
  rw [detectedLinks, if_pos (beq_iff_eq.mpr hinfo)]
  dsimp only
  rw [hinside, htarget, hopening, detectedLinks_text, detectedLinks_cons _ (by decide), hclosing,
    plainText_cons, plainText_nil, Token.plainText_text rfl]
  simp [Token.text]

/-- The links that are made of what is found. -/
def linksOf (l : Linkify) : (start : Nat) → List Find → List DetectedLink
  | _, [] => []
  | start, .char _ :: fs => l.linksOf (start + 1) fs
  | start, .address a :: fs =>
    let rest := l.linksOf (start + a.chars.length) fs
    if l.accepts a then
      let text := String.ofList (trimAddress a.chars)
      ⟨start, start + text.length, text, some (linkTarget text)⟩ :: rest
    else rest

theorem detectedLinks_plainBefore (start : Nat) (pending : List Char) (segments : List Segment) :
    detectedLinks start ((plainBefore pending segments).flatMap Segment.tokens)
      = detectedLinks (start + pending.length) (segments.flatMap Segment.tokens) := by
  unfold plainBefore
  split
  · next h =>
    obtain rfl : pending = [] := by simpa using h
    rfl
  · rw [List.flatMap_cons, Segment.tokens, List.singleton_append, detectedLinks_text]
    simp

/-- **The links of a text are made of what is found in it.** -/
theorem detectedLinks_assemble (l : Linkify) (fs : List Find) : ∀ start pending,
    detectedLinks start ((l.assemble pending fs).flatMap Segment.tokens)
      = l.linksOf (start + pending.length) fs := by
  induction fs with
  | nil =>
    intro start pending
    rw [assemble, detectedLinks_plainBefore]
    rfl
  | cons f fs ih =>
    intro start pending
    cases f with
    | char c =>
      rw [assemble, ih, linksOf, List.length_cons, Nat.add_assoc]
    | address a =>
      have hlength := congrArg List.length (trimAddress_append_trimmedOff a.chars)
      rw [List.length_append] at hlength
      rw [assemble, linksOf]
      split
      · rw [detectedLinks_plainBefore, List.flatMap_cons, Segment.tokens]
        dsimp only
        rw [List.cons_append, List.cons_append, List.cons_append, List.nil_append,
          detectedLinks_link, ih, List.length_reverse, String.length_ofList, ← hlength,
          Nat.add_assoc _ (trimAddress a.chars).length]
      · rw [ih, List.length_append, List.length_reverse]
        congr 1
        omega

/-- The links that are detected in a text. -/
def textLinks (l : Linkify) (s : String) : List DetectedLink :=
  detectedLinks 0 (l.linkChildren 0 [.text s])

theorem exists_textLinks (s : String) : ∃ fs, textOf fs = s.toList ∧ Scans none fs [] ∧
    ∀ l : Linkify, l.textLinks s = l.linksOf 0 fs := by
  obtain ⟨fs, heq, hscans⟩ := exists_scans s.toList none
  refine ⟨fs, heq, hscans, fun l => ?_⟩
  have hchildren : l.linkChildren 0 [.text s] = (l.assemble [] fs).flatMap Segment.tokens := by
    rw [l.linkChildren_of_text rfl, ← l.segments_textOf hscans, heq]
    exact List.append_nil _
  rw [textLinks, hchildren, detectedLinks_assemble]
  rfl

/-! ### More top-level domains -/

section Domains

variable {l : Linkify} {domains : List String}

theorem accepts_addDomains {a : Address} (h : l.accepts a = true) :
    (l.addDomains domains).accepts a = true := by
  unfold accepts at h ⊢
  cases ha : a.domain with
  | none => rfl
  | some domain =>
    rw [ha] at h
    dsimp only [knows, addDomains] at h ⊢
    rw [Bool.or_eq_true, List.contains_eq_mem, decide_eq_true_eq] at h ⊢
    exact h.imp_right fun h => List.mem_append_left _ h

theorem sublist_linksOf (fs : List Find) : ∀ start,
    (l.linksOf start fs).Sublist ((l.addDomains domains).linksOf start fs) := by
  induction fs with
  | nil => exact fun _ => List.Sublist.refl _
  | cons f fs ih =>
    intro start
    cases f with
    | char c => exact ih (start + 1)
    | address a =>
      rw [linksOf, linksOf]
      split
      · next h =>
        rw [if_pos (accepts_addDomains h)]
        exact (ih _).cons_cons _
      · split
        · exact (ih _).cons _
        · exact ih _

end Domains

/-- **More top-level domains only add links.** -/
theorem sublist_textLinks_addDomains (l : Linkify) (s : String) (domains : List String) :
    (l.textLinks s).Sublist ((l.addDomains domains).textLinks s) := by
  obtain ⟨fs, -, -, hlinks⟩ := exists_textLinks s
  rw [hlinks, hlinks]
  exact sublist_linksOf fs 0

/-! ### The texts of links -/

/-- The text by itself is an address as a whole, with the top-level domain if it has one. -/
def IsAddress (cs : List Char) (domain : Option (List Char)) : Prop :=
  foundAt? none cs = some ⟨cs, domain⟩

/-- When the text of a link is an address by itself; then it is one that becomes a link. -/
structure LinksAddress (l : Linkify) (cs : List Char) : Prop where
  /-- It is one unless it is a bare opening or does not begin with a character of a word. -/
  isAddress_iff : (∃ domain, IsAddress cs domain) ↔
    ¬ IsBareOpening cs ∧ ∃ c ∈ cs.head?, isWordChar c = true
  /-- The top-level domain of such an address is known. -/
  accepts : ∀ domain, IsAddress cs domain → l.accepts ⟨cs, domain⟩ = true

theorem linksAddress_trimAddress {l : Linkify} {a : Address} {rest : List Char} (h : a.Fits rest)
    (haccepts : l.accepts a = true) : LinksAddress l (trimAddress a.chars) := by
  rcases h.trimAddress with hbare | hfits
  · have hnone : ∀ domain, ¬ IsAddress (trimAddress a.chars) domain := by
      intro domain haddress
      rw [IsAddress, foundAt?_of_addressAt?_eq_none hbare.addressAt?] at haddress
      cases haddress
    refine ⟨iff_of_false ?_ fun h => h.1 hbare, fun domain haddress => (hnone domain haddress).elim⟩
    rintro ⟨domain, haddress⟩
    exact hnone domain haddress
  · have haddress : addressAt? (trimAddress a.chars) = some ⟨trimAddress a.chars, a.domain⟩ :=
      addressAt?_eq_some_iff.mpr ⟨[], (List.append_nil _).symm, hfits⟩
    have hbare : ¬ IsBareOpening (trimAddress a.chars) := by
      intro hbare
      rw [hbare.addressAt?] at haddress
      cases haddress
    obtain ⟨c, cs, heq, -⟩ := hfits.exists_cons
    dsimp only at heq
    rw [heq] at haddress hbare ⊢
    -- Nothing stands before the text, so a word has to begin there.
    have hfound : ∀ domain, IsAddress (c :: cs) domain ↔
        isWordChar c = true ∧ a.domain = domain := by
      intro domain
      rw [IsAddress, foundAt?, haddress]
      cases isWordChar c <;> simp
    constructor
    · rw [and_iff_right hbare]
      simp [hfound]
    · intro domain hdomain
      obtain ⟨-, rfl⟩ := (hfound domain).mp hdomain
      exact haccepts

theorem linksAddress_of_mem_linksOf {l : Linkify} {link : DetectedLink} {fs : List Find} :
    ∀ {previous start}, Scans previous fs [] → link ∈ l.linksOf start fs →
      LinksAddress l link.text.toList := by
  induction fs with
  | nil => exact fun _ h => absurd h List.not_mem_nil
  | cons f fs ih =>
    rintro previous start ⟨hf, hfs⟩ h
    cases f with
    | char c => exact ih hfs h
    | address a =>
      rw [linksOf] at h
      split at h
      · next haccepts =>
        rcases List.mem_cons.mp h with rfl | h
        · obtain ⟨rest, -, hfits⟩ := addressAt?_eq_some_iff.mp (addressAt?_of_foundAt? hf)
          dsimp only
          rw [String.toList_ofList]
          exact linksAddress_trimAddress hfits haccepts
        · exact ih hfs h
      · exact ih hfs h

/-- **The text of a link is an address unless it is a bare opening or begins with a number that is
no part of a word.** -/
theorem linksAddress_textLinks (l : Linkify) (s : String) :
    ∀ link ∈ l.textLinks s, LinksAddress l link.text.toList := by
  obtain ⟨fs, -, hscans, hlinks⟩ := exists_textLinks s
  rw [hlinks]
  exact fun link h => linksAddress_of_mem_linksOf hscans h

theorem linksAddress_textLinks_parentheses :
    ⟨4, 15, "www.b.c/(d)", some "http://www.b.c/(d)"⟩
        ∈ ({} : Linkify).textLinks "at (www.b.c/(d))." ∧
      LinksAddress {} "www.b.c/(d)".toList := by
  have hmem : ⟨4, 15, "www.b.c/(d)", some "http://www.b.c/(d)"⟩
      ∈ ({} : Linkify).textLinks "at (www.b.c/(d))." := by decide +kernel
  exact ⟨hmem, linksAddress_textLinks {} "at (www.b.c/(d))." _ hmem⟩

/-- Links whose texts are no addresses. -/
theorem not_isAddress_textLinks :
    (({} : Linkify).textLinks "http://. www.! _²b.com").map DetectedLink.text
        = ["http://", "www", "²b.com"] ∧
      ∀ link ∈ ({} : Linkify).textLinks "http://. www.! _²b.com",
        ∀ domain, ¬ IsAddress link.text.toList domain := by
  have hnone : ∀ link ∈ ({} : Linkify).textLinks "http://. www.! _²b.com",
      foundAt? none link.text.toList = none := by decide +kernel
  refine ⟨by decide +kernel, fun link hlink domain haddress => ?_⟩
  rw [IsAddress, hnone link hlink] at haddress
  cases haddress

end Linkify

end Folio
