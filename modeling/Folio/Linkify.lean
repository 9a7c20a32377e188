import Folio.Text.Character
import Folio.Text.Search
import Folio.Token.Basic

/-!
# Links in plain text

An address in running text becomes a link: one that begins with `http://` or `https://`, one that
begins with `www.`, or a domain name whose last label is a known top-level domain, with an optional
path.  Punctuation behind an address does not belong to it.

## Main definitions

* `Address`, `addressAt?` — the address at the beginning of a text.
* `trimAddress` — an address without the punctuation behind it.
* `Linkify` — the top-level domains that are known.
* `Linkify.segments` — a text cut into plain parts and links.
* `Linkify.apply` — turns the addresses in the text of tokens into links.
-/

namespace Folio

namespace Linkify

/-- A letter in the sense of domain names, in which a combining iota counts as the letter that it
is a case variant of. -/
def isDomainLetter (c : Char) : Bool := Text.isLetter c || c.toNat == 0x345

/-- A character of a label that may begin or end it. -/
def isLabelEnd (c : Char) : Bool := isDomainLetter c || Text.isNumber c

/-- A character of a label. -/
def isLabelChar (c : Char) : Bool := isLabelEnd c || c == '-'

/-- A character of an address behind its beginning. -/
def isAddressChar (c : Char) : Bool := !(Text.isBlank c || c == '<' || c == '>')

/-- An address in a text. -/
structure Address where
  /-- The characters of the address. -/
  chars : List Char
  /-- The top-level domain of an address that begins with a domain name. -/
  domain : Option (List Char) := none
  deriving DecidableEq, Repr

/-- What follows an ASCII text, compared without regard to case; the long s is a case variant of
the letter s. -/
def dropIgnoringCase? : (pattern text : List Char) → Option (List Char)
  | [], cs => some cs
  | _ :: _, [] => none
  | p :: ps, c :: cs =>
    if c.toLower == p || (p == 's' && c.toNat == 0x17F) then dropIgnoringCase? ps cs else none

/-- An address that begins with a scheme or with `www.`, given what follows that beginning.  At
least one more character belongs to it. -/
def addressFrom? (text after : List Char) : Option Address :=
  match after.takeWhile isAddressChar with
  | [] => none
  | more => some ⟨text.take (text.length - after.length) ++ more, none⟩

/-- The label of a domain name that a point follows: the label, and what follows the point. -/
def label? (cs : List Char) : Option (List Char × List Char) :=
  let label := cs.takeWhile isLabelChar
  match cs.drop label.length with
  | '.' :: rest =>
    if (label.head?.map isLabelEnd).getD false && (label.getLast?.map isLabelEnd).getD false then
      some (label, rest)
    else none
  | _ => none

/-- The top-level domain at the beginning of a text: 2 to 63 letters that end a word. -/
def topLevel? (cs : List Char) : Option (List Char × List Char) :=
  let letters := cs.takeWhile isDomainLetter
  let rest := cs.drop letters.length
  let ends := match rest with
    | [] => true
    | c :: _ => !Text.isWordChar c
  if 2 ≤ letters.length && letters.length ≤ 63 && ends then some (letters, rest) else none

/-- A domain name with as many labels as possible: its characters, its top-level domain, and what
follows it.  `fuel` bounds the number of labels. -/
def domain? : Nat → List Char → Option (List Char × List Char × List Char)
  | 0, _ => none
  | fuel + 1, cs =>
    match label? cs with
    | none => none
    | some (label, rest) =>
      match domain? fuel rest with
      | some (chars, top, after) => some (label ++ '.' :: chars, top, after)
      | none => (topLevel? rest).map fun (top, after) => (label ++ '.' :: top, top, after)

/-- An address that begins with a domain name, and its path. -/
def domainAddress? (cs : List Char) : Option Address :=
  (domain? cs.length cs).map fun (chars, top, after) =>
    let path := match after with
      | '/' :: rest => '/' :: rest.takeWhile isAddressChar
      | _ => []
    ⟨chars ++ path, some top⟩

/-- The address at the beginning of a text.  A scheme comes before `www.`, and that before a
domain name. -/
def addressAt? (cs : List Char) : Option Address :=
  let scheme := (dropIgnoringCase? "https://".toList cs).or (dropIgnoringCase? "http://".toList cs)
  ((scheme.bind (addressFrom? cs)).or
    ((dropIgnoringCase? "www.".toList cs).bind (addressFrom? cs))).or (domainAddress? cs)

/-- A punctuation mark that does not end an address. -/
def isTrailingMark (c : Char) : Bool :=
  c == '.' || c == ',' || c == ':' || c == ';' || c == '!' || c == '?' || c == '\x27'
    || c == '\x22'

/-- The characters of an address, last first, without the punctuation behind it.  A parenthesis at
the end belongs to the address if the address opens as many as it closes. -/
def trimReversed : List Char → List Char
  | [] => []
  | c :: cs =>
    if isTrailingMark c || (c == ')' && cs.count '(' < cs.count ')' + 1) then trimReversed cs
    else c :: cs

/-- An address without the punctuation behind it. -/
def trimAddress (cs : List Char) : List Char := (trimReversed cs.reverse).reverse

/-- A part of a text. -/
inductive Segment where
  | plain (chars : List Char)
  | link (chars : List Char)
  deriving DecidableEq, Repr

/-- A plain part, given in reverse, before other parts. -/
def plainBefore (pending : List Char) (rest : List Segment) : List Segment :=
  if pending.isEmpty then rest else .plain pending.reverse :: rest

end Linkify

/-- The top-level domains that are known, in lower case, beside all of two characters. -/
structure Linkify where
  /-- The domains. -/
  domains : List String := ["biz", "com", "edu", "gov", "net", "org", "pro", "web", "aero", "asia",
    "coop", "info", "museum", "name", "shop", "рф"]

namespace Linkify

/-- The lower case of a string. -/
def lowerCase (s : String) : String := String.ofList (Text.lowerText s.toList)

/-- The domain as it is kept: in lower case and without points before it. -/
def domainKey (s : String) : String :=
  lowerCase (String.ofList (s.toList.dropWhile (· == '.')))

/-- Makes top-level domains known. -/
def addDomains (l : Linkify) (domains : List String) : Linkify :=
  { l with domains := l.domains ++ domains.map domainKey }

/-- The top-level domain is known, or has two characters. -/
def knows (l : Linkify) (domain : String) : Bool :=
  let key := lowerCase domain
  key.length == 2 || l.domains.contains key

/-- The address is one that becomes a link. -/
def accepts (l : Linkify) (a : Address) : Bool :=
  match a.domain with
  | some domain => l.knows (String.ofList domain)
  | none => true

/-- A text cut into plain parts and links.  An address begins where a word begins or ends.
`pending` holds the plain characters before the text in reverse, `previous` the character before
it, and `fuel` bounds its length. -/
def segmentsFrom (l : Linkify) :
    Nat → (previous : Option Char) → (pending : List Char) → List Char → List Segment
  | 0, _, pending, cs => plainBefore (cs.reverse ++ pending) []
  | _, _, pending, [] => plainBefore pending []
  | fuel + 1, previous, pending, c :: cs =>
    let boundary := (previous.map Text.isWordChar).getD false != Text.isWordChar c
    match if boundary then addressAt? (c :: cs) else none with
    | none => l.segmentsFrom fuel (some c) (c :: pending) cs
    | some address =>
      let rest := (c :: cs).drop address.chars.length
      let last := address.chars.getLast?
      let trimmed := trimAddress address.chars
      if l.accepts address && !trimmed.isEmpty then
        let tail := address.chars.drop trimmed.length
        plainBefore pending (.link trimmed :: l.segmentsFrom fuel last tail.reverse rest)
      else l.segmentsFrom fuel last (address.chars.reverse ++ pending) rest

/-- A text cut into plain parts and links. -/
def segments (l : Linkify) (cs : List Char) : List Segment :=
  l.segmentsFrom cs.length none [] cs

/-- The target of a link; an address without a scheme gets one. -/
def linkTarget (text : String) : String :=
  let lower := Text.lowerText text.toList
  if "http://".toList.isPrefixOf lower || "https://".toList.isPrefixOf lower then text
  else "http://" ++ text

/-- The mark that tells a detected link from one of the source. -/
def origin : String := "linkify"

/-- The token that opens a detected link. -/
def openingToken (text : String) : Token :=
  { (Token.mark .link .opening).setAttr "href" (linkTarget text) with info := origin }

/-- The tokens of a part of a text. -/
def Segment.tokens : Segment → List Token
  | .plain cs => [.text (String.ofList cs)]
  | .link cs =>
    let text := String.ofList cs
    [openingToken text, .text text, .mark .link .closing]

/-- Turns the addresses in the text of inline tokens into links.  Text inside of a link is left
alone; `depth` is the number of links around it. -/
def linkChildren (l : Linkify) : (depth : Nat) → List Token → List Token
  | _, [] => []
  | depth, t :: ts =>
    match t.kind, t.nesting with
    | .link, .opening => t :: l.linkChildren (depth + 1) ts
    | .link, .closing => t :: l.linkChildren (depth - 1) ts
    | .text, _ =>
      if depth == 0 then (l.segments t.content.toList).flatMap Segment.tokens ++ l.linkChildren 0 ts
      else t :: l.linkChildren depth ts
    | _, _ => t :: l.linkChildren depth ts

/-- Turns the addresses in the text of all inline runs into links. -/
def apply (l : Linkify) (tokens : List Token) : List Token :=
  tokens.map fun t =>
    if t.kind == .inline then { t with children := l.linkChildren 0 t.children } else t

end Linkify

end Folio
