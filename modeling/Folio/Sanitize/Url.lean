import Folio.Text.Character

/-!
# References to other pages

Whether a reference names a scheme, and whether what follows the scheme can be an address.

## Main definitions

* `Target` — what a reference is.
* `target` — the target of a reference.
-/

namespace Folio.Url

/-- What a reference is. -/
inductive Target where
  /-- It is relative to the page. -/
  | relative
  /-- It has a scheme, in lower case. -/
  | absolute (scheme : String)
  /-- It has a scheme, but is not an address. -/
  | malformed
  deriving DecidableEq, Repr, Inhabited

/-- The characters of a reference that count: without controls and blanks at either end, and
without tabs and line ends. -/
def significant (cs : List Char) : List Char :=
  let outer (c : Char) : Bool := c.toNat ≤ 0x20
  let cs := ((cs.dropWhile outer).reverse.dropWhile outer).reverse
  cs.filter fun c => c != '\t' && c != '\n' && c != '\r'

/-- The scheme at the beginning of a reference, in lower case, and what follows its colon. -/
def scheme? (cs : List Char) : Option (String × List Char) :=
  let name := cs.takeWhile fun c => c.isAlphanum || c == '+' || c == '-' || c == '.'
  match name, cs.drop name.length with
  | first :: _, ':' :: rest =>
    if first.isAlpha then some (String.ofList (name.map Char.toLower), rest) else none
  | _, _ => none

/-- The schemes whose addresses name a host. -/
def hostSchemes : List String := ["ftp", "http", "https", "ws", "wss"]

/-! ### Numeric hosts -/

/-- A digit to base 16. -/
def isHexDigit (c : Char) : Bool := c.isDigit || ('a' ≤ c.toLower && c.toLower ≤ 'f')

/-- The value of a digit. -/
def digitValue (c : Char) : Nat := if c.isDigit then c.toNat - 48 else c.toLower.toNat - 87

/-- The value of digits. -/
def valueOf (base : Nat) (ds : List Char) : Nat := ds.foldl (fun n d => base * n + digitValue d) 0

/-- The number of a part of an address: to base 16 behind `0x`, to base 8 behind `0`. -/
def partNumber? (p : List Char) : Option Nat :=
  match p with
  | [] => none
  | '0' :: x :: ds =>
    if x == 'x' || x == 'X' then
      if ds.all isHexDigit then some (valueOf 16 ds) else none
    else if (x :: ds).all fun c => c.isDigit && c ≤ '7' then some (valueOf 8 (x :: ds)) else none
  | ds => if ds.all Char.isDigit then some (valueOf 10 ds) else none

/-- The parts of a list between separators. -/
def splitAt (sep : Char) : List Char → List (List Char)
  | [] => [[]]
  | c :: rest =>
    if c == sep then [] :: splitAt sep rest
    else match splitAt sep rest with
      | part :: parts => (c :: part) :: parts
      | [] => [[c]]

/-- The parts of a host between dots, without an empty one at the end. -/
def hostParts (host : List Char) : List (List Char) :=
  let parts := splitAt '.' host
  if 1 < parts.length && parts.getLast? == some [] then parts.dropLast else parts

/-- The last part of a host is a number, so that the host must be an address of numbers. -/
def endsInNumber (host : List Char) : Bool :=
  match (hostParts host).getLast? with
  | some [] => false
  | some last => last.all Char.isDigit || (partNumber? last).isSome
  | none => false

/-- An address of one to four numbers, the last of which fills the bytes that are left. -/
def isNumericAddress (host : List Char) : Bool :=
  let numbers := (hostParts host).map partNumber?
  numbers.length ≤ 4 && match numbers.getLast? with
    | some (some last) =>
      numbers.dropLast.all (fun n => n.any (· ≤ 255)) && last < Nat.pow 256 (5 - numbers.length)
    | _ => false

/-- Four decimal numbers up to 255 without leading zeros. -/
def isDottedQuad (cs : List Char) : Bool :=
  let parts := splitAt '.' cs
  parts.length == 4 && parts.all fun p =>
    1 ≤ p.length && p.length ≤ 3 && p.all Char.isDigit && (p.length == 1 || p.head? != some '0')
      && valueOf 10 p ≤ 255

/-- The count of 16-bit pieces between colons, where the last one may be four bytes. -/
def pieceCount? (cs : List Char) : Option Nat :=
  if cs.isEmpty then some 0
  else
    let pieces := splitAt ':' cs
    let isPiece (p : List Char) : Bool := 1 ≤ p.length && p.length ≤ 4 && p.all isHexDigit
    if pieces.all isPiece then some pieces.length
    else match pieces.getLast? with
      | some last =>
        if pieces.dropLast.all isPiece && isDottedQuad last then some (pieces.length + 1) else none
      | none => none

/-- The list split at the first pair of colons. -/
def splitGap? : List Char → Option (List Char × List Char)
  | ':' :: ':' :: rest => some ([], rest)
  | c :: rest => (splitGap? rest).map fun p => (c :: p.1, p.2)
  | [] => none

/-- An address of eight 16-bit pieces, of which a run of zeros may be left out once. -/
def isWideAddress (cs : List Char) : Bool :=
  match splitGap? cs with
  | some (before, after) =>
    !before.contains '.' && match pieceCount? before, pieceCount? after with
      | some m, some n => m + n < 8
      | _, _ => false
  | none => pieceCount? cs == some 8

/-! ### Hosts -/

/-- What stands between brackets, if the host is in brackets. -/
def bracketed? (host : List Char) : Option (Option (List Char)) :=
  match host with
  | '[' :: rest => some (if rest.getLast? == some ']' then some rest.dropLast else none)
  | _ => none

/-- The bytes of a host, some of which are written in hexadecimal behind a percent sign. -/
def hostBytes : List Char → List UInt8
  | '%' :: h :: l :: rest =>
    if isHexDigit h && isHexDigit l then
      UInt8.ofNat (valueOf 16 [h, l]) :: hostBytes rest
    else 0x25 :: hostBytes (h :: l :: rest)
  | c :: rest => (String.singleton c).toUTF8.toList ++ hostBytes rest
  | [] => []

/-- The name that a host is written for. -/
def hostName? (host : List Char) : Option (List Char) :=
  (String.fromUTF8? (ByteArray.mk (hostBytes host).toArray)).map String.toList

/-- A character may stand in the name of a host. -/
def isHostChar (c : Char) : Bool :=
  if c.toNat < 0x80 then
    0x20 < c.toNat && c.toNat != 0x7F
      && !(['%', '#', '/', ':', '<', '>', '?', '@', '[', '\\', ']', '^', '|'].contains c)
  else 0xA0 < c.toNat && !Text.isBlank c && c.toNat != 0xFFFD

/-- A host of a scheme whose addresses name a host. -/
def isHost (host : List Char) : Bool :=
  match bracketed? host with
  | some (some address) => isWideAddress address
  | some none => false
  | none => (hostName? host).any fun name =>
    !name.isEmpty && name.all isHostChar && (!endsInNumber name || isNumericAddress name)

/-- A host of another scheme. -/
def isOpaqueHost (host : List Char) : Bool :=
  match bracketed? host with
  | some (some address) => isWideAddress address
  | some none => false
  | none => !host.any fun c => ['\x00', ' ', '#', '/', ':', '<', '>', '?', '@', '[', '\\', ']', '^',
      '|'].contains c

/-- The characters of a host at the beginning of an authority: up to a colon that is not in
brackets. -/
def hostOf (inside : Bool) : List Char → List Char
  | [] => []
  | c :: rest =>
    if c == ':' && !inside then []
    else c :: hostOf (c == '[' || (inside && c != ']')) rest

/-- What may stand behind a host: nothing, or a colon and a number of 16 bits. -/
def isHostNumber : List Char → Bool
  | [] => true
  | _ :: ds => ds.all Char.isDigit && valueOf 10 ds < 65536

/-- The host of an authority with its number, behind its last `@`, and whether a name or a password
stands before that. -/
def behindUser (authority : List Char) : List Char × Bool :=
  let host := (authority.reverse.takeWhile (· != '@')).reverse
  let user := authority.take (authority.length - host.length)
  (host, 1 < user.length && user != [':', '@'])

/-- What follows the slashes of an address begins with an authority. -/
def hasAuthority (special : Bool) (cs : List Char) : Bool :=
  let authority := cs.takeWhile fun c =>
    c != '/' && c != '?' && c != '#' && !(special && c == '\\')
  let (behind, named) := behindUser authority
  let host := hostOf false behind
  let number := behind.drop host.length
  isHostNumber number &&
    if special then isHost host
    else if host.isEmpty then number.isEmpty && !named && (authority.isEmpty || cs == authority)
    else isOpaqueHost host

/-- The target of a reference. -/
def target (reference : String) : Target :=
  match scheme? (significant reference.toList) with
  | none => .relative
  | some (scheme, rest) =>
    if hostSchemes.contains scheme then
      if hasAuthority true (rest.dropWhile fun c => c == '/' || c == '\\') then .absolute scheme
      else .malformed
    else match rest with
      | '/' :: '/' :: more => if hasAuthority false more then .absolute scheme else .malformed
      | _ => .absolute scheme

end Folio.Url
