/-!
# Autolinks

An address between angle brackets is a link to itself.

## Main definitions

* `uri?` — an address that begins with a scheme.
* `email?` — the address of a mailbox.
* `autolink?` — either of them.
-/

namespace Folio.Markdown

/-- A character of a scheme after the first. -/
def isSchemeChar (c : Char) : Bool := c.isAlphanum || c == '.' || c == '-' || c == '+'

/-- An address that begins with a scheme of 2 to 32 characters, from behind the opening bracket:
the address, and what follows the closing bracket. -/
def uri? (cs : List Char) : Option (List Char × List Char) :=
  match cs with
  | [] => none
  | first :: others =>
    let scheme := first :: others.takeWhile isSchemeChar
    match cs.drop scheme.length with
    | ':' :: rest =>
      let path := rest.takeWhile fun c => c != '>' && c != '<' && 0x20 < c.toNat
      match rest.drop path.length with
      | '>' :: after =>
        if first.isAlpha && 2 ≤ scheme.length && scheme.length ≤ 32 then
          some (scheme ++ ':' :: path, after)
        else none
      | _ => none
    | _ => none

/-- A character of a mailbox before the at sign. -/
def isMailboxChar (c : Char) : Bool :=
  c.isAlphanum || ".!#$%&\x27*+/=?^_\x60\x7b|\x7d~-".toList.contains c

/-- A label of a host name: at most 63 letters, digits and inner hyphens. -/
def isHostLabel (cs : List Char) : Bool :=
  1 ≤ cs.length && cs.length ≤ 63 && cs.head? != some '-' && cs.getLast? != some '-'

/-- The labels of a host name, separated by points. -/
def splitPoints : List Char → List (List Char)
  | [] => [[]]
  | c :: cs =>
    if c == '.' then [] :: splitPoints cs
    else match splitPoints cs with
      | [] => [[c]]
      | l :: ls => (c :: l) :: ls

/-- The address of a mailbox, from behind the opening bracket: the address, and what follows the
closing bracket. -/
def email? (cs : List Char) : Option (List Char × List Char) :=
  let mailbox := cs.takeWhile isMailboxChar
  match cs.drop mailbox.length with
  | '@' :: rest =>
    let host := rest.takeWhile fun c => c.isAlphanum || c == '-' || c == '.'
    match rest.drop host.length with
    | '>' :: after =>
      if !mailbox.isEmpty && (splitPoints host).all isHostLabel then
        some (mailbox ++ '@' :: host, after)
      else none
    | _ => none
  | _ => none

/-- The address of an autolink, and what follows it. -/
def autolink? (cs : List Char) : Option (List Char × List Char) :=
  (uri? cs).or (email? cs)

end Folio.Markdown
