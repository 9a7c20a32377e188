import Folio.Html.NamedCharacter
import Folio.Markdown.Line

/-!
# Character references

A character reference is a name or a number between `&` and `;`.

## Main definitions

* `characterOf` — the character of a number.
* `entity?` — the characters of a reference, and what follows it.
* `unescape` — a text with its references and backslash escapes resolved.
-/

namespace Folio.Markdown

/-- The replacement character. -/
def replacementCharacter : Char := Char.ofNat 0xFFFD

/-- The character of a code point; the replacement character if there is none, or for zero. -/
def characterOf (n : Nat) : Char :=
  if n == 0 then replacementCharacter
  else if n < 0xD800 || (0xDFFF < n && n ≤ 0x10FFFF) then Char.ofNat n
  else replacementCharacter

/-- A digit to base 16. -/
def isHexDigit (c : Char) : Bool :=
  c.isDigit || ('a' ≤ c && c ≤ 'f') || ('A' ≤ c && c ≤ 'F')

/-- The value of a digit to base 16. -/
def hexValue (c : Char) : Nat :=
  if c.isDigit then c.toNat - 48
  else if 'a' ≤ c && c ≤ 'f' then c.toNat - 87
  else c.toNat - 55

/-- The value of digits to base 16. -/
def hexDigitsValue (ds : List Char) : Nat := ds.foldl (fun n d => 16 * n + hexValue d) 0

/-- The value of decimal digits. -/
def decimalValue (ds : List Char) : Nat := ds.foldl (fun n d => 10 * n + (d.toNat - 48)) 0

/-- The number of a reference whose digits are `ds` and are followed by `rest`. -/
def numbered? (limit value : Nat) (ds rest : List Char) : Option (List Char × List Char) :=
  match rest with
  | ';' :: after =>
    if 1 ≤ ds.length && ds.length ≤ limit then some ([characterOf value], after) else none
  | _ => none

/-- The characters of the reference from behind its `&`, and what follows it. -/
def entity? (cs : List Char) : Option (List Char × List Char) :=
  match cs with
  | '#' :: x :: rest =>
    if x == 'x' || x == 'X' then
      let ds := rest.takeWhile isHexDigit
      numbered? 6 (hexDigitsValue ds) ds (rest.drop ds.length)
    else
      let ds := (x :: rest).takeWhile Char.isDigit
      numbered? 7 (decimalValue ds) ds ((x :: rest).drop ds.length)
  | _ =>
    let name := cs.takeWhile Char.isAlphanum
    match cs.drop name.length with
    | ';' :: after =>
      (Html.namedCharacters.lookup (String.ofList name)).map fun ns => (ns.map Char.ofNat, after)
    | _ => none

/-- The text with character references and backslash escapes resolved.  In a table a bar stands
for itself behind any number of backslashes.  `fuel` bounds the length of the text. -/
def unescapeWith (inTable : Bool) : Nat → List Char → List Char
  | 0, cs => cs
  | _, [] => []
  | fuel + 1, '\\' :: c :: rest =>
    match inTable, c, rest with
    | true, '\\', '|' :: after => '|' :: unescapeWith inTable fuel after
    | _, _, _ =>
      if isAsciiPunctuation c then c :: unescapeWith inTable fuel rest
      else '\\' :: unescapeWith inTable fuel (c :: rest)
  | fuel + 1, '&' :: rest =>
    match entity? rest with
    | some (value, after) => value ++ unescapeWith inTable fuel after
    | none => '&' :: unescapeWith inTable fuel rest
  | fuel + 1, c :: rest => c :: unescapeWith inTable fuel rest

/-- The text with character references and backslash escapes resolved. -/
def unescape (inTable : Bool) (cs : List Char) : List Char :=
  unescapeWith inTable cs.length cs

end Folio.Markdown
