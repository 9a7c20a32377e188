import Folio.Text.Letter
import Folio.Text.Number
import Folio.Text.Mark
import Folio.Text.Punctuation
import Folio.Text.CaseTable

/-!
# Classes and cases of characters

What is a letter, a number, a word character, a blank or a punctuation mark, over all of
Unicode; lower case and case folding.

## Main definitions

* `isLetter`, `isNumber`, `isAlphanumeric`, `isWordChar`, `isBlank`, `isPunctuation`
* `lower` — the lower case of one character, without regard to its neighbours.
* `lowerText` — the lower case of a text, in which a sigma at the end of a word is final.
* `fold` — the case folding of one character.
-/

namespace Folio.Text

/-- A letter: general category L. -/
def isLetter (c : Char) : Bool :=
  if c.toNat < 0x80 then c.isAlpha else Ranges.letter.contains c.toNat

/-- A number: general category N. -/
def isNumber (c : Char) : Bool :=
  if c.toNat < 0x80 then c.isDigit else Ranges.number.contains c.toNat

/-- The `Alphabetic` property: letters, letter numbers, and the marks and symbols that act as
letters. -/
def isAlphabetic (c : Char) : Bool :=
  if c.toNat < 0x80 then c.isAlpha
  else Ranges.letter.contains c.toNat || Ranges.letterNumber.contains c.toNat
    || Ranges.otherAlphabetic.contains c.toNat

/-- Alphabetic or a number. -/
def isAlphanumeric (c : Char) : Bool :=
  isAlphabetic c || isNumber c

/-- A character of a word: alphabetic, a mark, a decimal digit, a connector or a joiner. -/
def isWordChar (c : Char) : Bool :=
  if c.toNat < 0x80 then c.isAlphanum || c == '_'
  else isAlphabetic c || Ranges.mark.contains c.toNat || Ranges.decimalDigit.contains c.toNat
    || Ranges.connector.contains c.toNat || Ranges.joinControl.contains c.toNat

/-- The code points of the `White_Space` property. -/
def Ranges.whiteSpace : Ranges :=
  [(0x9, 0xD), (0x20, 0x20), (0x85, 0x85), (0xA0, 0xA0), (0x1680, 0x1680), (0x2000, 0x200A),
    (0x2028, 0x2029), (0x202F, 0x202F), (0x205F, 0x205F), (0x3000, 0x3000)]

/-- White space: the `White_Space` property. -/
def isBlank (c : Char) : Bool :=
  Ranges.whiteSpace.contains c.toNat

/-- Punctuation in the wide sense: general category P or S. -/
def isPunctuation (c : Char) : Bool :=
  if c.toNat < 0x80 then 0x20 < c.toNat && c.toNat < 0x7F && !c.isAlphanum
  else Ranges.punctuation.contains c.toNat

/-- The lower case of one character, which is two characters for the dotted capital I. -/
def lower (c : Char) : List Char :=
  if c.toNat < 0x80 then [c.toLower]
  else if c.toNat == 0x130 then ['i', Char.ofNat 0x307]
  else match shiftFor? lowerShifts c.toNat with
    | some d => [Char.ofNat (c.toNat + d).toNat]
    | none => [c]

/-- The case folding of one character. -/
def fold (c : Char) : List Char :=
  if c.toNat < 0x80 then [c.toLower]
  else match foldExpansions.lookup c.toNat with
    | some ns => ns.map Char.ofNat
    | none => match shiftFor? foldShifts c.toNat with
      | some d => [Char.ofNat (c.toNat + d).toNat]
      | none => [c]

/-- The capital sigma, whose lower case depends on its place in the word. -/
def capitalSigma : Char := Char.ofNat 0x3A3

/-- The nearest character that is not case-ignorable has a case. -/
def nextIsCased (cs : List Char) : Bool :=
  match cs.find? fun c => !Ranges.caseIgnorable.contains c.toNat with
  | some c => Ranges.cased.contains c.toNat
  | none => false

/-- The lower case of a text, given the characters before it in reverse. -/
def lowerAfter : List Char → List Char → List Char
  | _, [] => []
  | before, c :: rest =>
    (if c == capitalSigma && nextIsCased before && !nextIsCased rest then [Char.ofNat 0x3C2]
      else lower c) ++ lowerAfter (c :: before) rest

/-- The lower case of a text.  A capital sigma that ends a word becomes the final sigma. -/
def lowerText (s : List Char) : List Char :=
  lowerAfter [] s

/-- The text without its leading white space. -/
def trimStart (s : List Char) : List Char :=
  s.dropWhile isBlank

/-- The text without its trailing white space. -/
def trimEnd (s : List Char) : List Char :=
  (s.reverse.dropWhile isBlank).reverse

/-- The text without white space at either end. -/
def trim (s : List Char) : List Char :=
  trimEnd (trimStart s)

end Folio.Text
