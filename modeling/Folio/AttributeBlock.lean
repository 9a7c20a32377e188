import Folio.Text.Character
import Folio.Text.Search
import Folio.Token.Basic

/-!
# Attribute blocks

An attribute block such as `{#id .class key="value"}` attaches attributes to the element that it
follows.  It stands between two delimiters, which a document may choose.

## Main definitions

* `AttributeItem` — an id, a class or a named value.
* `AttributeBlock` — the items of a block, sorted by their kinds.
* `AttributeBlock.parse` — reads the text between the delimiters.
* `AttributeBlock.apply` — attaches a block to a token.
* `Delimiters.stripTrailing?`, `Delimiters.stripLeading?` — take a block off a text.
-/

namespace Folio

/-- An item of an attribute block. -/
inductive AttributeItem where
  | id (name : String)
  | className (name : String)
  | pair (key value : String)
  deriving DecidableEq, Repr

/-- The items of a block, sorted by their kinds. -/
structure AttributeBlock where
  /-- The last id. -/
  id : Option String := none
  /-- The classes. -/
  classes : List String := []
  /-- The named values. -/
  pairs : List (String × String) := []
  deriving DecidableEq, Repr, Inhabited

namespace AttributeItem

/-- A character of an id or of a class. -/
def isNameChar (c : Char) : Bool := !(Text.isBlank c || c == '.' || c == '#')

/-- The name of an id or of a class behind its mark, if it is not empty, and what follows it. -/
def name? (make : String → AttributeItem) (cs : List Char) :
    Option AttributeItem × List Char :=
  match cs.takeWhile isNameChar with
  | [] => (none, cs)
  | name => (some (make (String.ofList name)), cs.dropWhile isNameChar)

/-- The value behind the equals sign, and what follows it.  A value in quotes ends at the next
quote, any other at a blank. -/
def value? (cs : List Char) : Option (List Char × List Char) :=
  match cs with
  | '\x22' :: rest => Text.splitFirst? ['\x22'] rest
  | '\x27' :: rest => Text.splitFirst? ['\x27'] rest
  | _ => some (cs.takeWhile fun c => !Text.isBlank c, cs.dropWhile fun c => !Text.isBlank c)

/-- A named value, and what follows it. -/
def pair? (cs : List Char) : Option (AttributeItem × List Char) :=
  match Text.splitFirst? ['='] cs with
  | none => none
  | some (before, after) =>
    let key := Text.trim before
    if key.isEmpty || key.any Text.isBlank || key.head? == some '#' || key.head? == some '.' then
      none
    else (value? after).map fun (value, rest) =>
      (.pair (String.ofList key) (String.ofList value), rest)

/-- Reads what begins at the first character of a text that is not blank.  A character that
begins no item is passed over. -/
def read? (c : Char) (cs : List Char) : Option AttributeItem × List Char :=
  if c == '#' then name? .id cs
  else if c == '.' then name? .className cs
  else match pair? (c :: cs) with
    | some (item, rest) => (some item, rest)
    | none => (none, cs)

/-- The items of a text.  `fuel` bounds its length. -/
def readAll : Nat → List Char → List AttributeItem
  | 0, _ => []
  | fuel + 1, cs =>
    match Text.trimStart cs with
    | [] => []
    | c :: cs =>
      match read? c cs with
      | (some item, rest) => item :: readAll fuel rest
      | (none, rest) => readAll fuel rest

end AttributeItem

namespace AttributeBlock

/-- The block with one more item.  Of several ids the last one counts. -/
def add (b : AttributeBlock) : AttributeItem → AttributeBlock
  | .id name => { b with id := some name }
  | .className name => { b with classes := b.classes ++ [name] }
  | .pair key value => { b with pairs := b.pairs ++ [(key, value)] }

/-- The block that a list of items makes. -/
def ofItems (items : List AttributeItem) : AttributeBlock := items.foldl add {}

/-- Reads the text of a block without its delimiters. -/
def parseChars (cs : List Char) : AttributeBlock :=
  let cs := Text.trim cs
  ofItems (AttributeItem.readAll cs.length cs)

/-- Reads the text of a block without its delimiters. -/
def parse (text : String) : AttributeBlock := parseChars text.toList

/-- The block has no items. -/
def isEmpty (b : AttributeBlock) : Bool :=
  b.id.isNone && b.classes.isEmpty && b.pairs.isEmpty

/-- The first value under a key. -/
def get? (b : AttributeBlock) (key : String) : Option String := b.pairs.lookup key

/-- Attaches one named value.  Classes are added, all else replaces what was there. -/
def applyPair (t : Token) (pair : String × String) : Token :=
  if pair.1 == "class" then t.joinAttr "class" pair.2 else t.setAttr pair.1 pair.2

/-- Attaches a block to a token: first the id, then the classes, then the named values. -/
def apply (b : AttributeBlock) (t : Token) : Token :=
  let t := match b.id with
    | some id => t.setAttr "id" id
    | none => t
  let t := b.classes.foldl (fun t name => t.joinAttr "class" name) t
  b.pairs.foldl applyPair t

end AttributeBlock

/-- The texts around an attribute block. -/
structure Delimiters where
  /-- The text before a block. -/
  left : String := "\x7b"
  /-- The text behind a block. -/
  right : String := "\x7d"
  deriving DecidableEq, Repr, Inhabited

namespace Delimiters

/-- The block in the text between two delimiters.  It has to hold an item and no delimiter. -/
def block? (d : Delimiters) (inner : List Char) : Option AttributeBlock :=
  if Text.occursIn d.left.toList inner || Text.occursIn d.right.toList inner then none
  else
    let block := AttributeBlock.parseChars inner
    if block.isEmpty then none else some block

/-- Takes a block off the end of a text: the text before it, without blanks at its end, and the
block. -/
def stripTrailing? (d : Delimiters) (text : String) : Option (String × AttributeBlock) := do
  let body ← Text.dropEnd? d.right.toList (Text.trimEnd text.toList)
  let (before, inner) ← Text.splitLast? d.left.toList body
  let block ← d.block? inner
  return (String.ofList (Text.trimEnd before), block)

/-- Takes a block off the beginning of a text: the block, and the text behind it. -/
def stripLeading? (d : Delimiters) (text : String) : Option (AttributeBlock × String) := do
  let body ← Text.dropStart? d.left.toList text.toList
  let (inner, after) ← Text.splitFirst? d.right.toList body
  let block ← d.block? inner
  return (block, String.ofList after)

end Delimiters

end Folio
