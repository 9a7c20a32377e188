import Folio.Html.Element
import Folio.Html.NamedCharacter

/-!
# Lexemes of a page

A page is read as a sequence of tags, comments and characters.  How the next of them is read
depends on the element that the page is in, since the content of some elements is text up to
their end tag.

## Main definitions

* `Content` — how the text of an element is read.
* `Lexeme` — a tag, a comment or characters.
* `reference?` — the characters that a character reference stands for.
* `Lexeme.next` — the next lexeme of a page, and what follows it.
-/

namespace Folio.Html

/-- How the text of an element is read. -/
inductive Content where
  /-- Tags, comments, character references and text. -/
  | markup
  /-- Text with character references, up to the end tag of the name. -/
  | escapable (name : String)
  /-- Text up to the end tag of the name. -/
  | raw (name : String)
  /-- A script, whose end tag may stand inside a comment. -/
  | script
  /-- Text up to the end of the page. -/
  | plain
  deriving DecidableEq, Repr, Inhabited

/-- A piece of a page. -/
inductive Lexeme where
  | startTag (tag : Tag)
  | endTag (tag : Tag)
  | comment (s : String)
  | characters (cs : List Char)
  deriving DecidableEq, Repr, Inhabited

/-- The character that stands for what cannot be read. -/
def replacement : Char := '\ufffd'

/-- White space between the parts of a tag. -/
def isTagBlank (c : Char) : Bool := c == ' ' || c == '\t' || c == '\n' || c == '\x0c'

/-- The text with every zero byte replaced. -/
def withoutZero (cs : List Char) : List Char :=
  cs.map fun c => if c == '\x00' then replacement else c

/-! ### Character references -/

/-- The characters that the numbers from 128 to 159 stand for; zero where the number stands for
itself. -/
def windowsNumbers : List Nat :=
  [0x20AC, 0, 0x201A, 0x0192, 0x201E, 0x2026, 0x2020, 0x2021, 0x02C6, 0x2030, 0x0160, 0x2039,
    0x0152, 0, 0x017D, 0, 0, 0x2018, 0x2019, 0x201C, 0x201D, 0x2022, 0x2013, 0x2014, 0x02DC,
    0x2122, 0x0161, 0x203A, 0x0153, 0, 0x017E, 0x0178]

/-- The character of a number. -/
def numberedCharacter (n : Nat) : Char :=
  if n == 0 || n > 0x10FFFF || (0xD800 ≤ n && n ≤ 0xDFFF) then replacement
  else if 0x80 ≤ n && n ≤ 0x9F then
    match windowsNumbers[n - 0x80]? with
    | some 0 | none => Char.ofNat n
    | some m => Char.ofNat m
  else Char.ofNat n

/-- The value of a digit. -/
def digitValue (c : Char) : Nat :=
  if c.isDigit then c.toNat - 48 else c.toLower.toNat - 87

/-- A digit to base 16. -/
def isHexadecimal (c : Char) : Bool :=
  c.isDigit || ('a' ≤ c.toLower && c.toLower ≤ 'f')

/-- The character with the digits `ds`, which `rest` follows; a semicolon behind them belongs to
the reference. -/
def numbered? (base : Nat) (ds rest : List Char) : Option (List Char × List Char) :=
  if ds.isEmpty then none
  else
    let c := numberedCharacter (ds.foldl (fun n d => base * n + digitValue d) 0)
    match rest with
    | ';' :: after => some ([c], after)
    | _ => some ([c], rest)

/-- The longest name at the beginning of `word`, among those of at most `n` characters, that needs
no semicolon. -/
def bareName? (word : List Char) : Nat → Option (List Char)
  | 0 => none
  | n + 1 =>
    let name := word.take (n + 1)
    if bareNames.contains (String.ofList name) then some name else bareName? word n

/-- The characters of a name. -/
def namedCharacter (name : List Char) : List Char :=
  ((namedCharacters.lookup (String.ofList name)).getD []).map Char.ofNat

/-- The characters of the reference from behind its `&`, and what follows it.  In the value of an
attribute a name without a semicolon counts only where the word ends. -/
def reference? (inValue : Bool) (cs : List Char) : Option (List Char × List Char) :=
  match cs with
  | '#' :: x :: rest =>
    if x == 'x' || x == 'X' then
      let ds := rest.takeWhile isHexadecimal
      numbered? 16 ds (rest.drop ds.length)
    else
      let ds := (x :: rest).takeWhile Char.isDigit
      numbered? 10 ds ((x :: rest).drop ds.length)
  | _ =>
    let word := cs.takeWhile Char.isAlphanum
    let after := cs.drop word.length
    match after, namedCharacter word with
    | ';' :: rest, c :: more => some (c :: more, rest)
    | _, _ =>
      match bareName? word word.length with
      | none => none
      | some name =>
        let rest := cs.drop name.length
        let continues := match rest with
          | c :: _ => c == '=' || c.isAlphanum
          | [] => false
        if inValue && continues then none else some (namedCharacter name, rest)

/-- The value of an attribute with its references resolved.  `fuel` bounds the length of the
value. -/
def resolveValue : Nat → List Char → List Char
  | 0, cs => cs
  | _, [] => []
  | fuel + 1, '&' :: rest =>
    match reference? true rest with
    | some (value, after) => value ++ resolveValue fuel after
    | none => '&' :: resolveValue fuel rest
  | fuel + 1, c :: rest => (if c == '\x00' then replacement else c) :: resolveValue fuel rest

/-! ### Tags -/

/-- The attribute with its value resolved. -/
def attributeOf (name value : List Char) : ElementAttribute :=
  { name := String.ofList (withoutZero (name.map Char.toLower))
    value := String.ofList (resolveValue value.length value) }

/-- The value of an attribute from behind the equals sign, and what follows it; nothing if the
page ends in it. -/
def attributeValue? (cs : List Char) : Option (List Char × List Char) :=
  match cs.dropWhile isTagBlank with
  | [] => none
  | c :: rest =>
    if c == '\x22' || c == '\x27' then
      match rest.dropWhile (· != c) with
      | _ :: after => some (rest.takeWhile (· != c), after)
      | [] => none
    else
      let value := (c :: rest).takeWhile fun d => !isTagBlank d && d != '>'
      some (value, (c :: rest).drop value.length)

/-- The attribute at the beginning of `cs`, which is neither a blank nor a slash nor the end of
the tag, and what follows it. -/
def attribute? (cs : List Char) : Option (ElementAttribute × List Char) :=
  match cs with
  | [] => none
  | first :: rest =>
    let more := rest.takeWhile fun c => !isTagBlank c && c != '/' && c != '>' && c != '='
    let after := rest.drop more.length
    let name := first :: more
    match after.dropWhile isTagBlank with
    | '=' :: value => (attributeValue? value).map fun p => (attributeOf name p.1, p.2)
    | _ => some (attributeOf name [], after)

/-- Adds an attribute unless there is one of its name. -/
def addAttribute (all : List ElementAttribute) (a : ElementAttribute) : List ElementAttribute :=
  if all.any fun b => b.name == a.name then all else all ++ [a]

/-- The attributes up to the end of a tag, whether it ends in a slash, and what follows it;
nothing if the page ends before the tag.  `fuel` bounds the length of the page. -/
def tagRest? : Nat → List ElementAttribute → List Char →
    Option (List ElementAttribute × Bool × List Char)
  | 0, _, _ => none
  | _, _, [] => none
  | _, all, '>' :: rest => some (all, false, rest)
  | _, all, '/' :: '>' :: rest => some (all, true, rest)
  | fuel + 1, all, c :: rest =>
    if c == '/' || isTagBlank c then tagRest? fuel all rest
    else match attribute? (c :: rest) with
      | some (a, after) => tagRest? fuel (addAttribute all a) after
      | none => none

/-- The tag with its name at the beginning of `cs`, and what follows it; nothing if the page ends
before the tag. -/
def tag? (cs : List Char) : Option (Tag × List Char) :=
  let name := cs.takeWhile fun c => !isTagBlank c && c != '/' && c != '>'
  (tagRest? cs.length [] (cs.drop name.length)).map fun p =>
    ({ name := String.ofList (withoutZero (name.map Char.toLower)), attributes := p.1,
       selfClosing := p.2.1 }, p.2.2)

/-! ### Comments -/

/-- The text of a comment from behind `<!--`, in reverse, and what follows it.  The page may end
in the comment, and then the dashes at its end do not belong to it. -/
def commentText : List Char → List Char → List Char × List Char
  | '!' :: '-' :: '-' :: text, [] => (text, [])
  | text, [] => (text.drop (min 2 (text.takeWhile (· == '-')).length), [])
  | text, '-' :: '-' :: '>' :: rest => (text, rest)
  | text, '-' :: '-' :: '!' :: '>' :: rest => (text, rest)
  | text, c :: rest => commentText (c :: text) rest

/-- The comment from behind `<!--`, and what follows it. -/
def commentFrom (cs : List Char) : Lexeme × List Char :=
  match cs with
  | '>' :: rest => (.comment "", rest)
  | '-' :: '>' :: rest => (.comment "", rest)
  | _ =>
    let (text, rest) := commentText [] cs
    (.comment (String.ofList (withoutZero text.reverse)), rest)

/-- The comment that stands for markup that is not understood, and what follows it. -/
def bogusComment (cs : List Char) : Lexeme × List Char :=
  let text := cs.takeWhile (· != '>')
  (.comment (String.ofList (withoutZero text)), cs.drop (text.length + 1))

/-- The text up to the end of a section of plain characters, and what follows it. -/
def sectionText : List Char → List Char × List Char
  | [] => ([], [])
  | ']' :: ']' :: '>' :: rest => ([], rest)
  | c :: rest =>
    let (text, after) := sectionText rest
    (c :: text, after)

/-- A text begins with a word, but for capitals. -/
def beginsWith (word : String) (cs : List Char) : Bool :=
  (cs.take word.length).map Char.toLower == word.toList

/-- What stands behind `<!`, and what follows it.  Sections of plain characters count only where
`foreign` elements are. -/
def declaration (foreign : Bool) (cs : List Char) : Lexeme × List Char :=
  if beginsWith "--" cs then commentFrom (cs.drop 2)
  else if beginsWith "doctype" cs then
    (.characters [], (cs.dropWhile (· != '>')).drop 1)
  else if foreign && cs.take 7 == "[CDATA[".toList then
    let (text, rest) := sectionText (cs.drop 7)
    (.characters text, rest)
  else bogusComment cs

/-! ### Text up to an end tag -/

/-- What follows is the name of an end tag, but for capitals. -/
def endsElement (name : String) (cs : List Char) : Bool :=
  beginsWith name cs && match cs.drop name.length with
    | c :: _ => isTagBlank c || c == '/' || c == '>'
    | [] => false

/-- How deep in comments a script is. -/
inductive ScriptDepth where
  | outside
  | comment
  | nested
  deriving DecidableEq, Repr

/-- How deep a script is after one of its characters, which `rest` follows. -/
def ScriptDepth.next (c : Char) (rest : List Char) (dashes : Nat) (ends : Bool) :
    ScriptDepth → ScriptDepth
  | .outside => if c == '<' && rest.take 3 == ['!', '-', '-'] then .comment else .outside
  | .comment =>
    if c == '>' && 2 ≤ dashes then .outside
    else if c == '<' && endsElement "script" rest then .nested
    else .comment
  | .nested =>
    if c == '>' && 2 ≤ dashes then .outside else if c == '<' && ends then .comment else .nested

/-- The text of a script, and what follows it from its end tag.  `dashes` counts the dashes just
before. -/
def scriptText (depth : ScriptDepth) (dashes : Nat) : List Char → List Char × List Char
  | [] => ([], [])
  | c :: rest =>
    let ends := match rest with
      | '/' :: name => endsElement "script" name
      | _ => false
    if c == '<' && ends && depth != .nested then ([], c :: rest)
    else
      let (text, after) := scriptText (depth.next c rest dashes ends)
        (if c == '-' then dashes + 1 else 0) rest
      (c :: text, after)

/-! ### Lexemes -/

/-- One character that stands for itself, or a character reference where `resolves`, and what
follows it. -/
def character (resolves : Bool) (c : Char) (rest : List Char) : Lexeme × List Char :=
  if resolves && c == '&' then
    match reference? false rest with
    | some (value, after) => (.characters value, after)
    | none => (.characters [c], rest)
  else (.characters [c], rest)

/-- The end tag of an element whose content is text, if it begins here.  A page that ends in the
tag has no such tag. -/
def closing? (name : String) (c : Char) (rest : List Char) : Option (Lexeme × List Char) :=
  match rest with
  | '/' :: more =>
    if c == '<' && endsElement name more then
      match tag? more with
      | some (t, after) => some (.endTag t, after)
      | none => some (.characters [], [])
    else none
  | _ => none

/-- The next lexeme among tags and text. -/
def markupLexeme (foreign : Bool) (c : Char) (rest : List Char) : Lexeme × List Char :=
  if c != '<' then character true c rest
  else match rest with
    | '!' :: more => declaration foreign more
    | '?' :: _ => bogusComment rest
    | '/' :: '>' :: more => (.characters [], more)
    | '/' :: d :: more =>
      if d.isAlpha then
        match tag? (d :: more) with
        | some (t, after) => (.endTag t, after)
        | none => (.characters [], [])
      else bogusComment (d :: more)
    | d :: more =>
      if d.isAlpha then
        match tag? (d :: more) with
        | some (t, after) => (.startTag t, after)
        | none => (.characters [], [])
      else (.characters [c], rest)
    | [] => (.characters [c], rest)

/-- The next lexeme of a page that goes on with `c` and `rest`, and what follows it. -/
def Lexeme.next (content : Content) (foreign : Bool) (c : Char) (rest : List Char) :
    Lexeme × List Char :=
  let safe := if c == '\x00' then replacement else c
  match content with
  | .markup => markupLexeme foreign c rest
  | .escapable name => (closing? name c rest).getD (character true safe rest)
  | .raw name => (closing? name c rest).getD (character false safe rest)
  | .script =>
    match closing? "script" c rest with
    | some found => found
    | none =>
      let (text, after) := scriptText .outside 0 (c :: rest)
      (.characters (withoutZero text), after)
  | .plain => character false safe rest

/-- The characters of a page with each end of line as one line feed, and without a byte order
mark. -/
def normalizedLines : List Char → List Char
  | [] => []
  | '\r' :: '\n' :: rest => '\n' :: normalizedLines rest
  | '\r' :: rest => '\n' :: normalizedLines rest
  | c :: rest => c :: normalizedLines rest

end Folio.Html
