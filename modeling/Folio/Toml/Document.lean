import Folio.Toml.Scalar

/-!
# TOML documents

A document is a sequence of statements: headers of tables, and entries of the table that the last
header names.  A table may be defined once only; what an entry with a dotted key defines is not
defined again by a header, and the other way round.

## Main definitions

* `Statement` — a header or an entry.
* `Part` — a part of a document under construction.
* `Part.put?`, `Part.open?`, `Part.openItem?` — what the statements do.
* `parse?` — the table that a document describes.
-/

namespace Folio.Toml

/-! ### Parts of a document -/

/-- How a table has come about. -/
inductive Origin where
  /-- A header names a table in it. -/
  | implied
  /-- A dotted key names an entry in it. -/
  | dotted
  /-- A header names it. -/
  | header
  deriving DecidableEq, Repr

/-- A part of a document under construction. -/
inductive Part where
  /-- A value, to which nothing can be added. -/
  | closed (v : Value)
  | table (origin : Origin) (entries : List (String × Part))
  /-- Tables that headers add one by one, the last one first. -/
  | tables (items : List (List (String × Part)))
  deriving Inhabited

namespace Part

mutual

/-- The value of a part. -/
def value : Part → Value
  | .closed v => v
  | .table _ entries => .table (entryValues entries)
  | .tables items => .array (itemValues [] items)

/-- The values of entries, in order of their keys. -/
def entryValues : List (String × Part) → List (String × Value)
  | [] => []
  | (k, p) :: es => insertSorted k p.value (entryValues es)
where
  /-- Adds an entry in order of the keys. -/
  insertSorted (k : String) (v : Value) : List (String × Value) → List (String × Value)
    | [] => [(k, v)]
    | (l, w) :: es => if k < l then (k, v) :: (l, w) :: es else (l, w) :: insertSorted k v es

/-- The values of tables, which are given the last one first. -/
def itemValues (later : List Value) : List (List (String × Part)) → List Value
  | [] => later
  | es :: items => itemValues (.table (entryValues es) :: later) items

end

/-- Changes what stands under a key; `none` stands for nothing. -/
def change? (f : Option Part → Option Part) (key : String) :
    List (String × Part) → Option (List (String × Part))
  | [] => (f none).map fun p => [(key, p)]
  | (k, p) :: es =>
    if k == key then (f (some p)).map fun p => (k, p) :: es
    else (change? f key es).map fun es => (k, p) :: es

/-- Changes the entries of the table at a path.  Tables on the way are made as `origin` says; a
table of a header is not entered by a dotted key.  `f` gets how the table has come about. -/
def within? (origin : Origin) (f : Origin → List (String × Part) → Option (List (String × Part))) :
    List String → Origin → List (String × Part) → Option (List (String × Part))
  | [], here, entries => f here entries
  | key :: path, _, entries =>
    change? (fun p =>
      match p with
      | none => (within? origin f path origin []).map (.table origin)
      | some (.table made es) =>
        if origin == .dotted && made == .header then none
        else (within? origin f path made es).map (.table made)
      | some (.tables (es :: earlier)) =>
        (within? origin f path .header es).map fun es => .tables (es :: earlier)
      | some _ => none) key entries

/-- Adds an entry, unless there is one of its key. -/
def put? (key : String) (v : Value) (entries : List (String × Part)) :
    Option (List (String × Part)) :=
  change? (fun p => match p with
    | none => some (.closed v)
    | some _ => none) key entries

/-- Adds an entry with a dotted key.  The tables on its way must be tables of dotted keys. -/
def putDotted? (path : List String) (key : String) (v : Value) (entries : List (String × Part)) :
    Option (List (String × Part)) :=
  within? .dotted (fun here es =>
    if path.isEmpty || here == .dotted then put? key v es else none) path .header entries

/-- Makes the table that a header names. -/
def open? (key : String) (entries : List (String × Part)) : Option (List (String × Part)) :=
  change? (fun p => match p with
    | none => some (.table .header [])
    | some (.table .implied es) => some (.table .header es)
    | some _ => none) key entries

/-- Adds a table to the tables that a header names. -/
def openItem? (key : String) (entries : List (String × Part)) : Option (List (String × Part)) :=
  change? (fun p => match p with
    | none => some (.tables [[]])
    | some (.tables items) => some (.tables ([] :: items))
    | some _ => none) key entries

end Part

/-- A line of a document. -/
inductive Statement where
  | header (path : List String) (key : String)
  | itemHeader (path : List String) (key : String)
  | entry (path : List String) (key : String) (v : Value)

/-- A document under construction: its entries, and the table that the last header names. -/
structure Draft where
  /-- The entries of the document. -/
  entries : List (String × Part) := []
  /-- The path of the table that entries go to. -/
  current : List String := []

/-- The document with one more statement; none if it contradicts what is there. -/
def Draft.add? (d : Draft) : Statement → Option Draft
  | .header path key =>
    (Part.within? .implied (fun _ => Part.open? key) path .header d.entries).map fun es =>
      { entries := es, current := path ++ [key] }
  | .itemHeader path key =>
    (Part.within? .implied (fun _ => Part.openItem? key) path .header d.entries).map fun es =>
      { entries := es, current := path ++ [key] }
  | .entry path key v =>
    (Part.within? .implied (fun _ => Part.putDotted? path key v) d.current .header d.entries).map
      fun es => { d with entries := es }

/-! ### Reading -/

/-- What follows a comment; a comment must not hold control characters. -/
def skipComment? (cs : List Char) : Option (List Char) :=
  match cs with
  | '#' :: rest =>
    let after := rest.dropWhile fun c => !isControl c
    if after.isEmpty || (lineEnd? after).isSome then some after else none
  | _ => some cs

/-- What follows blanks, comments and line ends.  `fuel` bounds the length of the text. -/
def skipLines? : Nat → List Char → Option (List Char)
  | 0, cs => some cs
  | fuel + 1, cs => do
    let cs ← skipComment? (cs.dropWhile isBlank)
    match lineEnd? cs with
    | some rest => skipLines? fuel rest
    | none => some cs

/-- What follows the end of a statement. -/
def endStatement? (cs : List Char) : Option (List Char) := do
  let cs ← skipComment? (cs.dropWhile isBlank)
  if cs.isEmpty then some [] else lineEnd? cs

/-- A character of a key without quotes. -/
def isBare (c : Char) : Bool := c.isAlphanum || c == '_' || c == '-'

/-- A part of a key, and what follows it. -/
def keyPart? (cs : List Char) : Option (String × List Char) :=
  match cs with
  | [] => none
  | c :: rest =>
    if c == '\x22' || c == '\x27' then
      (lineString? c (rest.length + 1) rest).map fun p => (String.ofList p.1, p.2)
    else
      let name := cs.takeWhile isBare
      if name.isEmpty then none else some (String.ofList name, cs.drop name.length)

/-- A key of parts with dots between them, and what follows it and the blanks behind it.  `fuel`
bounds the length of the text. -/
def key? : Nat → List Char → Option (List String × String × List Char)
  | 0, _ => none
  | fuel + 1, cs => do
    let (part, rest) ← keyPart? (cs.dropWhile isBlank)
    match rest.dropWhile isBlank with
    | '.' :: more =>
      let (path, last, rest) ← key? fuel more
      return (part :: path, last, rest)
    | rest => return ([], part, rest)

/-- A character of a value without quotes. -/
def isWordChar (c : Char) : Bool := isBare c || c == '+' || c == '.' || c == ':'

/-- The value of a word, and what follows it.  A date may be followed by a blank and a time. -/
def word? (cs : List Char) : Option (Value × List Char) :=
  let word := cs.takeWhile isWordChar
  let rest := cs.drop word.length
  let time := rest.tail.takeWhile isWordChar
  let joined := match rest, time with
    | ' ' :: _, d :: _ => d.isDigit && word.length == 10 && (date? word).isSome
    | _, _ => false
  if joined then
    (scalar? (word ++ ' ' :: time)).map fun v => (v, rest.tail.drop time.length)
  else (scalar? word).map fun v => (v, rest)

mutual

/-- A value, and what follows it.  `depth` bounds how deep arrays and tables are nested. -/
def value? (depth : Nat) (fuel : Nat) (cs : List Char) : Option (Value × List Char) :=
  match fuel with
  | 0 => none
  | fuel + 1 =>
    match cs with
    | [] => none
    | c :: rest =>
      if c == '\x22' || c == '\x27' then
        (string? c rest).map fun p => (.string (String.ofList p.1), p.2)
      else if c == '[' then
        if depth == 0 then none
        else (items? (depth - 1) fuel rest).map fun p => (.array p.1, p.2)
      else if c == '\x7b' then
        if depth == 0 then none
        else do
          let (entries, rest) ← inlineEntries? (depth - 1) fuel [] rest
          return ((Part.table .header entries).value, rest)
      else word? cs

/-- The items of an array from behind its bracket or a comma, and what follows the array. -/
def items? (depth : Nat) (fuel : Nat) (cs : List Char) : Option (List Value × List Char) :=
  match fuel with
  | 0 => none
  | fuel + 1 => do
    let cs ← skipLines? (cs.length + 1) cs
    match cs with
    | ']' :: rest => some ([], rest)
    | _ =>
      let (v, rest) ← value? depth fuel cs
      let rest ← skipLines? (rest.length + 1) rest
      match rest with
      | ',' :: rest =>
        let (vs, rest) ← items? depth fuel rest
        return (v :: vs, rest)
      | ']' :: rest => return ([v], rest)
      | _ => none

/-- The entries of a table in braces from behind its brace or a comma, and what follows the
table. -/
def inlineEntries? (depth : Nat) (fuel : Nat) (entries : List (String × Part)) (cs : List Char) :
    Option (List (String × Part) × List Char) :=
  match fuel with
  | 0 => none
  | fuel + 1 => do
    let cs ← skipLines? (cs.length + 1) cs
    match cs with
    | '\x7d' :: rest => some (entries, rest)
    | _ =>
      let (path, key, rest) ← key? (cs.length + 1) cs
      match rest with
      | '=' :: rest =>
        let (v, rest) ← value? depth fuel (rest.dropWhile isBlank)
        let entries ← Part.putDotted? path key v entries
        let rest ← skipLines? (rest.length + 1) rest
        match rest with
        | ',' :: rest => inlineEntries? depth fuel entries rest
        | '\x7d' :: rest => some (entries, rest)
        | _ => none
      | _ => none

end

/-- How deep arrays and tables may be nested. -/
def maxDepth : Nat := 80

/-- The statement at the beginning of a line, and what follows it. -/
def statement? (cs : List Char) : Option (Statement × List Char) :=
  match cs with
  | '[' :: '[' :: rest => do
    let (path, key, rest) ← key? (rest.length + 1) rest
    match rest with
    | ']' :: ']' :: rest => some (.itemHeader path key, rest)
    | _ => none
  | '[' :: rest => do
    let (path, key, rest) ← key? (rest.length + 1) rest
    match rest with
    | ']' :: rest => some (.header path key, rest)
    | _ => none
  | _ => do
    let (path, key, rest) ← key? (cs.length + 1) cs
    match rest with
    | '=' :: rest =>
      let (v, rest) ← value? maxDepth (rest.length + 1) (rest.dropWhile isBlank)
      return (.entry path key v, rest)
    | _ => none

/-- Reads the statements of a document.  `fuel` bounds the length of the text. -/
def statements? : Nat → Draft → List Char → Option Draft
  | 0, d, _ => some d
  | fuel + 1, d, cs => do
    let cs ← skipLines? (cs.length + 1) cs
    if cs.isEmpty then some d
    else
      let (s, rest) ← statement? cs
      let d ← d.add? s
      statements? fuel d (← endStatement? rest)

/-- The entries of a document, in order of their keys; none if it is not well formed. -/
def parse? (text : String) : Option (List (String × Value)) :=
  let cs := match text.toList with
    | '\ufeff' :: rest => rest
    | cs => cs
  (statements? (cs.length + 1) {} cs).map fun d => Part.entryValues d.entries

end Folio.Toml
