import Folio.Text.Character

/-!
# Slugs

The id of a heading is made of the words of its text in lower case, joined by dashes.  A slug that
is already taken on the page gets a number behind it.

## Main definitions

* `slugify` — the slug of a text.
* `SlugCounter` — the slugs and ids of a page that are taken.
* `SlugCounter.reserve` — takes an id.
* `SlugCounter.unique` — takes a slug that is still free.
-/

namespace Folio

/-- The characters of a slug.  Blank space, dashes and underscores become one dash unless one has
just been written; other characters that are neither letters nor numbers are dropped. -/
def slugChars : (afterDash : Bool) → List Char → List Char
  | _, [] => []
  | afterDash, c :: cs =>
    if Text.isAlphanumeric c then Text.lower c ++ slugChars false cs
    else if !afterDash && (Text.isBlank c || c == '-' || c == '_') then '-' :: slugChars true cs
    else slugChars afterDash cs

/-- The slug of a text. -/
def slugify (text : String) : String :=
  let cs := slugChars true (Text.trim text.toList)
  String.ofList (if cs.getLast? == some '-' then cs.dropLast else cs)

/-- The slugs and ids of a page that are taken, each with the number of times that it was asked
for as the slug of a text. -/
structure SlugCounter where
  /-- The number for each id. -/
  counts : List (String × Nat) := []

namespace SlugCounter

/-- The id is taken. -/
def taken (s : SlugCounter) (id : String) : Bool := (s.counts.lookup id).isSome

/-- Takes an id. -/
def reserve (s : SlugCounter) (id : String) : SlugCounter :=
  if s.taken id then s else { s with counts := (id, 1) :: s.counts }

/-- Sets the number of an id. -/
def setCount (s : SlugCounter) (id : String) (n : Nat) : SlugCounter :=
  { s with counts := (id, n) :: s.counts.filter fun p => p.1 != id }

/-- The slug with a number behind it, unless the number is zero. -/
def numbered (base : String) (n : Nat) : String :=
  if n == 0 then base else base ++ "-" ++ toString n

/-- Takes the first free slug among `base` and its numbered forms from `n` on.  `fuel` bounds the
number of forms that are tried. -/
def uniqueFrom (s : SlugCounter) (base : String) : Nat → Nat → String × SlugCounter
  | 0, n => (numbered base n, (s.setCount base (n + 1)).reserve (numbered base n))
  | fuel + 1, n =>
    let candidate := numbered base n
    if n == 0 || !s.taken candidate then (candidate, (s.setCount base (n + 1)).reserve candidate)
    else uniqueFrom s base fuel (n + 1)

/-- Takes a free slug for a text.  A text without letters and numbers counts as `section`. -/
def unique (s : SlugCounter) (text : String) : String × SlugCounter :=
  let slug := slugify text
  let base := if slug.isEmpty then "section" else slug
  s.uniqueFrom base (s.counts.length + 1) ((s.counts.lookup base).getD 0)

end SlugCounter

end Folio
