import Folio.Toml.Value

/-!
# Scalars

The values of a TOML document that have no parts: strings, numbers, truth values and moments.

## Main definitions

* `string?` — a string in any of its four forms.
* `moment?` — a date, a time or both.
* `scalar?` — the value of a word without quotes.
-/

namespace Folio.Toml

/-! ### Strings -/

/-- A control character, which must not stand in a string or a comment. -/
def isControl (c : Char) : Bool := (c.toNat < 0x20 && c != '\t') || c.toNat == 0x7F

/-- A blank. -/
def isBlank (c : Char) : Bool := c == ' ' || c == '\t'

/-- A digit to base 16. -/
def isHexDigit (c : Char) : Bool := c.isDigit || ('a' ≤ c.toLower && c.toLower ≤ 'f')

/-- The value of a digit. -/
def digitValue (c : Char) : Nat := if c.isDigit then c.toNat - 48 else c.toLower.toNat - 87

/-- The value of digits. -/
def valueOf (base : Nat) (ds : List Char) : Nat := ds.foldl (fun n d => base * n + digitValue d) 0

/-- The character with a code of `n` digits to base 16, and what follows it. -/
def coded? (n : Nat) (cs : List Char) : Option (Char × List Char) :=
  let ds := cs.take n
  if ds.length == n && ds.all isHexDigit && (valueOf 16 ds).isValidChar then
    some (Char.ofNat (valueOf 16 ds), cs.drop n)
  else none

/-- The character that an escape stands for, from behind its backslash, and what follows it. -/
def escape? (cs : List Char) : Option (Char × List Char) :=
  match cs with
  | 'b' :: rest => some ('\x08', rest)
  | 't' :: rest => some ('\t', rest)
  | 'n' :: rest => some ('\n', rest)
  | 'f' :: rest => some ('\x0c', rest)
  | 'r' :: rest => some ('\r', rest)
  | 'e' :: rest => some ('\x1b', rest)
  | '\x22' :: rest => some ('\x22', rest)
  | '\\' :: rest => some ('\\', rest)
  | 'x' :: rest => coded? 2 rest
  | 'u' :: rest => coded? 4 rest
  | 'U' :: rest => coded? 8 rest
  | _ => none

/-- A string on one line from behind its opening quote, and what follows it.  `fuel` bounds the
length of the text. -/
def lineString? (quote : Char) : Nat → List Char → Option (List Char × List Char)
  | 0, _ => none
  | _, [] => none
  | fuel + 1, c :: rest =>
    if c == quote then some ([], rest)
    else if c == '\\' && quote == '\x22' then do
      let (e, rest) ← escape? rest
      let (text, rest) ← lineString? quote fuel rest
      return (e :: text, rest)
    else if isControl c then none
    else (lineString? quote fuel rest).map fun p => (c :: p.1, p.2)

/-- A line end, and what follows it. -/
def lineEnd? : List Char → Option (List Char)
  | '\n' :: rest => some rest
  | '\r' :: '\n' :: rest => some rest
  | _ => none

/-- What follows a backslash that stands at the end of a line: the blanks and line ends after it
do not count. -/
def continued? (cs : List Char) : Option (List Char) :=
  (lineEnd? (cs.dropWhile isBlank)).map fun rest =>
    rest.dropWhile fun c => isBlank c || c == '\n' || c == '\r'

/-- A string over several lines from behind its opening quotes, and what follows it.  Up to two
quotes may stand before the closing ones.  `fuel` bounds the length of the text. -/
def linesString? (quote : Char) : Nat → List Char → Option (List Char × List Char)
  | 0, _ => none
  | _, [] => none
  | fuel + 1, c :: rest =>
    let quotes := ((c :: rest).takeWhile (· == quote)).length
    if 3 ≤ quotes then
      let n := min quotes 5
      some (List.replicate (n - 3) quote, (c :: rest).drop n)
    else if c == '\\' && quote == '\x22' then
      match continued? rest with
      | some after => linesString? quote fuel after
      | none => do
        let (e, rest) ← escape? rest
        let (text, rest) ← linesString? quote fuel rest
        return (e :: text, rest)
    else match lineEnd? (c :: rest) with
      | some after => (linesString? quote fuel after).map fun p => ('\n' :: p.1, p.2)
      | none =>
        if isControl c then none
        else (linesString? quote fuel rest).map fun p => (c :: p.1, p.2)

/-- A string from behind its opening quote, and what follows it.  A line end directly behind three
quotes does not count. -/
def string? (quote : Char) (cs : List Char) : Option (List Char × List Char) :=
  if cs.take 2 == [quote, quote] then
    let body := cs.drop 2
    linesString? quote (body.length + 1) ((lineEnd? body).getD body)
  else lineString? quote (cs.length + 1) cs

/-! ### Numbers -/

/-- Digits without the single underscores between them. -/
def digits? (isDigit : Char → Bool) : List Char → Option (List Char)
  | [] => none
  | [c] => if isDigit c then some [c] else none
  | c :: '_' :: rest => if isDigit c then (digits? isDigit rest).map (c :: ·) else none
  | c :: rest => if isDigit c then (digits? isDigit rest).map (c :: ·) else none

/-- Decimal digits without a zero in front of others. -/
def wholeDigits? (cs : List Char) : Option (List Char) := do
  let ds ← digits? Char.isDigit cs
  if 1 < ds.length && ds.head? == some '0' then none else some ds

/-- A whole number without a sign: decimal, or to another base behind a mark. -/
def based? (cs : List Char) : Option Nat :=
  match cs with
  | '0' :: 'x' :: ds => (digits? isHexDigit ds).map (valueOf 16)
  | '0' :: 'o' :: ds => (digits? (fun c => '0' ≤ c && c ≤ '7') ds).map (valueOf 8)
  | '0' :: 'b' :: ds => (digits? (fun c => c == '0' || c == '1') ds).map (valueOf 2)
  | _ => none

/-- The list before an element and behind it. -/
def cut? (test : Char → Bool) (cs : List Char) : List Char × Option (List Char) :=
  let before := cs.takeWhile fun c => !test c
  match cs.drop before.length with
  | _ :: after => (before, some after)
  | [] => (before, none)

/-- An exponent with or without a sign. -/
def exponent? (cs : List Char) : Option Int :=
  match cs with
  | '+' :: ds => (digits? Char.isDigit ds).map fun ds => (valueOf 10 ds : Int)
  | '-' :: ds => (digits? Char.isDigit ds).map fun ds => -(valueOf 10 ds : Int)
  | ds => (digits? Char.isDigit ds).map fun ds => (valueOf 10 ds : Int)

/-- A number with a point, an exponent or both; none if it is too large. -/
def real? (negative : Bool) (cs : List Char) : Option Binary64 := do
  let (mantissa, power) := cut? (fun c => c == 'e' || c == 'E') cs
  let (whole, fraction) := cut? (· == '.') mantissa
  let whole ← wholeDigits? whole
  let fraction ← match fraction with
    | some ds => digits? Char.isDigit ds
    | none => some []
  let power ← match power with
    | some ds => exponent? ds
    | none => some 0
  Binary64.ofDecimal? negative (valueOf 10 (whole ++ fraction)) (power - fraction.length)

/-- A decimal number with or without a sign. -/
def number? (cs : List Char) : Option Value :=
  let (sign, negative, body) := match cs with
    | '+' :: rest => (true, false, rest)
    | '-' :: rest => (true, true, rest)
    | _ => (false, false, cs)
  if body == "inf".toList || body == "nan".toList then some (.float none)
  else match wholeDigits? body, sign with
    | some ds, _ =>
      let n : Int := valueOf 10 ds
      some (.integer (if negative then -n else n))
    | none, true => (real? negative body).map fun x => .float (some x)
    | none, false =>
      match based? body with
      | some n => some (.integer n)
      | none => (real? negative body).map fun x => .float (some x)

/-! ### Moments -/

/-- The number of `n` decimal digits, and what follows it. -/
def fixedNumber? (n : Nat) (cs : List Char) : Option (Nat × List Char) :=
  let ds := cs.take n
  if ds.length == n && ds.all Char.isDigit then some (valueOf 10 ds, cs.drop n) else none

/-- The days of a month. -/
def daysOf (year month : Nat) : Nat :=
  if month == 2 then
    if year % 4 == 0 && (year % 100 != 0 || year % 400 == 0) then 29 else 28
  else if [4, 6, 9, 11].contains month then 30
  else 31

/-- Two digits. -/
def twoDigits (n : Nat) : List Char := [Nat.digitChar (n / 10 % 10), Nat.digitChar (n % 10)]

/-- The text of a date at the beginning, and what follows it. -/
def date? (cs : List Char) : Option (List Char × List Char) := do
  let (year, rest) ← fixedNumber? 4 cs
  let rest ← if rest.head? == some '-' then some rest.tail else none
  let (month, rest) ← fixedNumber? 2 rest
  let rest ← if rest.head? == some '-' then some rest.tail else none
  let (day, rest) ← fixedNumber? 2 rest
  if 1 ≤ month && month ≤ 12 && 1 ≤ day && day ≤ daysOf year month then
    some (cs.take 10, rest)
  else none

/-- The text of a fraction of a second, of which nine digits count, without zeros at its end. -/
def fractionText (ds : List Char) : List Char :=
  let kept := ((ds.take 9).reverse.dropWhile (· == '0')).reverse
  '.' :: if kept.isEmpty then ['0'] else kept

/-- The text of a time of day at the beginning, and what follows it.  Seconds may be left out. -/
def time? (cs : List Char) : Option (List Char × List Char) := do
  let (hour, rest) ← fixedNumber? 2 cs
  let rest ← if rest.head? == some ':' then some rest.tail else none
  let (minute, rest) ← fixedNumber? 2 rest
  if 23 < hour || 59 < minute then none
  else
    let short := twoDigits hour ++ ':' :: twoDigits minute
    match rest with
    | ':' :: rest => do
      let (second, rest) ← fixedNumber? 2 rest
      if 60 < second then none
      else
        let whole := short ++ ':' :: twoDigits second
        match rest with
        | '.' :: rest =>
          let ds := rest.takeWhile Char.isDigit
          if ds.isEmpty then none else some (whole ++ fractionText ds, rest.drop ds.length)
        | _ => some (whole, rest)
    | _ => some (short, rest)

/-- The text of a distance from universal time. -/
def offset? (cs : List Char) : Option (List Char) := do
  match cs with
  | ['Z'] => some ['Z']
  | ['z'] => some ['Z']
  | sign :: rest =>
    if sign == '+' || sign == '-' then do
      let (hour, rest) ← fixedNumber? 2 rest
      let rest ← if rest.head? == some ':' then some rest.tail else none
      let (minute, rest) ← fixedNumber? 2 rest
      if 23 < hour || 59 < minute || !rest.isEmpty then none
      else
        let sign := if hour == 0 && minute == 0 then '+' else sign
        some (sign :: twoDigits hour ++ ':' :: twoDigits minute)
    else none
  | [] => none

/-- A date, a time or both, and then possibly a distance from universal time. -/
def moment? (cs : List Char) : Option Value :=
  match date? cs with
  | some (date, []) => some (.moment (String.ofList date))
  | some (date, mark :: rest) =>
    if mark == 'T' || mark == 't' || mark == ' ' then do
      let (time, rest) ← time? rest
      let offset ← if rest.isEmpty then some [] else offset? rest
      return .moment (String.ofList (date ++ 'T' :: time ++ offset))
    else none
  | none =>
    match time? cs with
    | some (time, []) => some (.moment (String.ofList time))
    | _ => none

/-- The value of a word without quotes. -/
def scalar? (word : List Char) : Option Value :=
  if word == "true".toList then some (.boolean true)
  else if word == "false".toList then some (.boolean false)
  else match number? word with
    | some v => some v
    | none => moment? word

end Folio.Toml
