import Folio.Decimal.Binary64

/-!
# Shortest decimals

The decimal with the fewest digits that reads back as a given binary number.  The reals that
round to a number form an interval, closed when its mantissa is even.  On the grid of decimals
with `n` significant digits the number has two neighbours; the first grid that has one of them in
the interval gives the digits, and of two the nearer is taken.

## Main definitions

* `Decimal` — `digits · 10 ^ exponent`.
* `Binary64.interval` — the interval of a number.
* `Binary64.shortest` — the fewest digits that read back, nearest of those.
-/

namespace Folio

/-- The decimal number `digits · 10 ^ exponent`. -/
structure Decimal where
  /-- The digits, read as one whole number. -/
  digits : Nat
  /-- The power of ten. -/
  exponent : Int
  deriving DecidableEq, Repr, Inhabited

/-- The decimal digits of a number, at least one. -/
def digitsOf (n : Nat) : List Char := Nat.toDigits 10 n

/-- An interval of reals `[low, high] · 2 ^ scale` about a `centre`, with or without its ends. -/
structure Interval where
  /-- The lower end. -/
  low : Nat
  /-- The number itself. -/
  centre : Nat
  /-- The upper end. -/
  high : Nat
  /-- The power of two that all three are multiplied by. -/
  scale : Int
  /-- The ends belong to the interval. -/
  closed : Bool
  deriving Repr

/-- The reals that round to the number. -/
def Binary64.interval (x : Binary64) : Interval where
  low := if x.mantissa == Nat.pow 2 52 && -1074 < x.exponent then 4 * x.mantissa - 1
    else 4 * x.mantissa - 2
  centre := 4 * x.mantissa
  high := 4 * x.mantissa + 2
  scale := x.exponent - 2
  closed := x.mantissa % 2 == 0

/-- Two magnitudes `a · 2 ^ s` and `d · 10 ^ p`, brought to whole numbers over one denominator. -/
def commonScale (a : Nat) (s : Int) (d : Nat) (p : Int) : Nat × Nat :=
  let a := if 0 ≤ s then a * Nat.pow 2 s.toNat else a
  let d := if 0 ≤ s then d else d * Nat.pow 2 (-s).toNat
  if 0 ≤ p then (a, d * Nat.pow 10 p.toNat) else (a * Nat.pow 10 (-p).toNat, d)

/-- The decimal lies in the interval. -/
def Interval.contains (i : Interval) (d : Decimal) : Bool :=
  let (lo, x) := commonScale i.low i.scale d.digits d.exponent
  let (hi, y) := commonScale i.high i.scale d.digits d.exponent
  if i.closed then lo ≤ x && y ≤ hi else lo < x && y < hi

/-- The distance of a decimal from the centre, in units that depend on its exponent alone. -/
def Interval.distance (i : Interval) (d : Decimal) : Nat :=
  let (c, x) := commonScale i.centre i.scale d.digits d.exponent
  if c ≤ x then x - c else c - x

/-- The decimal neighbour at or below the centre on the grid of multiples of `10 ^ p`. -/
def Interval.below (i : Interval) (p : Int) : Decimal :=
  let (c, unit) := commonScale i.centre i.scale 1 p
  ⟨c / unit, p⟩

/-- The power of ten of the leading digit of a positive magnitude `a · 2 ^ s`. -/
def leadingPower (a : Nat) (s : Int) : Int :=
  if 0 ≤ s then ((digitsOf (a * Nat.pow 2 s.toNat)).length : Int) - 1
  else
    let whole := a / Nat.pow 2 (-s).toNat
    if 0 < whole then ((digitsOf whole).length : Int) - 1
    else
      -- the first power of ten that brings the magnitude to one or more
      let estimate := (-s).toNat - a.log2 - 1
      let low := estimate * 30102 / 100000
      let reaches := fun k => decide (Nat.pow 2 (-s).toNat ≤ a * Nat.pow 10 (low + k))
      let steps := low + ((List.range 4).find? reaches).getD 3
      Int.neg steps

/-- The digits without trailing zeros. -/
def Decimal.normalize (d : Decimal) : Nat → Decimal
  | 0 => d
  | fuel + 1 =>
    if d.digits != 0 && d.digits % 10 == 0 then
      Decimal.normalize ⟨d.digits / 10, d.exponent + 1⟩ fuel
    else d

/-- The first grid, from `n` digits on, that has a neighbour of the centre in the interval. -/
def Interval.search (i : Interval) (leading : Int) : Nat → Nat → Decimal
  | 0, n => i.below (leading - n + 1)
  | fuel + 1, n =>
    let lower := i.below (leading - n + 1)
    let upper : Decimal := ⟨lower.digits + 1, lower.exponent⟩
    match i.contains lower, i.contains upper with
    | true, true =>
      let a := i.distance lower
      let b := i.distance upper
      if a < b || (a == b && lower.digits % 2 == 0) then lower else upper
    | true, false => lower
    | false, true => upper
    | false, false => i.search leading fuel (n + 1)

/-- The fewest digits that read back as the number, without its sign. -/
def Binary64.shortest (x : Binary64) : Decimal :=
  if x.mantissa == 0 then ⟨0, 0⟩
  else
    let i := x.interval
    (i.search (leadingPower i.centre i.scale) 18 1).normalize 20

end Folio
