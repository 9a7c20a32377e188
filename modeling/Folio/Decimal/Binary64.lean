/-!
# Binary floating-point numbers

A finite number with 53 binary digits, and the rounding of a decimal number to the nearest one.

## Main definitions

* `Binary64` — a sign, a whole number and a power of two.
* `Binary64.ofRatio?` — a quotient, rounded to nearest, ties to even; none beyond the range.
* `Binary64.ofDecimal?` — the same for `digits · 10 ^ exponent`.
-/

namespace Folio

/-- A finite binary floating-point number: `± mantissa · 2 ^ exponent`, with a mantissa below
`2 ^ 53` and an exponent from -1074 to 971. -/
structure Binary64 where
  /-- The sign, which zero has too. -/
  negative : Bool
  /-- The significant binary digits. -/
  mantissa : Nat
  /-- The power of two. -/
  exponent : Int
  deriving DecidableEq, Repr, Inhabited

namespace Binary64

/-- Zero with a sign. -/
def zero (negative : Bool) : Binary64 := ⟨negative, 0, -1074⟩

/-- The quotient rounded to the nearest whole number, a tie to the even one. -/
def roundDiv (num den : Nat) : Nat :=
  let q := num / den
  let twice := 2 * (num % den)
  if twice < den then q
  else if den < twice then q + 1
  else if q % 2 == 0 then q else q + 1

/-- The greatest `k` such that `2 ^ k` is at most `num / den`, for positive operands. -/
def floorLog2 (num den : Nat) : Int :=
  let k : Int := (num.log2 : Int) - den.log2
  let reaches := if 0 ≤ k then den * Nat.pow 2 k.toNat ≤ num else den ≤ num * Nat.pow 2 (-k).toNat
  if reaches then k else k - 1

/-- The number nearest to `num / den`, for a positive denominator; none if it is too large. -/
def ofRatio? (negative : Bool) (num den : Nat) : Option Binary64 :=
  if num == 0 then some (zero negative)
  else
    let e := max (floorLog2 num den - 52) (-1074)
    let m :=
      if 0 ≤ e then roundDiv num (den * Nat.pow 2 e.toNat)
      else roundDiv (num * Nat.pow 2 (-e).toNat) den
    let (m, e) := if m == Nat.pow 2 53 then (Nat.pow 2 52, e + 1) else (m, e)
    if 971 < e then none else some ⟨negative, m, e⟩

/-- The number nearest to `digits · 10 ^ exponent`; none if it is too large.  Exponents far out
of range are answered without computing the power. -/
def ofDecimal? (negative : Bool) (digits : Nat) (exponent : Int) : Option Binary64 :=
  let magnitude : Int := (Nat.log2 digits : Int) * 30103 / 100000 + exponent
  if digits == 0 then some (zero negative)
  else if 320 < magnitude then none
  else if magnitude < -340 then some (zero negative)
  else if 0 ≤ exponent then ofRatio? negative (digits * Nat.pow 10 exponent.toNat) 1
  else ofRatio? negative digits (Nat.pow 10 (-exponent).toNat)

end Binary64

end Folio
