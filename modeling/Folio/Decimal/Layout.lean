import Folio.Decimal.Shortest

/-!
# The layout of decimals

How the digits of a number are written: with a point in place, or with a power of ten.

## Main definitions

* `DecimalLayout` — the decisions of a format.
* `DecimalLayout.write` — the text of a number.
-/

namespace Folio

/-- The decisions of a format for decimal numbers. -/
structure DecimalLayout where
  /-- The least power of ten of the leading digit that is written positionally. -/
  positionalFrom : Int
  /-- The greatest power of ten of the leading digit that is written positionally. -/
  positionalTo : Int
  /-- The least number of digits of an exponent. -/
  exponentDigits : Nat
  deriving Repr

/-- Zeros in front of the digits, up to a width. -/
def padLeft (width : Nat) (cs : List Char) : List Char :=
  List.replicate (width - cs.length) '0' ++ cs

/-- The text of a decimal without a sign.  A whole number keeps one decimal place; an exponent
always has a sign. -/
def DecimalLayout.writeDecimal (layout : DecimalLayout) (d : Decimal) : List Char :=
  let ds := digitsOf d.digits
  let leading : Int := d.exponent + ds.length - 1
  if layout.positionalFrom ≤ leading && leading ≤ layout.positionalTo then
    if 0 ≤ d.exponent then ds ++ List.replicate d.exponent.toNat '0' ++ ['.', '0']
    else if 0 ≤ leading then
      ds.take (leading.toNat + 1) ++ '.' :: ds.drop (leading.toNat + 1)
    else '0' :: '.' :: List.replicate (-leading - 1).toNat '0' ++ ds
  else
    let power := padLeft layout.exponentDigits (digitsOf leading.natAbs)
    ds.take 1 ++ (if ds.length == 1 then [] else '.' :: ds.drop 1)
      ++ 'e' :: (if leading < 0 then '-' else '+') :: power

/-- The text of a number: its shortest digits behind its sign. -/
def DecimalLayout.write (layout : DecimalLayout) (x : Binary64) : String :=
  let body := if x.mantissa == 0 then ['0', '.', '0'] else layout.writeDecimal x.shortest
  String.ofList (if x.negative then '-' :: body else body)

end Folio
