/-
# Exclusion.Decimal.Binary64 -- finite double precision numbers in exact arithmetic

A finite double is a sign, a whole mantissa below `2 ^ 53` and a power of two.  Everything here is
whole number arithmetic: `round?` gives the double nearest to a fraction, a half going to the even
neighbour, and products and quotients are the exact ones rounded once.
-/
namespace Exclusion

set_option autoImplicit false

/-- The number `mantissa * 2 ^ exponent`, negated if `negative`. -/
structure Binary64 where
  negative : Bool
  mantissa : Nat
  exponent : Int
  deriving DecidableEq, Repr

namespace Binary64

/-- The least exponent; numbers that need it may have a short mantissa. -/
def minExponent : Int := -1074

def maxExponent : Int := 971

def zero (negative : Bool) : Binary64 :=
  ⟨negative, 0, minExponent⟩

def isZero (x : Binary64) : Bool :=
  x.mantissa == 0

def neg (x : Binary64) : Binary64 :=
  { x with negative := !x.negative }

/-! ## Rounding -/

/-- The whole number nearest to `num / den`, of two equally near the even one. -/
def nearest (num den : Nat) : Nat :=
  let q := num / den
  let r := num % den
  if 2 * r < den then q else if den < 2 * r then q + 1 else q + q % 2

/-- The fraction `num / den` divided by `2 ^ e`, as numerator and denominator. -/
def scaled (num den : Nat) (e : Int) : Nat × Nat :=
  if e < 0 then (num <<< (-e).toNat, den) else (num, den <<< e.toNat)

/-- The exponent that gives `num / den` a mantissa of 53 bits, or the least exponent. -/
def exponentFor (num den : Nat) : Int :=
  let guess : Int := num.log2 - den.log2 - 52
  let (n, d) := scaled num den guess
  max minExponent (if n / d < Nat.pow 2 52 then guess - 1 else guess)

/-- The double nearest to `num / den`; none if that is beyond the greatest double. -/
def round? (negative : Bool) (num den : Nat) : Option Binary64 :=
  if num = 0 then some (zero negative)
  else
    let e := exponentFor num den
    let (n, d) := scaled num den e
    let m := nearest n d
    let (m, e) := if m = Nat.pow 2 53 then (Nat.pow 2 52, e + 1) else (m, e)
    if maxExponent < e then none else some ⟨negative, m, e⟩

def ofNat? (n : Nat) : Option Binary64 :=
  round? false n 1

def ratio (x : Binary64) : Nat × Nat :=
  if x.exponent < 0 then (x.mantissa, 1 <<< (-x.exponent).toNat)
  else (x.mantissa <<< x.exponent.toNat, 1)

def mul? (x y : Binary64) : Option Binary64 :=
  round? (x.negative != y.negative) (x.ratio.1 * y.ratio.1) (x.ratio.2 * y.ratio.2)

/-- The double nearest to the quotient; none if `y` is zero. -/
def div? (x y : Binary64) : Option Binary64 :=
  if y.isZero then none
  else round? (x.negative != y.negative) (x.ratio.1 * y.ratio.2) (x.ratio.2 * y.ratio.1)

/-! ## Powers of ten -/

/-- The greatest power of ten that is a double. -/
def maxPower : Nat := 308

/-- `x * 10 ^ e`, one rounding for the power of ten and one for the product or quotient.  Below
`10 ^ (-308)` the number is first divided by `10 ^ 308` as often as needed.  None if the result is
beyond the greatest double. -/
def timesPowerOfTen? (x : Binary64) (e : Int) : Option Binary64 :=
  if e.natAbs ≤ maxPower then do
    let power ← ofNat? (Nat.pow 10 e.natAbs)
    if 0 ≤ e then x.mul? power else x.div? power
  else if x.isZero then some x
  else if 0 ≤ e then none
  else do
    let power ← ofNat? (Nat.pow 10 maxPower)
    let smaller ← x.div? power
    smaller.timesPowerOfTen? (e + maxPower)
termination_by e.natAbs
decreasing_by
  simp only [maxPower] at *
  omega

end Binary64

end Exclusion
