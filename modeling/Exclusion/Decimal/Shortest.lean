/-
# Exclusion.Decimal.Shortest -- the fewest decimal digits that read back as the same number

Every real number between the midpoints to the two neighbouring doubles is rounded to the double in
between.  `Binary64.shortest` looks for a decimal in that interval with one digit, then with two,
and so on, and takes the one nearest to the double; on each grid of decimals only the two grid
points around the double can be the nearest.
-/
import Exclusion.Decimal.Binary64

namespace Exclusion

set_option autoImplicit false

/-- The number `digits * 10 ^ exponent`. -/
structure Decimal where
  digits : Nat
  exponent : Int
  deriving DecidableEq, Repr

namespace Decimal

/-- How many decimal digits a whole number is written with. -/
def digitCount (n : Nat) : Nat :=
  (Nat.toDigits 10 n).length

/-- The same number without zeros at the end of its digits; zeros are counted down from `fuel`. -/
def stripZeros : Nat → Decimal → Decimal
  | 0, d => d
  | fuel + 1, d =>
    if d.digits ≠ 0 ∧ d.digits % 10 = 0 then stripZeros fuel ⟨d.digits / 10, d.exponent + 1⟩ else d

/-- The exponent of the first digit of `num / den`, a positive fraction. -/
def leadingExponent (num den : Nat) : Int :=
  if den ≤ num then (digitCount (num / den) : Int) - 1
  else -(digitCount ((den + num - 1) / num - 1) : Int)

end Decimal

namespace Binary64

/-- The interval that rounds to a positive double, in quarters of a unit of its last place: the
lower end, the double, the upper end.  Below a power of two the neighbour is half as far. -/
def quarters (x : Binary64) : Nat × Nat × Nat :=
  let low := if x.mantissa = Nat.pow 2 52 ∧ minExponent < x.exponent then 1 else 2
  (4 * x.mantissa - low, 4 * x.mantissa, 4 * x.mantissa + 2)

/-- The decimal nearest to the double among those with `count` digits that read back as it, if
there is one. -/
def withDigits? (x : Binary64) (count : Nat) : Option Decimal :=
  let (low, mid, high) := x.quarters
  -- quarters are counted as the fraction `n * num / den`
  let (num, den) := ratio ⟨false, 1, x.exponent - 2⟩
  let grid := Decimal.leadingExponent (mid * num) den - count + 1
  -- a grid point `c` stands for `c * up / down` quarters
  let power := Nat.pow 10 grid.natAbs
  let (up, down) := if grid < 0 then (den, num * power) else (den * power, num)
  let closed := x.mantissa % 2 = 0
  let fits (c : Nat) : Bool :=
    if closed then low * down ≤ c * up && c * up ≤ high * down
    else low * down < c * up && c * up < high * down
  let below := mid * down / up
  let above := below + 1
  let pick (c : Nat) : Option Decimal := some ⟨c, grid⟩
  match fits below, fits above with
  | true, false => pick below
  | false, true => pick above
  | false, false => none
  | true, true =>
    let down' := mid * down - below * up
    let up' := above * up - mid * down
    if down' < up' then pick below
    else if up' < down' then pick above
    else if below % 2 = 0 then pick below else pick above

/-- The shortest decimal that reads back as the size of the double, without zeros at its end.
Seventeen digits always suffice. -/
def shortest (x : Binary64) : Decimal :=
  if x.isZero then ⟨0, 0⟩
  else
    match (List.range 17).findSome? fun i => x.withDigits? (i + 1) with
    | some d => d.stripZeros 17
    | none => ⟨0, 0⟩

end Binary64

end Exclusion
