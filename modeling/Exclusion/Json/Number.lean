/-
# Exclusion.Json.Number -- the numbers of a JSON text

A number without a fraction and an exponent that fits in 64 bits is a whole number; any other is a
double.  `Number.ofParts?` reads the parts of a number, `Number.render` writes a number down: whole
numbers as they are, doubles with the fewest digits that read back as the same double, positionally
from `10 ^ (-5)` up to `10 ^ 16` and with an exponent beyond.
-/
import Exclusion.Decimal.Shortest
import Exclusion.Text.Digit

namespace Exclusion.Json

set_option autoImplicit false

/-- A number of a JSON text. -/
inductive Number where
  | int (value : Int)
  | float (value : Binary64)
  deriving DecidableEq, Repr

namespace Number

/-! ## Reading -/

def maxNatural : Nat := 18446744073709551615

/-- The least whole number, negated. -/
def maxNegative : Nat := 9223372036854775808

/-- Appends digits to a whole number as long as it stays within 64 bits.  The second part counts the
digits that were left. -/
def gather (n : Nat) : List Char → Nat × Nat
  | [] => (n, 0)
  | c :: cs =>
    let next := 10 * n + Text.digitValue c
    if next ≤ maxNatural then gather next cs else (n, cs.length + 1)

/-- The parts of a number as it is written; `exponent` is none if the text has none, and `fraction`
is none if there is no point. -/
structure Parts where
  negative : Bool
  whole : List Char
  fraction : Option (List Char)
  exponent : Option Int

/-- The double `n * 10 ^ e`, negated if asked. -/
def double? (negative : Bool) (n : Nat) (e : Int) : Option Number := do
  let size ← (← Binary64.ofNat? n).timesPowerOfTen? e
  return .float (if negative then size.neg else size)

/-- The number that is written so.  Digits of the whole part that do not fit in 64 bits count as
zeros, digits of the fraction that do not fit are passed over.  None if the number is beyond the
greatest double. -/
def ofParts? (p : Parts) : Option Number :=
  let (n, left) := gather 0 p.whole
  match p.fraction, p.exponent with
  | none, none =>
    if left ≠ 0 then double? p.negative n left
    else if !p.negative then some (.int n)
    else if n = 0 ∨ maxNegative < n then double? true n 0
    else some (.int (-n))
  | fraction, exponent =>
    let digits := fraction.getD []
    let (n, skipped) := gather n digits
    double? p.negative n (left - (digits.length - skipped : Nat) + exponent.getD 0)

/-! ## Writing -/

/-- The exponents of the first digit that are written positionally. -/
def isPositional (e : Int) : Bool :=
  -5 ≤ e && e < 16

/-- A double, at least one digit on either side of the point, or with an exponent and its sign. -/
def renderFloat (x : Binary64) : String :=
  let d := x.shortest
  let digits := Nat.toDigits 10 d.digits
  let lead : Int := digits.length - 1 + d.exponent
  let size : List Char :=
    if isPositional lead then
      if lead < 0 then
        ['0', '.'] ++ List.replicate (-lead - 1).toNat '0' ++ digits
      else
        let whole := lead.toNat + 1
        let padded := digits ++ List.replicate (whole - digits.length) '0'
        let rest := padded.drop whole
        padded.take whole ++ '.' :: (if rest.isEmpty then ['0'] else rest)
    else
      digits.take 1 ++ (if digits.length ≤ 1 then [] else '.' :: digits.drop 1) ++
        ['e', if lead < 0 then '-' else '+'] ++ Nat.toDigits 10 lead.natAbs
  .ofList (if x.negative then '-' :: size else size)

def renderInt (i : Int) : String :=
  .ofList (if i < 0 then '-' :: Nat.toDigits 10 i.natAbs else Nat.toDigits 10 i.natAbs)

def render : Number → String
  | .int i => renderInt i
  | .float x => renderFloat x

end Number

end Exclusion.Json
