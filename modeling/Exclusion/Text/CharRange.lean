/-
# Exclusion.Text.CharRange -- sets of characters as lists of code point ranges

A character property is written down as the list of the closed ranges of code points that have it;
`CharRange.among` says whether a character lies in one of them.
-/
namespace Exclusion.Text

set_option autoImplicit false

/-- A closed range of code points. -/
structure CharRange where
  first : Nat
  last : Nat
  deriving DecidableEq, Repr

namespace CharRange

def holds (r : CharRange) (n : Nat) : Bool :=
  r.first ≤ n && n ≤ r.last

def among (rs : List CharRange) (c : Char) : Bool :=
  rs.any (·.holds c.toNat)

theorem among_iff {rs : List CharRange} {c : Char} :
    among rs c = true ↔ ∃ r ∈ rs, r.first ≤ c.toNat ∧ c.toNat ≤ r.last := by
  simp [among, holds]

end CharRange

end Exclusion.Text
