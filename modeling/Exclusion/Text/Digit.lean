/-
# Exclusion.Text.Digit -- digits, and readers of parts of a text

A `Reader` takes a part off the beginning of a text.  Numbers are read from their digits in a base.
-/
namespace Exclusion.Text

set_option autoImplicit false

/-- Takes a part off the beginning of a text, if it begins with one: what it is and what follows. -/
abbrev Reader (α : Type) : Type :=
  List Char → Option (α × List Char)

def isDigit (c : Char) : Bool :=
  '0' ≤ c && c ≤ '9'

/-- A digit of base sixteen, in either case. -/
def isHexDigit (c : Char) : Bool :=
  isDigit c || ('a' ≤ c && c ≤ 'f') || ('A' ≤ c && c ≤ 'F')

def digitValue (c : Char) : Nat :=
  if isDigit c then c.toNat - '0'.toNat
  else if 'a' ≤ c then c.toNat - 'a'.toNat + 10
  else c.toNat - 'A'.toNat + 10

/-- The number with these digits in a base. -/
def numberIn (base : Nat) (digits : List Char) : Nat :=
  digits.foldl (fun n c => base * n + digitValue c) 0

def digitsValue (digits : List Char) : Nat :=
  numberIn 10 digits

def hexValue? (c : Char) : Option Nat :=
  if isHexDigit c then some (digitValue c) else none

end Exclusion.Text
