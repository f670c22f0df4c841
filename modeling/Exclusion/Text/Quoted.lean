/-
# Exclusion.Text.Quoted -- a text between quotes, fit to be shown on one line

`quoted` writes a text the way reports show it: between double quotes, with a backslash before
quotes and backslashes, the usual letters for tab, line feed, carriage return and NUL, and the code
point in hexadecimal for whatever could not be seen, or would be drawn onto its neighbour.
-/
import Exclusion.Text.Printable

namespace Exclusion.Text

set_option autoImplicit false

/-- The character has a glyph of its own. -/
def isPrintable (c : Char) : Bool :=
  !CharRange.among unprintableRanges c

/-- The character is drawn onto the one before it. -/
def isExtending (c : Char) : Bool :=
  CharRange.among extendingRanges c

/-- A code point in hexadecimal, between braces. -/
def codePointEscape (c : Char) : List Char :=
  ['\\', 'u', '\x7b'] ++ Nat.toDigits 16 c.toNat ++ ['\x7d']

/-- How a character is written between quotes. -/
def quotedChar (c : Char) : List Char :=
  if c = '\x00' then ['\\', '0']
  else if c = '\t' then ['\\', 't']
  else if c = '\r' then ['\\', 'r']
  else if c = '\n' then ['\\', 'n']
  else if c = '\\' ∨ c = '"' then ['\\', c]
  else if isExtending c || !isPrintable c then codePointEscape c
  else [c]

def quoted (s : String) : String :=
  .ofList ('"' :: s.toList.flatMap quotedChar ++ ['"'])

end Exclusion.Text
