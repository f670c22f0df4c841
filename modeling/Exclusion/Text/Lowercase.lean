/-
# Exclusion.Text.Lowercase -- the lower case of a text

Each character has its own lower case, with two exceptions.  A capital sigma at the end of a word
becomes a final sigma: some cased character stands before it and none after it, when
`caseIgnorable` characters are passed over.  The dotted capital I becomes two characters.
-/
import Exclusion.Text.Casing

namespace Exclusion.Text

set_option autoImplicit false

def isCased (c : Char) : Bool :=
  CharRange.among casedRanges c

/-- The character does not end a word and does not show that one goes on. -/
def isCaseIgnorable (c : Char) : Bool :=
  CharRange.among caseIgnorableRanges c

/-- The lower case of a character by itself. -/
def lowerChar (c : Char) : Char :=
  match lowerRanges.find? (·.holds c.toNat) with
  | some r => Char.ofNat (c.toNat + r.shift).toNat
  | none => c

/-- The first character that is not case-ignorable has case. -/
def meetsCased (cs : List Char) : Bool :=
  match cs.dropWhile isCaseIgnorable with
  | c :: _ => isCased c
  | [] => false

/-- The lower case of `c` between the characters before it, nearest first, and those after it. -/
def lowerBetween (before : List Char) (c : Char) (after : List Char) : List Char :=
  if c = 'Σ' then [if meetsCased before && !meetsCased after then 'ς' else 'σ']
  else if c = 'İ' then ['i', '\u0307']
  else [lowerChar c]

/-- The lower case of the characters, given those before them, nearest first. -/
def lowerFrom (before : List Char) : List Char → List Char
  | [] => []
  | c :: cs => lowerBetween before c cs ++ lowerFrom (c :: before) cs

def lowerChars (cs : List Char) : List Char :=
  lowerFrom [] cs

def lowercase (s : String) : String :=
  .ofList (lowerChars s.toList)

/-- The lower case of the letters A to Z alone. -/
def lowercaseAscii (s : String) : String :=
  s.map fun c => if 'A' ≤ c ∧ c ≤ 'Z' then Char.ofNat (c.toNat + 32) else c

theorem toList_lowercase (s : String) : (lowercase s).toList = lowerChars s.toList := by
  simp [lowercase]

/-! ## Examples -/

example : lowerChars "ΑΣ'".toList = "ας'".toList := by decide +kernel

example : lowerChars "ΑΣ'Α".toList = "ασ'α".toList := by decide +kernel

end Exclusion.Text
