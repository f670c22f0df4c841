/-
# Exclusion.Text.Blank -- white space and trimming

White space is the Unicode property, not the ASCII set: a no-break space or an ideographic space
around a keyword is trimmed like a plain one.  `trim` takes the blanks off both ends of a text;
`isBlankText` holds of the texts that have nothing else.
-/
import Exclusion.Text.CharRange

namespace Exclusion.Text

set_option autoImplicit false

/-- Characters that count as white space. -/
def blankRanges : List CharRange := [
  ⟨0x9, 0xd⟩, ⟨0x20, 0x20⟩, ⟨0x85, 0x85⟩, ⟨0xa0, 0xa0⟩, ⟨0x1680, 0x1680⟩, ⟨0x2000, 0x200a⟩,
  ⟨0x2028, 0x2029⟩, ⟨0x202f, 0x202f⟩, ⟨0x205f, 0x205f⟩, ⟨0x3000, 0x3000⟩]

def isBlank (c : Char) : Bool :=
  CharRange.among blankRanges c

/-! ## On lists of characters -/

/-- The characters from the first one that is not blank. -/
def trimStart (cs : List Char) : List Char :=
  cs.dropWhile isBlank

/-- The characters up to the last one that is not blank. -/
def trimEnd (cs : List Char) : List Char :=
  (cs.reverse.dropWhile isBlank).reverse

/-- The characters between the first and the last one that are not blank. -/
def trimChars (cs : List Char) : List Char :=
  trimEnd (trimStart cs)

/-! ## On texts -/

/-- The text without the white space at its ends. -/
def trim (s : String) : String :=
  .ofList (trimChars s.toList)

def isBlankText (s : String) : Bool :=
  s.toList.all isBlank

theorem dropWhile_isBlank_eq_nil {cs : List Char} :
    cs.dropWhile isBlank = [] ↔ cs.all isBlank = true := by
  induction cs with
  | nil => simp
  | cons c cs ih => by_cases h : isBlank c <;> simp_all

theorem toList_trim (s : String) : (trim s).toList = trimChars s.toList := by
  simp [trim]

theorem trimStart_cons {c : Char} (visible : isBlank c = false) (cs : List Char) :
    trimStart (c :: cs) = c :: cs := by
  simp [trimStart, visible]

theorem trimEnd_append {c : Char} (visible : isBlank c = false) (cs : List Char) :
    trimEnd (cs ++ [c]) = cs ++ [c] := by
  simp [trimEnd, visible]

theorem trimEnd_append_of_isBlank {c : Char} (blank : isBlank c = true) (cs : List Char) :
    trimEnd (cs ++ [c]) = trimEnd cs := by
  simp [trimEnd, blank]

theorem trimEnd_prefix (cs : List Char) : trimEnd cs <+: cs := by
  have suffix : cs.reverse.dropWhile isBlank <:+ cs.reverse := List.dropWhile_suffix isBlank
  rw [← List.reverse_prefix, List.reverse_reverse] at suffix
  exact suffix

/-- What is left after trimming the start does not begin with a blank. -/
theorem trimStart_head {cs : List Char} {c : Char} {rest : List Char}
    (h : trimStart cs = c :: rest) : isBlank c = false := by
  have := List.head?_dropWhile_not isBlank cs
  simp only [trimStart] at h
  simpa [h] using this

theorem trimChars_eq_nil_iff {cs : List Char} :
    trimChars cs = [] ↔ cs.all isBlank = true := by
  constructor
  · intro h
    rw [← dropWhile_isBlank_eq_nil]
    cases hs : cs.dropWhile isBlank with
    | nil => rfl
    | cons c rest =>
      have hc : isBlank c = false := trimStart_head hs
      simp only [trimChars, trimEnd, trimStart, hs, List.reverse_eq_nil_iff,
        dropWhile_isBlank_eq_nil, List.all_eq_true, List.mem_reverse] at h
      simp [h c (by simp)] at hc
  · intro h
    have : trimStart cs = [] := dropWhile_isBlank_eq_nil.2 h
    simp [trimChars, this, trimEnd]

/-- Trimming leaves nothing exactly when the text is blank. -/
theorem trim_eq_empty_iff {s : String} : trim s = "" ↔ isBlankText s = true := by
  rw [← String.toList_inj, toList_trim, String.toList_empty, trimChars_eq_nil_iff, isBlankText]

end Exclusion.Text
