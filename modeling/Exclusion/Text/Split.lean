/-
# Exclusion.Text.Split -- texts cut into fields and lines, and the search for a part

`fields` cuts at every separator, `parts` keeps the trimmed fields of a comma-separated text that
are not blank, `lineChars` cuts after every line feed, and `occursIn` looks for one list of characters
inside another.
-/
import Exclusion.Text.Blank

namespace Exclusion.Text

set_option autoImplicit false

/-- The pieces between the separators; one piece more than there are separators. -/
def fields (sep : Char) : List Char → List (List Char)
  | [] => [[]]
  | c :: cs =>
    if c = sep then [] :: fields sep cs
    else match fields sep cs with
      | [] => [[c]]
      | piece :: pieces => (c :: piece) :: pieces

theorem fields_ne_nil (sep : Char) (cs : List Char) : fields sep cs ≠ [] := by
  cases cs with
  | nil => simp [fields]
  | cons c cs =>
    simp only [fields]
    split
    · simp
    · split <;> simp

/-- A separator cuts the text into what stands before it and what stands after it. -/
theorem fields_append_sep (sep : Char) (a b : List Char) :
    fields sep (a ++ sep :: b) = fields sep a ++ fields sep b := by
  induction a with
  | nil => simp [fields]
  | cons c a ih =>
    by_cases h : c = sep
    · simp [fields, h, ih]
    · simp only [List.cons_append, fields, h, if_false, ih]
      cases hf : fields sep a with
      | nil => exact absurd hf (fields_ne_nil sep a)
      | cons p ps => simp

/-- The trimmed pieces of a comma-separated list of characters that are not blank. -/
def partChars (cs : List Char) : List (List Char) :=
  ((fields ',' cs).map trimChars).filter (· ≠ [])

/-- The trimmed pieces of a comma-separated text that are not blank. -/
def parts (s : String) : List String :=
  (partChars s.toList).map String.ofList

/-- `needle` stands somewhere in the list. -/
def occursIn (needle : List Char) : List Char → Bool
  | [] => needle.isEmpty
  | c :: cs => needle.isPrefixOf (c :: cs) || occursIn needle cs

/-- `part` stands somewhere in the text. -/
def contains (s part : String) : Bool :=
  occursIn part.toList s.toList

/-- A line without the carriage return before its line feed. -/
def dropReturn (line : List Char) : List Char :=
  if line.getLast? = some '\r' then line.dropLast else line

/-- The lines of a text, without their line ends.  A text that ends in a line feed has no empty line
after it, and only a carriage return before a line feed belongs to the line end. -/
def lineChars (cs : List Char) : List (List Char) :=
  match (fields '\n' cs).reverse with
  | [] => []
  | last :: before =>
    before.reverse.map dropReturn ++ if last.isEmpty then [] else [last]

/-- What follows `start` at the beginning of the list, if it begins so. -/
def dropLeading? : List Char → List Char → Option (List Char)
  | [], cs => some cs
  | _ :: _, [] => none
  | p :: ps, c :: cs => if p = c then dropLeading? ps cs else none

end Exclusion.Text
