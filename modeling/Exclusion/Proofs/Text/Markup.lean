/-
# Exclusion.Proofs.Text.Markup -- texts in which no markup begins

Inside of a script element a page looks for two things only: `</`, which may end the element, and
`<!`, which may begin a comment.  A text is free of both if no `<` in it is followed by one of the two
characters (`Text.HasNoMarkup`).  The condition is on neighbours, and between two lines there is a line
feed, so a text of lines satisfies it if every line does.
-/
import Exclusion.Proofs.Text.Line

namespace Exclusion.Text

set_option autoImplicit false

/-! ## Parts of a text -/

/-- A list stands somewhere in another exactly if it is an infix of it. -/
theorem occursIn_iff {needle cs : List Char} : occursIn needle cs = true ↔ needle <:+: cs := by
  induction cs with
  | nil => simp [occursIn]
  | cons c cs ih => simp [occursIn, ih, List.infix_cons_iff]

theorem contains_iff {s part : String} :
    contains s part = true ↔ part.toList <:+: s.toList :=
  occursIn_iff

/-! ## Markup -/

/-- No `<` is followed by `/` or `!`. -/
def HasNoMarkup (cs : List Char) : Prop :=
  cs.IsChain fun c d => c = '<' → d ≠ '/' ∧ d ≠ '!'

instance (cs : List Char) : Decidable (HasNoMarkup cs) :=
  inferInstanceAs (Decidable (cs.IsChain fun c d => c = '<' → d ≠ '/' ∧ d ≠ '!'))

theorem HasNoMarkup.contains_eq_false {s part : String} (free : HasNoMarkup s.toList) {d : Char}
    (pair : part.toList = ['<', d]) (special : d = '/' ∨ d = '!') : contains s part = false := by
  by_contra found
  rw [Bool.not_eq_false, contains_iff, pair] at found
  have parted := free.infix found
  have apart := List.isChain_pair.1 parted rfl
  rcases special with rfl | rfl
  · exact apart.1 rfl
  · exact apart.2 rfl

/-- Where there is no `<`, no markup begins. -/
theorem hasNoMarkup_of_not_mem {cs : List Char} (free : '<' ∉ cs) : HasNoMarkup cs := by
  induction cs with
  | nil => exact List.isChain_nil
  | cons c cs ih =>
      obtain ⟨other, free⟩ := not_or.1 (mt List.mem_cons.2 free)
      exact List.isChain_cons.2 ⟨fun d _ same => absurd same.symm other, ih free⟩

/-- Lines in which no markup begins make a text in which none does. -/
theorem hasNoMarkup_flatMap {lines : List (List Char)} (free : ∀ line ∈ lines, HasNoMarkup line) :
    HasNoMarkup (lines.flatMap (· ++ ['\n'])) := by
  induction lines with
  | nil => exact List.isChain_nil
  | cons line lines ih =>
      obtain ⟨first, others⟩ := List.forall_mem_cons.1 free
      have ended : HasNoMarkup (line ++ ['\n']) := by
        refine List.isChain_append.2 ⟨first, List.isChain_singleton _, ?_⟩
        intro c _ d newline _
        cases newline
        decide
      have apart : ∀ c ∈ (line ++ ['\n']).getLast?, c ≠ '<' := by
        intro c last
        rw [List.getLast?_concat] at last
        cases last
        decide
      rw [List.flatMap_cons]
      exact List.isChain_append.2
        ⟨ended, ih others, fun c last d _ same => absurd same (apart c last)⟩

end Exclusion.Text
