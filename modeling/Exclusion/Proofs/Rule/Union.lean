/-
# Exclusion.Proofs.Rule.Union -- a condition and the tokens of its value

A comma in the value of a condition puts two values together: what is found is what is found for the one,
followed by what is found for the other (`Condition.found_append`).  So a positive condition holds if it
does for one of them, and a negative one if it does for both.

Whether something is found at all is a question about each token by itself (`Condition.found_eq_nil_iff`).
So the outcome depends on the set of tokens alone, and not on their order, on how often they are listed, or
on what is trimmed away (`Condition.comma_is_union`).  What is listed as found does depend on order and
number.
-/
import Exclusion.Proofs.Rule.Negation

namespace Exclusion

set_option autoImplicit false

namespace Condition

/-- The condition with another value. -/
def withValue (c : Condition) (value : String) : Condition :=
  { c with value }

variable {c : Condition} {page : PageContext}

theorem found_append (c : Condition) (page : PageContext) (a b : String) :
    (c.withValue (a ++ "," ++ b)).found page =
      (c.withValue a).found page ++ (c.withValue b).found page := by
  have tokens : (c.withValue (a ++ "," ++ b)).tokens =
      (c.withValue a).tokens ++ (c.withValue b).tokens := Text.parts_append a b
  rw [found, normalTokens, tokens, List.map_append, List.filter_append]
  rfl

theorem found_eq_nil_iff :
    c.found page = [] ↔ ∀ t ∈ c.tokens, ¬ c.IsFound page (normalize c.caseSensitive t) := by
  rw [found, List.filter_eq_nil_iff, normalTokens, List.forall_mem_map]
  simp only [decide_eq_true_eq]

/-- A token is what is left of a piece between commas after trimming, if anything is. -/
theorem mem_tokens {t : String} :
    t ∈ c.tokens ↔ t ≠ "" ∧ ∃ piece ∈ Text.fields ',' c.value.toList, t = Text.trim (.ofList piece) := by
  rw [tokens, Text.mem_parts]
  constructor
  · rintro ⟨piece, cut, some, rfl⟩
    refine ⟨?_, piece, cut, ?_⟩
    · simpa [← String.toList_inj] using some
    · rw [Text.trim, String.toList_ofList]
  · rintro ⟨some, piece, cut, rfl⟩
    rw [Text.trim, String.toList_ofList] at some ⊢
    exact ⟨piece, cut, by simpa [← String.toList_inj] using some, rfl⟩

/-- Conditions that differ in their values find nothing together if these have the same tokens. -/
theorem isEmpty_found_congr {v w : String}
    (same : ∀ t, t ∈ (c.withValue v).tokens ↔ t ∈ (c.withValue w).tokens) :
    ((c.withValue v).found page).isEmpty = ((c.withValue w).found page).isEmpty := by
  rw [Bool.eq_iff_iff, List.isEmpty_iff, List.isEmpty_iff, found_eq_nil_iff, found_eq_nil_iff]
  exact forall_congr' fun t => imp_congr (same t) Iff.rfl

/-- **A comma is a union**: two values put together find what both find, in their order; a positive
condition holds if it does for one of the values, and a negative one if it does for both.  Its outcome
depends on the set of the tokens alone. -/
theorem comma_is_union (c : Condition) (page : PageContext) :
    (∀ a b,
      ((c.withValue (a ++ "," ++ b)).evaluate page).matchedTokens =
        ((c.withValue a).evaluate page).matchedTokens ++
          ((c.withValue b).evaluate page).matchedTokens ∧
      ((c.withValue (a ++ "," ++ b)).evaluate page).matched =
        if c.operator.isNegative then
          ((c.withValue a).evaluate page).matched && ((c.withValue b).evaluate page).matched
        else ((c.withValue a).evaluate page).matched || ((c.withValue b).evaluate page).matched) ∧
    (∀ v t, t ∈ (c.withValue v).tokens ↔
      t ≠ "" ∧ ∃ piece ∈ Text.fields ',' v.toList, t = Text.trim (.ofList piece)) ∧
    ∀ v w, (∀ t, t ∈ (c.withValue v).tokens ↔ t ∈ (c.withValue w).tokens) →
      ((c.withValue v).evaluate page).matched = ((c.withValue w).evaluate page).matched := by
  by_cases known : c.IsKnown
  · have outcome : ∀ value, (c.withValue value).evaluate page =
        ⟨((c.withValue value).found page).isEmpty == c.operator.isNegative,
          (c.withValue value).found page⟩ := fun _ => evaluate_of_known known
    refine ⟨fun a b => ?_, fun v t => mem_tokens, fun v w same => ?_⟩
    · have empty : ((c.withValue a).found page ++ (c.withValue b).found page).isEmpty =
          (((c.withValue a).found page).isEmpty && ((c.withValue b).found page).isEmpty) := by
        cases (c.withValue a).found page <;> rfl
      rw [outcome, outcome, outcome, found_append, empty]
      refine ⟨rfl, ?_⟩
      cases c.operator.isNegative <;> cases ((c.withValue a).found page).isEmpty <;>
        cases ((c.withValue b).found page).isEmpty <;> rfl
    · rw [outcome, outcome, isEmpty_found_congr same]
  · have outcome : ∀ value, (c.withValue value).evaluate page = ⟨false, []⟩ :=
      fun _ => evaluate_of_not_known known
    refine ⟨fun a b => ?_, fun v t => mem_tokens, fun v w _ => ?_⟩
    · rw [outcome, outcome, outcome]
      exact ⟨rfl, (ite_self _).symm⟩
    · rw [outcome, outcome]

/-- Blanks, an empty part, the order and a repetition: the tokens are `gol` and `tv` either way. -/
theorem comma_is_union_offGol :
    ((offGol.withValue "\u00a0tv ,gol,, gol").evaluate { keywords := ["Gol"] }).matched =
      ((offGol.withValue "gol,tv").evaluate { keywords := ["Gol"] }).matched := by
  refine (comma_is_union offGol { keywords := ["Gol"] }).2.2 _ _ fun t => ?_
  have first : (offGol.withValue "\u00a0tv ,gol,, gol").tokens = ["tv", "gol", "gol"] := by
    decide +kernel
  have second : (offGol.withValue "gol,tv").tokens = ["gol", "tv"] := by decide +kernel
  rw [first, second]
  simp [or_comm]

end Condition

end Exclusion
