/-
# Exclusion.Proofs.Rule.Normalization -- tokens and page values in the form they are compared in

A token is trimmed before it is put into lower case, and the value of a page is put into lower case before
it is trimmed.  The order makes no difference, so texts that differ only in white space around them have
one normal form (`normalize_congr`), and trimming first changes nothing (`normalize_trim`).  A text in
normal form stays as it is (`normalize_normalize`).  These are the texts that are trimmed and, where case is
ignored, have no capitals (`normalize_eq_self_iff`).

So the normalized tokens of a condition are its normalized pieces between commas, without the empty ones
(`Condition.normalTokens_eq`), and no condition sees white space around the values of a page
(`Condition.evaluate_congr`).
-/
import Exclusion.Proofs.Rule.Widening
import Exclusion.Proofs.Text.Lowered

namespace Exclusion

set_option autoImplicit false

/-! ## Normal forms -/

variable {caseSensitive : Bool}

/-- White space around a text makes no difference to its normal form. -/
theorem normalize_congr {s t : String} (same : Text.SameInside s t) :
    normalize caseSensitive s = normalize caseSensitive t := by
  have trimmed : normalize true s = normalize true t := Text.sameInside_iff.1 same
  cases caseSensitive with
  | true => exact trimmed
  | false => rw [normalize_false_eq, normalize_false_eq, trimmed]

theorem normalize_trim (s : String) :
    normalize caseSensitive (Text.trim s) = normalize caseSensitive s :=
  normalize_congr (Text.sameInside_iff.2 (Text.isPadded_trim s).trim_eq.symm)

theorem normalize_normalize (s : String) :
    normalize caseSensitive (normalize caseSensitive s) = normalize caseSensitive s := by
  cases caseSensitive with
  | true => exact normalize_trim s
  | false =>
      -- The inner trimming makes no difference to the outer normal form, and without it the two lower
      -- cases meet.
      calc normalize false (normalize false s)
          = normalize false (Text.lowercase s) := normalize_trim (Text.lowercase s)
        _ = normalize false s := congrArg Text.trim (Text.lowercase_lowercase s)

/-- **The texts in normal form** are the trimmed ones without capitals, or with regard to case the trimmed
ones. -/
theorem normalize_eq_self_iff {s : String} :
    normalize caseSensitive s = s ↔
      Text.trim s = s ∧ (caseSensitive = false → ∀ c ∈ s.toList, Text.IsLowered c) := by
  rw [← Text.lowercase_eq_self_iff]
  cases caseSensitive with
  | true => simp [normalize]
  | false =>
      constructor
      · intro same
        have trimmed : normalize true s = s := by
          rw [← same]
          exact normalize_trim (Text.lowercase s)
        refine ⟨trimmed, fun _ => ?_⟩
        rwa [normalize_false_eq, trimmed] at same
      · rintro ⟨trimmed, lowered⟩
        have whole : normalize true s = s := trimmed
        rw [normalize_false_eq, whole, lowered rfl]

/-! ## Tokens and values -/

namespace Condition

variable {c : Condition} {page page' : PageContext}

/-- The normalized tokens are what the pieces of the value are normalized to, if anything is left. -/
theorem normalTokens_eq (c : Condition) :
    c.normalTokens = ((Text.fields ',' c.value.toList).map fun piece =>
      normalize c.caseSensitive (.ofList piece)).filter (· ≠ "") := by
  have untrimmed : ∀ piece : List Char, normalize c.caseSensitive (.ofList (Text.trimChars piece)) =
      normalize c.caseSensitive (.ofList piece) := by
    intro piece
    have trimmed : normalize c.caseSensitive (Text.trim (.ofList piece)) =
        normalize c.caseSensitive (.ofList piece) := normalize_trim _
    rwa [Text.trim, String.toList_ofList] at trimmed
  have kept : ∀ piece : List Char,
      Text.trimChars piece ≠ [] ↔ normalize c.caseSensitive (.ofList piece) ≠ "" := by
    intro piece
    rw [Ne, Ne, Text.trimChars_eq_nil_iff, normalize_eq_empty_iff, Text.isBlankText,
      String.toList_ofList]
  rw [normalTokens, tokens, Text.parts, Text.partChars, List.filter_map, List.filter_map,
    List.map_map, List.map_map]
  have pieces : (Text.fields ',' c.value.toList).filter ((· ≠ []) ∘ Text.trimChars) =
      (Text.fields ',' c.value.toList).filter
        ((· ≠ "") ∘ fun piece => normalize c.caseSensitive (.ofList piece)) :=
    List.filter_congr fun piece _ => decide_eq_decide.2 (kept piece)
  rw [pieces]
  exact List.map_congr_left fun piece _ => untrimmed piece

/-- A condition comes to the same on pages whose values for its signal differ in white space around them
alone. -/
theorem evaluate_congr (same : List.Forall₂ Text.SameInside (page.valuesOf c.signal)
    (page'.valuesOf c.signal)) : c.evaluate page = c.evaluate page' := by
  by_cases named : c.signal = .unknown
  · have unknown : ¬ c.IsKnown := fun known => known.1 named
    rw [evaluate_of_not_known unknown, evaluate_of_not_known unknown]
  · have values : (page.valuesOf c.signal).map (normalize c.caseSensitive) =
        (page'.valuesOf c.signal).map (normalize c.caseSensitive) := by
      rw [← List.forall₂_eq_eq_eq, List.forall₂_map_left_iff, List.forall₂_map_right_iff]
      exact same.imp fun _ _ => normalize_congr
    rw [evaluate_eq_compare named, evaluate_eq_compare named, values]

end Condition

/-- **Tokens and page values are normalized the same way.**  Trimming first makes no difference, and neither
does normalizing twice: the trimmed texts, without capitals where case is ignored, stay as they are.  Nothing
is left exactly if the text is blank.  So texts that differ only in white space around them have one normal
form, whichever side of a comparison they are on: a condition may as well normalize the untrimmed pieces of
its value, and it comes to the same on a page whose values have white space around them. -/
theorem normalizes_alike :
    (∀ (caseSensitive : Bool) (s : String),
      normalize caseSensitive (Text.trim s) = normalize caseSensitive s ∧
      normalize caseSensitive (normalize caseSensitive s) = normalize caseSensitive s ∧
      (normalize caseSensitive s = s ↔
        Text.trim s = s ∧ (caseSensitive = false → ∀ c ∈ s.toList, Text.IsLowered c)) ∧
      (normalize caseSensitive s = "" ↔ Text.isBlankText s = true)) ∧
    (∀ (caseSensitive : Bool) (s t : String), Text.SameInside s t →
      normalize caseSensitive s = normalize caseSensitive t) ∧
    ∀ c : Condition,
      c.normalTokens = ((Text.fields ',' c.value.toList).map fun piece =>
        normalize c.caseSensitive (.ofList piece)).filter (· ≠ "") ∧
      ∀ page page' : PageContext,
        List.Forall₂ Text.SameInside (page.valuesOf c.signal) (page'.valuesOf c.signal) →
        c.evaluate page = c.evaluate page' := by
  refine ⟨fun caseSensitive s => ?_, fun caseSensitive s t same => normalize_congr same, fun c => ?_⟩
  · exact ⟨normalize_trim s, normalize_normalize s, normalize_eq_self_iff, normalize_eq_empty_iff⟩
  · exact ⟨c.normalTokens_eq, fun page page' same => Condition.evaluate_congr same⟩

/-- The blanks around the street's name are no part of the word, and its sigma is a final one with them
and without. -/
theorem normalizes_alike_street :
    Text.SameInside "\u00a0ΟΔΟΣ\u3000" "ΟΔΟΣ" ∧
    normalize false "\u00a0ΟΔΟΣ\u3000" = normalize false "ΟΔΟΣ" ∧
    Condition.street.evaluate { descriptionUrl := "\tΗ ΟΔΟΣ ΑΒ\u3000" } =
      Condition.street.evaluate { descriptionUrl := "Η ΟΔΟΣ ΑΒ" } := by
  obtain ⟨-, alike, conditions⟩ := normalizes_alike
  have word : Text.SameInside "\u00a0ΟΔΟΣ\u3000" "ΟΔΟΣ" :=
    Text.sameInside_iff.2 (by decide +kernel)
  have value : Text.SameInside "\tΗ ΟΔΟΣ ΑΒ\u3000" "Η ΟΔΟΣ ΑΒ" :=
    Text.sameInside_iff.2 (by decide +kernel)
  refine ⟨word, alike false _ _ word, (conditions Condition.street).2 _ _ ?_⟩
  exact .cons value .nil

end Exclusion
