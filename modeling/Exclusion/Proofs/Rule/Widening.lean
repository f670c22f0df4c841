/-
# Exclusion.Proofs.Rule.Widening -- comparing without regard to case

Without regard to case both sides of a comparison are put into lower case, the token and the value each by
itself (`normalize_false_eq`).  What is equal stays so.  A token that stands inside of a value stays there
if its capital sigmas keep their shape, which they do in a settled token (`Text.IsSettled`).  So ignoring
case never loses a match of whole values, and it loses a match inside of a value only if no token that was
found is settled (`Condition.ignoring_case_widens`).

The exception is real: an unsettled token is found with regard to case, and not without, on some page
(`Condition.isSettled_iff_widens`).  In ΑΣΒ the token ΑΣ no longer ends a word.
-/
import Exclusion.Proofs.Rule.Negation
import Exclusion.Proofs.Text.Lowercase

namespace Exclusion

set_option autoImplicit false

/-! ## Normalized texts -/

/-- Without regard to case, the lower case is compared of what is compared with regard to it. -/
theorem normalize_false_eq (s : String) : normalize false s = Text.lowercase (normalize true s) :=
  Text.trim_lowercase s

namespace Condition

/-- The condition with or without regard to case. -/
def withCase (c : Condition) (caseSensitive : Bool) : Condition :=
  { c with caseSensitive }

variable {c : Condition} {page : PageContext} {token : String}

/-! ## Tokens that are found -/

theorem isFound_lowercase (given : (c.withCase true).IsFound page token)
    (settled : c.looksInside = true → Text.IsSettled token.toList) :
    (c.withCase false).IsFound page (Text.lowercase token) := by
  obtain ⟨value, listed, compared⟩ := given
  refine ⟨value, listed, ?_⟩
  show if c.looksInside then (Text.lowercase token).toList <:+: (normalize false value).toList
    else Text.lowercase token = normalize false value
  change if c.looksInside then token.toList <:+: (normalize true value).toList
    else token = normalize true value at compared
  rw [normalize_false_eq]
  cases inside : c.looksInside with
  | false =>
      simp only [inside, Bool.false_eq_true, if_false] at compared ⊢
      rw [compared]
  | true =>
      simp only [inside, if_true] at compared ⊢
      rw [Text.toList_lowercase, Text.toList_lowercase]
      exact Text.infix_lowerChars (settled inside) compared

theorem lowercase_mem_found (member : token ∈ (c.withCase true).found page)
    (settled : c.looksInside = true → Text.IsSettled token.toList) :
    Text.lowercase token ∈ (c.withCase false).found page := by
  obtain ⟨⟨t, listed, rfl⟩, given⟩ := mem_found.1 member
  exact mem_found.2 ⟨⟨t, listed, normalize_false_eq t⟩, isFound_lowercase given settled⟩

/-- If something is found with regard to case, and something settled where the condition looks inside of
values, then something is found without. -/
theorem found_ne_nil_of_withCase (given : (c.withCase true).found page ≠ [])
    (settled : c.looksInside = true →
      ∃ token ∈ (c.withCase true).found page, Text.IsSettled token.toList) :
    (c.withCase false).found page ≠ [] := by
  cases inside : c.looksInside with
  | false =>
      obtain ⟨token, member⟩ := List.exists_mem_of_ne_nil _ given
      refine List.ne_nil_of_mem (lowercase_mem_found member fun looks => ?_)
      exact absurd (inside.symm.trans looks) Bool.false_ne_true
  | true =>
      obtain ⟨token, member, fixed⟩ := settled inside
      exact List.ne_nil_of_mem (lowercase_mem_found member fun _ => fixed)

/-! ## Tokens that are not settled -/

section Text

variable {s : Signal} (text : s ∉ [.keywords, .adsEnabled, .unknown])
include text

theorem exists_valuesOf (page : PageContext) : ∃ value, page.valuesOf s = [value] := by
  cases s with
  | keywords | adsEnabled | unknown => simp at text
  | _ => exact ⟨_, rfl⟩

theorem valuesOf_set (page : PageContext) (value : String) :
    (page.set s value).valuesOf s = [value] := by
  cases s with
  | keywords | adsEnabled | unknown => simp at text
  | _ => rfl

/-- A text of one token is looked for in the value of the signal. -/
theorem matched_contains_iff {caseSensitive : Bool} {value : String}
    (single : Text.parts token = [token]) (given : page.valuesOf s = [value]) :
    ((⟨s, .contains, token, caseSensitive⟩ : Condition).evaluate page).matched = true ↔
      (normalize caseSensitive token).toList <:+: (normalize caseSensitive value).toList := by
  obtain ⟨list, -, none⟩ : s ≠ .keywords ∧ s ≠ .adsEnabled ∧ s ≠ .unknown := by simpa using text
  have known : (⟨s, .contains, token, caseSensitive⟩ : Condition).IsKnown := ⟨none, by simp⟩
  have inside : (⟨s, .contains, token, caseSensitive⟩ : Condition).looksInside = true := by
    simp [looksInside, list]
  have tokens : (⟨s, .contains, token, caseSensitive⟩ : Condition).tokens = [token] := single
  have found : (⟨s, .contains, token, caseSensitive⟩ : Condition).IsFound page
      (normalize caseSensitive token) ↔
        (normalize caseSensitive token).toList <:+: (normalize caseSensitive value).toList := by
    rw [IsFound, given, inside]
    simp
  rw [matched_iff known, evaluate_of_known known, ← found]
  show (List.filter _ (List.map _ (Text.parts token))) ≠ [] ↔ _
  rw [single]
  simp

/-- **A token is settled exactly if ignoring case loses no match of it inside of a text.** -/
theorem isSettled_iff_widens (single : Text.parts token = [token]) :
    Text.IsSettled token.toList ↔ ∀ page : PageContext,
      ((⟨s, .contains, token, true⟩ : Condition).evaluate page).matched = true →
      ((⟨s, .contains, token, false⟩ : Condition).evaluate page).matched = true := by
  have trimmed : normalize true token = token :=
    Text.trim_of_mem_parts (single ▸ List.mem_singleton_self token)
  constructor
  · intro settled page
    obtain ⟨value, given⟩ := exists_valuesOf text page
    rw [matched_contains_iff text single given, matched_contains_iff text single given,
      normalize_false_eq, normalize_false_eq, trimmed, Text.toList_lowercase, Text.toList_lowercase]
    exact Text.infix_lowerChars settled
  · intro kept
    by_contra unsettled
    -- A value that is trimmed and has the token in it has the lower case of the token in its own.
    have stands : ∀ cs, Text.trimChars cs = cs → token.toList <:+: cs →
        Text.lowerChars token.toList <:+: Text.lowerChars cs := by
      intro cs whole inside
      have value : normalize true (.ofList cs) = .ofList cs := by
        show String.ofList (Text.trimChars (String.ofList cs).toList) = _
        rw [String.toList_ofList, whole]
      have given := valuesOf_set text {} (.ofList cs)
      have holds := kept (PageContext.set {} s (.ofList cs))
      rw [matched_contains_iff text single given, matched_contains_iff text single given,
        normalize_false_eq, normalize_false_eq, trimmed, value, Text.toList_lowercase,
        Text.toList_lowercase, String.toList_ofList] at holds
      exact holds inside
    have shown : Text.isBlank Text.kra = false := by decide
    have whole : Text.trimChars token.toList = token.toList := by
      rw [← Text.toList_trim]
      exact congrArg String.toList trimmed
    rcases Text.not_infix_of_not_isSettled unsettled with before | after
    · exact before (stands _ (Text.trimChars_cons_of_trimmed whole shown)
        (List.infix_cons (List.infix_refl _)))
    · exact after (stands _ (Text.trimChars_append_of_trimmed whole shown) ⟨[], [Text.kra], rfl⟩)

end Text

/-! ## Widening -/

/-- **Ignoring case only widens a match of whole values, and a match inside of a value in which a settled
token is found.**  The exception cannot be made smaller token by token: a token that is not settled is lost
on some page. -/
theorem ignoring_case_widens :
    (∀ (c : Condition) (page : PageContext),
      (c.looksInside = true → ((c.withCase true).evaluate page).matchedTokens ≠ [] →
        ∃ token ∈ ((c.withCase true).evaluate page).matchedTokens, Text.IsSettled token.toList) →
      (c.operator.isNegative = false →
        ((c.withCase true).evaluate page).matched = true →
        ((c.withCase false).evaluate page).matched = true) ∧
      (c.operator.isNegative = true →
        ((c.withCase false).evaluate page).matched = true →
        ((c.withCase true).evaluate page).matched = true)) ∧
    ∀ (s : Signal) (token : String), s ∉ [.keywords, .adsEnabled, .unknown] →
      Text.parts token = [token] →
      (Text.IsSettled token.toList ↔ ∀ page : PageContext,
        ((⟨s, .contains, token, true⟩ : Condition).evaluate page).matched = true →
        ((⟨s, .contains, token, false⟩ : Condition).evaluate page).matched = true) := by
  refine ⟨fun c page settled => ?_, fun s token text single => isSettled_iff_widens text single⟩
  by_cases known : c.IsKnown
  · have listed : ∀ b, (c.withCase b).evaluate page =
        ⟨((c.withCase b).found page).isEmpty == c.operator.isNegative, (c.withCase b).found page⟩ :=
      fun _ => evaluate_of_known known
    rw [listed true] at settled
    have widened : (c.withCase true).found page ≠ [] → (c.withCase false).found page ≠ [] :=
      fun given => found_ne_nil_of_withCase given fun inside => settled inside given
    rw [listed true, listed false]
    constructor
    · intro positive
      simpa [positive] using widened
    · intro negative
      simpa [negative] using not_imp_not.1 widened
  · have lost : ∀ b, (c.withCase b).evaluate page = ⟨false, []⟩ :=
      fun _ => evaluate_of_not_known known
    rw [lost true, lost false]
    exact ⟨fun _ => id, fun _ => id⟩

/-- The sigma of the street's name stands before a space, and stays a final one wherever the name is. -/
def street : Condition :=
  ⟨.descriptionUrl, .contains, "ΟΔΟΣ ΑΒ", false⟩

theorem ignoring_case_widens_street :
    ((street.withCase false).evaluate { descriptionUrl := "Η ΟΔΟΣ ΑΒΓ" }).matched = true ∧
    Text.parts "ΑΣ" = ["ΑΣ"] ∧ ¬ Text.IsSettled "ΑΣ".toList ∧
    ∃ page : PageContext,
      ((⟨.sectionName, .contains, "ΑΣ", true⟩ : Condition).evaluate page).matched = true ∧
      ((⟨.sectionName, .contains, "ΑΣ", false⟩ : Condition).evaluate page).matched = false := by
  obtain ⟨widens, sharp⟩ := ignoring_case_widens
  have found : ((street.withCase true).evaluate { descriptionUrl := "Η ΟΔΟΣ ΑΒΓ" }) =
      ⟨true, ["ΟΔΟΣ ΑΒ"]⟩ := by
    decide +kernel
  have settled : Text.IsSettled "ΟΔΟΣ ΑΒ".toList := by decide +kernel
  have single : Text.parts "ΑΣ" = ["ΑΣ"] := by decide +kernel
  have unsettled : ¬ Text.IsSettled "ΑΣ".toList := by decide +kernel
  refine ⟨?_, single, unsettled, ?_⟩
  · refine (widens street _ fun _ _ => ⟨"ΟΔΟΣ ΑΒ", ?_, settled⟩).1 rfl ?_
    · rw [found]
      exact List.mem_singleton_self _
    · rw [found]
  · simpa using mt (sharp .sectionName "ΑΣ" (by decide) single).2 unsettled

/-- With regard to case ΑΣ is found in ΑΣΒ, and without it is not: alone its sigma is a final one, and
before Β it is not. -/
theorem widens_not_inside_word :
    ¬ ∀ (c : Condition) (page : PageContext), c.signal ≠ .unknown →
      (c.operator = .equals ∨ c.operator = .contains →
        ((c.withCase true).evaluate page).matched = true →
        ((c.withCase false).evaluate page).matched = true) ∧
      (c.operator = .notEquals ∨ c.operator = .notContains →
        ((c.withCase false).evaluate page).matched = true →
        ((c.withCase true).evaluate page).matched = true) := by
  intro always
  have widened := (always ⟨.sectionName, .contains, "ΑΣ", true⟩ { sectionName := "ΑΣΒ" }
    (by decide)).1 (.inr rfl) (by decide +kernel)
  exact absurd widened (by decide +kernel)

end Condition

end Exclusion
