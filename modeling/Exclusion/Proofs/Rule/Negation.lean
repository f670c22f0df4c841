/-
# Exclusion.Proofs.Rule.Negation -- a condition and its negation

A condition whose signal and operator are known comes down to one list: those of its normalized tokens
that the page gives for the signal (`Condition.found`).  It holds if the list is not empty, or if it is
empty where the operator is negative (`Condition.evaluate_of_known`).  The negated condition has the same
list (`Condition.found_negated`), so exactly one of the two holds.

A normalized token is never empty, because a token is not blank and no letter becomes white space in
lower case.  So an empty signal matches nothing, and a condition without tokens holds exactly if its
operator is negative.

A condition with an unknown signal or operator does not hold, and neither does its negation: these are
the only ones for which negation is no complement.
-/
import Exclusion.Proofs.Text.Blank
import Exclusion.Proofs.Text.Markup
import Exclusion.Rule.Match

namespace Exclusion

set_option autoImplicit false

/-! ## Normalized texts -/

/-- Nothing is left of a text by normalizing exactly if it is blank. -/
theorem normalize_eq_empty_iff {caseSensitive : Bool} {s : String} :
    normalize caseSensitive s = "" ↔ Text.isBlankText s = true := by
  cases caseSensitive with
  | true => exact Text.trim_eq_empty_iff
  | false =>
      rw [← Text.isBlankText_lowercase]
      exact Text.trim_eq_empty_iff

/-! ## Operators and signals -/

theorem Operator.isNegative_negate {o : Operator} (known : o ≠ .unknown) :
    o.negate.isNegative = !o.isNegative := by
  cases o with
  | unknown => exact absurd rfl known
  | _ => rfl

theorem Operator.negate_eq_unknown_iff {o : Operator} : o.negate = .unknown ↔ o = .unknown := by
  cases o <;> decide

/-- What a page gives for a signal, value by value. -/
def PageContext.valuesOf (page : PageContext) (s : Signal) : List String :=
  match page.value? s with
  | none => []
  | some (.scalar value) => [value]
  | some (.list values) => values

namespace Condition

/-! ## What a condition finds -/

/-- The signal and the operator of the condition are known. -/
def IsKnown (c : Condition) : Prop :=
  c.signal ≠ .unknown ∧ c.operator ≠ .unknown

instance (c : Condition) : Decidable c.IsKnown :=
  inferInstanceAs (Decidable (_ ∧ _))

/-- The condition looks for its tokens inside of the values.  Keywords are always taken whole. -/
def looksInside (c : Condition) : Bool :=
  (c.operator == .contains || c.operator == .notContains) && c.signal != .keywords

/-- The page gives the token for the signal: as a normalized value, or inside of one where the condition
looks there. -/
def IsFound (c : Condition) (page : PageContext) (token : String) : Prop :=
  ∃ value ∈ page.valuesOf c.signal,
    if c.looksInside then token.toList <:+: (normalize c.caseSensitive value).toList
    else token = normalize c.caseSensitive value

instance (c : Condition) (page : PageContext) (token : String) : Decidable (c.IsFound page token) :=
  inferInstanceAs (Decidable (∃ value ∈ page.valuesOf c.signal, ite _ _ _))

/-- The normalized tokens that the page gives, in their order and as often as they are listed. -/
def found (c : Condition) (page : PageContext) : List String :=
  c.normalTokens.filter (c.IsFound page ·)

variable {c : Condition} {page : PageContext}

theorem mem_found {token : String} :
    token ∈ c.found page ↔
      (∃ t ∈ c.tokens, normalize c.caseSensitive t = token) ∧ c.IsFound page token := by
  rw [found, List.mem_filter, normalTokens, List.mem_map, decide_eq_true_iff]

theorem hits_eq_found {exact : Bool} (inside : exact = !c.looksInside) :
    hits c.normalTokens ((page.valuesOf c.signal).map (normalize c.caseSensitive)) exact =
      c.found page := by
  refine List.filter_congr fun token _ => ?_
  rw [Bool.eq_iff_iff, decide_eq_true_iff, IsFound, List.any_map, List.any_eq_true, inside]
  refine exists_congr fun value => and_congr_right fun _ => ?_
  cases c.looksInside with
  | true => exact Text.contains_iff
  | false =>
      show (normalize c.caseSensitive value == token) = true ↔ token = normalize c.caseSensitive value
      rw [beq_iff_eq, eq_comm]

/-- A condition on a known signal compares its tokens with the values of the signal. -/
theorem evaluate_eq_compare (known : c.signal ≠ .unknown) :
    c.evaluate page =
      c.compare ((page.valuesOf c.signal).map (normalize c.caseSensitive)) (c.signal == .keywords) := by
  unfold evaluate PageContext.valuesOf
  cases named : c.signal with
  | unknown => exact absurd named known
  | _ => rfl

/-- **A known condition comes down to the tokens that are found**: it holds if there are some, or if there
are none and its operator is negative. -/
theorem evaluate_of_known (known : c.IsKnown) :
    c.evaluate page = ⟨(c.found page).isEmpty == c.operator.isNegative, c.found page⟩ := by
  rw [evaluate_eq_compare known.1, compare]
  cases named : c.operator with
  | unknown => exact absurd named known.2
  | equals | notEquals =>
      have whole : true = !c.looksInside := by simp [looksInside, named]
      simp [hits_eq_found whole, Operator.isNegative]
  | contains | notContains =>
      have inside : (c.signal == .keywords) = !c.looksInside := by simp [looksInside, named, bne]
      simp [hits_eq_found inside, Operator.isNegative]

/-- A condition with an unknown signal or operator finds nothing and does not hold. -/
theorem evaluate_of_not_known (unknown : ¬ c.IsKnown) : c.evaluate page = ⟨false, []⟩ := by
  by_cases named : c.signal = .unknown
  · rw [evaluate, named]
    rfl
  · have operator : c.operator = .unknown := by
      by_contra other
      exact unknown ⟨named, other⟩
    rw [evaluate_eq_compare named, compare, operator]

theorem matched_iff (known : c.IsKnown) :
    (c.evaluate page).matched = true ↔
      if c.operator.isNegative then (c.evaluate page).matchedTokens = []
      else (c.evaluate page).matchedTokens ≠ [] := by
  rw [evaluate_of_known known]
  cases c.operator.isNegative <;> simp

theorem isKnown_of_matched (holds : (c.evaluate page).matched = true) : c.IsKnown := by
  by_contra unknown
  rw [evaluate_of_not_known unknown] at holds
  cases holds

/-- A condition that holds has found nothing exactly if its operator is negative. -/
theorem matchedTokens_eq_nil_iff (holds : (c.evaluate page).matched = true) :
    (c.evaluate page).matchedTokens = [] ↔ c.operator.isNegative = true := by
  have matched := (matched_iff (isKnown_of_matched holds)).1 holds
  split at matched
  · rename_i negative
    simp [matched, negative]
  · rename_i positive
    simp [matched, positive]

/-! ## Negation -/

theorem isKnown_negated : c.negated.IsKnown ↔ c.IsKnown :=
  and_congr_right fun _ => not_congr Operator.negate_eq_unknown_iff

theorem looksInside_negated (c : Condition) : c.negated.looksInside = c.looksInside := by
  unfold looksInside negated
  cases c.operator <;> rfl

/-- A condition and its negation find the same tokens. -/
theorem found_negated (c : Condition) (page : PageContext) : c.negated.found page = c.found page := by
  refine List.filter_congr fun token _ => ?_
  simp only [IsFound, looksInside_negated]
  rfl

theorem matched_negated (known : c.IsKnown) :
    (c.negated.evaluate page).matched = !(c.evaluate page).matched := by
  rw [evaluate_of_known known, evaluate_of_known (isKnown_negated.2 known), found_negated]
  show ((c.found page).isEmpty == c.operator.negate.isNegative) = _
  rw [Operator.isNegative_negate known.2]
  cases (c.found page).isEmpty <;> cases c.operator.isNegative <;> rfl

/-! ## Tokens -/

theorem empty_not_mem_normalTokens (c : Condition) : "" ∉ c.normalTokens := by
  intro member
  obtain ⟨token, listed, empty⟩ := List.mem_map.1 member
  have shown : Text.isBlankText token = false := Text.not_isBlankText_of_mem_parts listed
  rw [normalize_eq_empty_iff.1 empty] at shown
  cases shown

/-- A condition whose value has nothing but commas and white space has no tokens to find. -/
theorem found_of_blank (blank : ∀ ch ∈ c.value.toList, ch = ',' ∨ Text.isBlank ch = true) :
    c.found page = [] := by
  have none : c.tokens = [] := Text.parts_eq_nil_iff.2 blank
  rw [found, normalTokens, none]
  rfl

/-- **Negation is exact for known conditions, and for no others.**  A known condition and its negation
list the same tokens, those that the page gives; one of the two holds if there are some and the other if
there are none.  No token is empty, so a value of only commas and white space is found nowhere.  With an
unknown signal or operator neither holds, and no token is listed. -/
theorem negation_is_complement (c : Condition) (page : PageContext) :
    (c.IsKnown →
      (c.evaluate page).matchedTokens = c.normalTokens.filter (c.IsFound page ·) ∧
      (c.negated.evaluate page).matchedTokens = (c.evaluate page).matchedTokens ∧
      ((c.evaluate page).matched = true ↔
        if c.operator.isNegative then (c.evaluate page).matchedTokens = []
        else (c.evaluate page).matchedTokens ≠ []) ∧
      (c.negated.evaluate page).matched = !(c.evaluate page).matched ∧
      "" ∉ (c.evaluate page).matchedTokens ∧
      ((∀ ch ∈ c.value.toList, ch = ',' ∨ Text.isBlank ch = true) →
        (c.evaluate page).matched = c.operator.isNegative)) ∧
    (¬ c.IsKnown →
      c.evaluate page = ⟨false, []⟩ ∧ c.negated.evaluate page = ⟨false, []⟩) := by
  constructor
  · intro known
    have listed : (c.evaluate page).matchedTokens = c.found page := by rw [evaluate_of_known known]
    have same : (c.negated.evaluate page).matchedTokens = (c.evaluate page).matchedTokens := by
      rw [listed, evaluate_of_known (isKnown_negated.2 known), found_negated]
    refine ⟨listed, same, matched_iff known, matched_negated known, ?_, ?_⟩
    · rw [listed]
      exact fun member => empty_not_mem_normalTokens c (List.mem_of_mem_filter member)
    · intro blank
      rw [evaluate_of_known known, found_of_blank blank]
      cases c.operator.isNegative <;> rfl
  · intro unknown
    exact ⟨evaluate_of_not_known unknown, evaluate_of_not_known (mt isKnown_negated.1 unknown)⟩

/-- Keywords are taken whole and whatever their case; a token that is listed twice is found twice. -/
def offGol : Condition :=
  ⟨.keywords, .notContains, " GOL, tv,gol,", false⟩

theorem negation_is_complement_offGol :
    offGol.IsKnown ∧
    (offGol.evaluate { keywords := ["Gol"] }).matchedTokens =
      ["gol", "gol"] ∧
    (offGol.negated.evaluate { keywords := ["Gol"] }).matched = true := by
  have known : offGol.IsKnown := by decide
  obtain ⟨listed, -, holds, other, -⟩ :=
    (negation_is_complement offGol { keywords := ["Gol"] }).1 known
  have found : offGol.normalTokens.filter
      (offGol.IsFound { keywords := ["Gol"] } ·) = ["gol", "gol"] := by
    decide +kernel
  rw [found] at listed
  refine ⟨known, listed, ?_⟩
  rw [other, Bool.not_eq_true', ← Bool.not_eq_true, holds, listed]
  decide

end Condition

end Exclusion
