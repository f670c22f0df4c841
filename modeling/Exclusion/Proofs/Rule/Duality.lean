/-
# Exclusion.Proofs.Rule.Duality -- the opposite of a rule

The opposite of a rule has the other connective and the negated conditions.  Neither the gates nor the
number of conditions change, so the two are skipped together.  Where they are not, all conditions hold
exactly if no negated one does, and one of the two rules fires (`Rule.opposite_fires_iff_not`).  Without
conditions neither fires; that is why the law needs one.

The trace is collected from the conditions that hold, whether the rule fires or not.  A condition that
does not hold adds nothing to it, and neither does one with a negative operator, which holds only if it
found nothing: `Rule.trace_keeping`.
-/
import Exclusion.Proofs.Rule.Gate
import Exclusion.Proofs.Rule.Negation

namespace Exclusion

set_option autoImplicit false

/-! ## Connectives -/

/-- The other connective. -/
def Connective.other : Connective → Connective
  | and => or
  | or => and

/-- Results that are all turned around turn around what the other connective makes of them. -/
theorem Connective.fires_other {α : Type} {connective : Connective} {l : List α}
    {f g : α → ConditionResult} (nonempty : l ≠ [])
    (opposed : ∀ a ∈ l, (g a).matched = !(f a).matched) :
    connective.other.fires (l.map g) = !connective.fires (l.map f) := by
  have filled : ∀ h : α → ConditionResult, (!(l.map h).isEmpty) = true := fun h => by
    simpa using nonempty
  cases connective with
  | and =>
      show (_ && (l.map g).any _) = !(_ && (l.map f).all _)
      rw [filled, filled, Bool.true_and, Bool.true_and, List.any_map, List.all_map,
        List.not_all_eq_any_not, Bool.eq_iff_iff, List.any_eq_true, List.any_eq_true]
      exact exists_congr fun a => and_congr_right fun listed => Bool.eq_iff_iff.1 (opposed a listed)
  | or =>
      show (_ && (l.map g).all _) = !(_ && (l.map f).any _)
      rw [filled, filled, Bool.true_and, Bool.true_and, List.any_map, List.all_map,
        List.not_any_eq_all_not, Bool.eq_iff_iff, List.all_eq_true, List.all_eq_true]
      exact forall₂_congr fun a listed => Bool.eq_iff_iff.1 (opposed a listed)

/-! ## Traces -/

theorem traceOf_append (a b : List ConditionResult) : traceOf (a ++ b) = traceOf a ++ traceOf b := by
  simp [traceOf]

theorem traceOf_eq_nil_iff {results : List ConditionResult} :
    traceOf results = [] ↔ ∀ x ∈ results, x.matched = true → x.matchedTokens = [] := by
  simp [traceOf]

namespace Rule

variable {r : Rule} {page : PageContext}

/-! ## The opposite rule -/

/-- The rule with the other connective and all conditions negated. -/
def opposite (r : Rule) : Rule :=
  { r with
    connective := r.connective.other
    conditions := r.conditions.map Condition.negated }

/-- A rule and its opposite are skipped together. -/
theorem closedGate?_opposite (r : Rule) (page : PageContext) :
    r.opposite.closedGate? page = r.closedGate? page :=
  rfl

theorem results_opposite (r : Rule) (page : PageContext) :
    r.opposite.results page = r.conditions.map fun c => c.negated.evaluate page :=
  List.map_map

/-- Where a rule with known conditions is looked at, it fires exactly if its opposite does not. -/
theorem fired_opposite (nonempty : r.conditions ≠ []) (known : ∀ c ∈ r.conditions, c.IsKnown)
    (opened : r.closedGate? page = none) :
    (r.opposite.matchOn page).fired = !(r.matchOn page).fired := by
  rw [matchOn_of_open opened, matchOn_of_open ((closedGate?_opposite r page).trans opened)]
  show r.connective.other.fires (r.opposite.results page) = !r.connective.fires (r.results page)
  rw [results_opposite]
  exact Connective.fires_other nonempty fun c listed => Condition.matched_negated (known c listed)

/-! ## Conditions that add nothing -/

/-- The rule with these conditions alone: those before and those after one that is taken out. -/
def keeping (r : Rule) (before after : List Condition) : Rule :=
  { r with conditions := before ++ after }

theorem trace_eq_nil_iff (opened : r.closedGate? page = none) :
    (r.matchOn page).trace = [] ↔
      ∀ c ∈ r.conditions, (c.evaluate page).matched = true → c.operator.isNegative = true := by
  rw [matchOn_of_open opened]
  show traceOf (r.results page) = [] ↔ _
  rw [traceOf_eq_nil_iff, results, List.forall_mem_map]
  exact forall₂_congr fun c _ => forall_congr' Condition.matchedTokens_eq_nil_iff

/-- A condition that does not hold, or has a negative operator, adds nothing to the trace. -/
theorem traceOf_singleton {c : Condition}
    (idle : (c.evaluate page).matched = false ∨ c.operator.isNegative = true) :
    traceOf [c.evaluate page] = [] := by
  rw [traceOf_eq_nil_iff, List.forall_mem_singleton]
  intro holds
  rcases idle with fails | negative
  · exact absurd (fails.symm.trans holds) (by decide)
  · exact (Condition.matchedTokens_eq_nil_iff holds).2 negative

theorem trace_keeping {before after : List Condition} {c : Condition}
    (conditions : r.conditions = before ++ c :: after)
    (idle : (c.evaluate page).matched = false ∨ c.operator.isNegative = true) :
    ((r.keeping before after).matchOn page).trace = (r.matchOn page).trace := by
  have same : (r.keeping before after).closedGate? page = r.closedGate? page := rfl
  cases closed : r.closedGate? page with
  | some reason => rw [matchOn_of_closed closed, matchOn_of_closed (same.trans closed)]
  | none =>
      have all : r.results page =
          before.map (·.evaluate page) ++ ([c.evaluate page] ++ after.map (·.evaluate page)) := by
        rw [results, conditions, List.map_append, List.map_cons, List.singleton_append]
      have rest : (r.keeping before after).results page =
          before.map (·.evaluate page) ++ after.map (·.evaluate page) :=
        List.map_append
      rw [matchOn_of_open closed, matchOn_of_open (same.trans closed)]
      show traceOf ((r.keeping before after).results page) = traceOf (r.results page)
      rw [all, rest, traceOf_append, traceOf_append, traceOf_append, traceOf_singleton idle,
        List.nil_append]

/-- **A rule with known conditions and its opposite are skipped together, and where they are not, one of
them fires.**  Of any rule that fires, the trace is empty exactly if all conditions that hold are
negative.  Taking out a condition that does not hold, or a negative one, changes neither whether the rule
is skipped nor its trace. -/
theorem opposite_fires_iff_not (r : Rule) (page : PageContext) :
    (r.conditions ≠ [] → (∀ c ∈ r.conditions, c.IsKnown) →
      (r.opposite.matchOn page).skipped = (r.matchOn page).skipped ∧
      ((r.matchOn page).skipped ≠ none →
        (r.matchOn page).fired = false ∧ (r.opposite.matchOn page).fired = false) ∧
      ((r.matchOn page).skipped = none →
        (r.opposite.matchOn page).fired = !(r.matchOn page).fired)) ∧
    ((r.matchOn page).fired = true →
      ((r.matchOn page).trace = [] ↔
        ∀ c ∈ r.conditions, (c.evaluate page).matched = true → c.operator.isNegative = true)) ∧
    (∀ before c after, r.conditions = before ++ c :: after →
      (c.evaluate page).matched = false ∨ c.operator.isNegative = true →
      ((r.keeping before after).matchOn page).skipped = (r.matchOn page).skipped ∧
      ((r.keeping before after).matchOn page).trace = (r.matchOn page).trace) := by
  refine ⟨fun nonempty known => ⟨?_, ?_, ?_⟩, ?_, ?_⟩
  · rw [skipped_matchOn, skipped_matchOn, closedGate?_opposite]
  · intro skipped
    rw [skipped_matchOn] at skipped
    obtain ⟨reason, closed⟩ := Option.ne_none_iff_exists'.1 skipped
    rw [matchOn_of_closed closed, matchOn_of_closed ((closedGate?_opposite r page).trans closed)]
    exact ⟨rfl, rfl⟩
  · intro opened
    rw [skipped_matchOn] at opened
    exact fired_opposite nonempty known opened
  · exact fun fires => trace_eq_nil_iff (closedGate?_of_fired fires)
  · intro before c after conditions idle
    refine ⟨?_, trace_keeping conditions idle⟩
    rw [skipped_matchOn, skipped_matchOn]
    rfl

/-- Fires on the site where its second condition, a negative one, has nothing to find. -/
def offGolSite : Rule :=
  ((Rule.new "r1" "Gol" ".banner" .epoch).addCondition ⟨.site, .equals, "gol,tv", true⟩).addCondition
    ⟨.abTest, .notEquals, "b", true⟩

def golPage : PageContext :=
  { site := "gol", adsEnabled := true }

theorem opposite_fires_iff_not_offGolSite :
    offGolSite.conditions ≠ [] ∧ (∀ c ∈ offGolSite.conditions, c.IsKnown) ∧
    (offGolSite.matchOn golPage).skipped = none ∧
    (offGolSite.opposite.matchOn golPage).fired = false ∧
    (offGolSite.matchOn golPage).trace ≠ [] ∧
    ((offGolSite.keeping [⟨.site, .equals, "gol,tv", true⟩] []).matchOn golPage).trace = ["gol"] := by
  have nonempty : offGolSite.conditions ≠ [] := by decide
  have known : ∀ c ∈ offGolSite.conditions, c.IsKnown := by decide
  have fires : (offGolSite.matchOn golPage).fired = true := by decide +kernel
  obtain ⟨opposed, traced, removed⟩ := opposite_fires_iff_not offGolSite golPage
  obtain ⟨-, -, turned⟩ := opposed nonempty known
  refine ⟨nonempty, known, rfl, ?_, ?_, ?_⟩
  · rw [turned rfl, fires]
    rfl
  · intro empty
    have negative := (traced fires).1 empty _ List.mem_cons_self (by decide +kernel)
    cases negative
  · rw [(removed [⟨.site, .equals, "gol,tv", true⟩] _ [] rfl (.inr rfl)).2]
    decide +kernel

end Rule

end Exclusion
