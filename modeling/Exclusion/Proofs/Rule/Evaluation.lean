/-
# Exclusion.Proofs.Rule.Evaluation -- evaluating, evaluating at an instant, and telling why

The rules that fire at an instant are those that fire at all among the rules whose dates include it
(`evaluateAt_eq_evaluate`).  A trace tells of every rule, in the order of the list, what came of it at an
instant: it is matched exactly if the rule fires then, and it shows the tokens with which the rule fires;
it is skipped exactly if a gate is closed, and then it gives the first such gate and nothing else
(`RuleTrace.tells`).  So what a trace shows before anything is published is what a page would do:
`evaluations_agree`.

Results and conditions are put together item by item, which would drop the longer end of two lists.  A
rule that is looked at has as many results as conditions, and one that is skipped has none.
-/
import Exclusion.Proofs.Rule.Firing
import Exclusion.Proofs.Rule.Gate

namespace Exclusion

set_option autoImplicit false

variable {rules : List Rule} {r : Rule} {page : PageContext} {now : Instant}

/-! ## Rules that fire -/

/-- At an instant those rules fire that fire at all and whose dates include it. -/
theorem evaluateAt_eq_evaluate (rules : List Rule) (page : PageContext) (now : Instant) :
    evaluateAt rules page now = evaluate (rules.filter (·.isScheduledAt now)) page := by
  rw [evaluateAt, evaluate, List.filterMap_filter]
  exact List.filterMap_congr fun r _ => ofMatch?_matchAt r page now

theorem FiredRule.ofMatch?_eq_some_iff {m : RuleMatch} {fired : FiredRule} :
    FiredRule.ofMatch? r m = some fired ↔ m.fired = true ∧ fired = ⟨r, m.trace⟩ := by
  rw [FiredRule.ofMatch?]
  split
  · rename_i fires
    simp [fires, eq_comm]
  · rename_i silent
    simp [silent]

theorem mem_evaluateAt {fired : FiredRule} :
    fired ∈ evaluateAt rules page now ↔
      ∃ r ∈ rules, (r.matchAt page now).fired = true ∧ fired = ⟨r, (r.matchAt page now).trace⟩ := by
  simp only [evaluateAt, List.mem_filterMap, FiredRule.ofMatch?_eq_some_iff]

/-! ## What is told of one rule -/

namespace RuleTrace

/-- The entry tells what comes of the rule, one of the rules, on the page at the instant. -/
structure Tells (rules : List Rule) (page : PageContext) (now : Instant) (r : Rule) (entry : RuleTrace) :
    Prop where
  id : entry.ruleId = r.id
  name : entry.ruleName = r.name
  matched_iff : entry.outcome = .matched ↔ ∃ fired ∈ evaluateAt rules page now, fired.rule = r
  tokens : ∀ fired ∈ evaluateAt rules page now, fired.rule = r → fired.trace = entry.matchedTokens
  skipped_iff : entry.outcome = .skipped ↔ (r.closedGateAt? page now).isSome = true
  reason : entry.skipReason = (r.closedGateAt? page now).map (·.name)
  shown : entry.outcome ≠ .skipped →
    entry.conditions = r.conditions.map fun c => .ofResult c (c.evaluate page)
  hidden : entry.outcome = .skipped → entry.conditions = [] ∧ entry.matchedTokens = []

/-- The outcome of a rule that no gate stops says whether it fires. -/
theorem outcome_judged (r : Rule) (page : PageContext) :
    Outcome.ofMatch (r.judged page) = if (r.judged page).fired then .matched else .notMatched :=
  rfl

/-- A rule that no gate stops is told with one result for each of its conditions. -/
theorem conditions_judged (r : Rule) (page : PageContext) :
    (ofMatch r (r.judged page)).conditions =
      r.conditions.map fun c => .ofResult c (c.evaluate page) := by
  show r.conditions.zipWith ConditionTrace.ofResult (r.conditions.map (·.evaluate page)) = _
  rw [List.zipWith_map_right, List.zipWith_self]

/-- A rule is told as matched exactly if it fires. -/
theorem outcome_eq_matched_iff (r : Rule) (page : PageContext) (now : Instant) :
    Outcome.ofMatch (r.matchAt page now) = .matched ↔ (r.matchAt page now).fired = true := by
  cases gate : r.closedGateAt? page now with
  | some reason =>
      rw [Rule.matchAt_of_closed gate]
      exact ⟨nofun, nofun⟩
  | none =>
      rw [Rule.matchAt_of_open gate, outcome_judged]
      cases (r.judged page).fired <;> simp

/-- A rule is told as skipped exactly if a gate is closed. -/
theorem outcome_eq_skipped_iff (r : Rule) (page : PageContext) (now : Instant) :
    Outcome.ofMatch (r.matchAt page now) = .skipped ↔ (r.closedGateAt? page now).isSome = true := by
  cases gate : r.closedGateAt? page now with
  | some reason =>
      rw [Rule.matchAt_of_closed gate]
      exact ⟨fun _ => rfl, fun _ => rfl⟩
  | none =>
      rw [Rule.matchAt_of_open gate, outcome_judged]
      cases (r.judged page).fired <;> simp

/-- **What is told of a rule is what comes of it.** -/
theorem tells (listed : r ∈ rules) :
    Tells rules page now r (ofMatch r (r.matchAt page now)) where
  id := rfl
  name := rfl
  matched_iff := by
    refine (outcome_eq_matched_iff r page now).trans ?_
    constructor
    · intro fires
      exact ⟨⟨r, _⟩, mem_evaluateAt.2 ⟨r, listed, fires, rfl⟩, rfl⟩
    · rintro ⟨fired, member, rfl⟩
      obtain ⟨s, -, fires, rfl⟩ := mem_evaluateAt.1 member
      exact fires
  tokens := by
    rintro fired member rfl
    obtain ⟨s, -, -, rfl⟩ := mem_evaluateAt.1 member
    rfl
  skipped_iff := outcome_eq_skipped_iff r page now
  reason := by
    show (r.matchAt page now).skipped.map _ = _
    rw [Rule.matchAt_eq]
    cases r.closedGateAt? page now <;> rfl
  shown visible := by
    have opened : r.closedGateAt? page now = none :=
      Option.not_isSome_iff_eq_none.1 (mt (outcome_eq_skipped_iff r page now).2 visible)
    rw [Rule.matchAt_of_open opened]
    exact conditions_judged r page
  hidden skipped := by
    obtain ⟨reason, closed⟩ :=
      Option.isSome_iff_exists.1 ((outcome_eq_skipped_iff r page now).1 skipped)
    rw [Rule.matchAt_of_closed closed]
    exact ⟨List.zipWith_nil_right, rfl⟩

end RuleTrace

/-! ## What is told of a list -/

theorem rules_traceRules (rules : List Rule) (page : PageContext) (now : Instant) (duration : Nat) :
    (traceRules rules page now duration).rules =
      rules.map fun r => RuleTrace.ofMatch r (r.matchAt page now) :=
  List.map_map

/-- The rules that fire, read off a trace: those that are told as matched, with the tokens shown. -/
def firedAsTold (rules : List Rule) (entries : List RuleTrace) : List FiredRule :=
  (rules.zip entries).filterMap fun (r, entry) =>
    if entry.outcome = .matched then some ⟨r, entry.matchedTokens⟩ else none

theorem firedAsTold_traceRules (rules : List Rule) (page : PageContext) (now : Instant)
    (duration : Nat) :
    firedAsTold rules (traceRules rules page now duration).rules = evaluateAt rules page now := by
  rw [firedAsTold, rules_traceRules, ← List.map_prod_left_eq_zip, List.filterMap_map, evaluateAt]
  refine List.filterMap_congr fun r _ => ?_
  exact if_congr (RuleTrace.outcome_eq_matched_iff r page now) rfl rfl

theorem matchedRules_traceRules (rules : List Rule) (page : PageContext) (now : Instant)
    (duration : Nat) :
    (traceRules rules page now duration).matchedRules =
      (evaluateAt rules page now).map (·.rule.name) := by
  show (((rules.map fun r => (r, r.matchAt page now)).filter (·.2.fired)).map (·.1.name)) = _
  rw [evaluateAt]
  induction rules with
  | nil => rfl
  | cons r rules ih =>
      rw [List.map_cons, List.filter_cons, List.filterMap_cons, FiredRule.ofMatch?]
      cases (r.matchAt page now).fired with
      | true => exact congrArg (r.name :: ·) ih
      | false => exact ih

theorem evaluated_add_skipped (rules : List Rule) (page : PageContext) (now : Instant)
    (duration : Nat) :
    (traceRules rules page now duration).evaluated + (traceRules rules page now duration).skipped =
      rules.length := by
  show List.countP _ _ + List.countP _ _ = _
  have all := List.length_eq_countP_add_countP (fun told : Rule × RuleMatch => told.2.skipped.isNone)
    (l := rules.map fun r => (r, r.matchAt page now))
  rw [List.length_map] at all
  rw [all]
  congr 2
  funext told
  cases told.2.skipped <;> rfl

/-- **Evaluating rules, evaluating them at an instant and telling why agree**, for all rules, pages and
instants: in the rules that fire, their order and their tokens. -/
theorem evaluations_agree (rules : List Rule) (page : PageContext) (now : Instant) (duration : Nat) :
    evaluateAt rules page now = evaluate (rules.filter (·.isScheduledAt now)) page ∧
    List.Forall₂ (RuleTrace.Tells rules page now) rules
      (traceRules rules page now duration).rules ∧
    firedAsTold rules (traceRules rules page now duration).rules = evaluateAt rules page now ∧
    (traceRules rules page now duration).matchedRules =
      (evaluateAt rules page now).map (·.rule.name) ∧
    (traceRules rules page now duration).evaluated + (traceRules rules page now duration).skipped =
      rules.length := by
  refine ⟨evaluateAt_eq_evaluate rules page now, ?_, firedAsTold_traceRules rules page now duration,
    matchedRules_traceRules rules page now duration, evaluated_add_skipped rules page now duration⟩
  rw [rules_traceRules, List.forall₂_map_right_iff, List.forall₂_same]
  exact fun r listed => RuleTrace.tells listed

end Exclusion
