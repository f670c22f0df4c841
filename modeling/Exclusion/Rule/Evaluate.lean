/-
# Exclusion.Rule.Evaluate -- the rules that fire on a page, and why

`evaluate` and `evaluateAt` list the rules that fire, in the order of the list, with or without regard
to dates.  `traceRules` tells of every rule what came of it.
-/
import Exclusion.Rule.Match

namespace Exclusion

set_option autoImplicit false

open Exclusion.Json

/-- A rule that fired, with the tokens that were found. -/
structure FiredRule where
  rule : Rule
  trace : List String
  deriving DecidableEq

/-- The rule, if it fired. -/
def FiredRule.ofMatch? (r : Rule) (m : RuleMatch) : Option FiredRule :=
  if m.fired then some ⟨r, m.trace⟩ else none

/-- The rules that fire on a page, whatever their dates. -/
def evaluate (rules : List Rule) (page : PageContext) : List FiredRule :=
  rules.filterMap fun r => FiredRule.ofMatch? r (r.matchOn page)

/-- The rules that fire on a page at an instant. -/
def evaluateAt (rules : List Rule) (page : PageContext) (now : Instant) : List FiredRule :=
  rules.filterMap fun r => FiredRule.ofMatch? r (r.matchAt page now)

/-! ## Traces -/

/-- What came of a rule, in one word. -/
inductive Outcome where
  | matched
  | notMatched
  | skipped
  deriving DecidableEq, Repr

namespace Outcome

def name : Outcome → String
  | matched => "matched"
  | notMatched => "not_matched"
  | skipped => "skipped"

def codec : Codec Outcome :=
  .names name [matched, notMatched, skipped] none

def ofMatch (m : RuleMatch) : Outcome :=
  if m.skipped.isSome then skipped else if m.fired then matched else notMatched

end Outcome

/-- What came of a condition, in words. -/
structure ConditionTrace where
  display : String
  matched : Bool
  matchedTokens : List String
  deriving DecidableEq, Repr

namespace ConditionTrace

def ofResult (c : Condition) (result : ConditionResult) : ConditionTrace :=
  ⟨c.display, result.matched, result.matchedTokens⟩

def fields : Fields ConditionTrace [String, Bool, List String] :=
  .cons (.required "condition_display" display .string) <|
  .cons (.required "matched" matched .bool) <|
  .cons (.required "matched_tokens" matchedTokens (.list .string)) .nil

def codec : Codec ConditionTrace :=
  .record "struct ConditionTrace" fields fun (display, matched, matchedTokens, ()) =>
    { display, matched, matchedTokens }

end ConditionTrace

/-- What came of a rule, in words. -/
structure RuleTrace where
  ruleId : String
  ruleName : String
  enabled : Bool
  connective : String
  effect : String
  selector : String
  outcome : Outcome
  skipReason : Option String
  conditions : List ConditionTrace
  matchedTokens : List String
  deriving DecidableEq, Repr

namespace RuleTrace

/-- The trace of a rule.  A rule that was skipped has no conditions in it. -/
def ofMatch (r : Rule) (m : RuleMatch) : RuleTrace where
  ruleId := r.id
  ruleName := r.name
  enabled := r.isActive
  connective := r.connective.name
  effect := r.effect.name
  selector := r.selector
  outcome := .ofMatch m
  skipReason := m.skipped.map (·.name)
  conditions := r.conditions.zipWith .ofResult m.conditions
  matchedTokens := m.trace

/-- The parts of a rule's trace in their order.  An array has to give the reason, even if it is
null. -/
def fields : Fields RuleTrace
    [String, String, Bool, String, String, String, Outcome, Option String, List ConditionTrace,
      List String] :=
  .cons (.required "rule_id" ruleId .string) <|
  .cons (.required "rule_name" ruleName .string) <|
  .cons (.required "enabled" enabled .bool) <|
  .cons (.required "logical_operator" connective .string) <|
  .cons (.required "action" effect .string) <|
  .cons (.required "selector" selector .string) <|
  .cons (.required "result" outcome Outcome.codec) <|
  .cons { Field.optional "skip_reason" skipReason .string with absentItem := none } <|
  .cons (.required "conditions" conditions (.list ConditionTrace.codec)) <|
  .cons (.required "matched_tokens" matchedTokens (.list .string)) .nil

def codec : Codec RuleTrace :=
  .record "struct RuleTraceEntry" fields
    fun (ruleId, ruleName, enabled, connective, effect, selector, outcome, skipReason, conditions,
        matchedTokens, ()) =>
      { ruleId, ruleName, enabled, connective, effect, selector, outcome, skipReason, conditions,
        matchedTokens }

end RuleTrace

/-- What came of a list of rules on a page. -/
structure EvaluationTrace where
  matchedRules : List String
  evaluated : Nat
  skipped : Nat
  /-- How long it took, in microseconds. -/
  duration : Nat
  rules : List RuleTrace
  deriving DecidableEq, Repr

namespace EvaluationTrace

def fields : Fields EvaluationTrace [List String, Nat, Nat, Nat, List RuleTrace] :=
  .cons (.required "matched_rules" matchedRules (.list .string)) <|
  .cons (.required "total_rules_evaluated" evaluated .size) <|
  .cons (.required "total_rules_skipped" skipped .size) <|
  .cons (.required "evaluation_duration_us" duration .unsigned64) <|
  .cons (.required "trace" rules (.list RuleTrace.codec)) .nil

def codec : Codec EvaluationTrace :=
  .record "struct RuleEvaluationTrace" fields
    fun (matchedRules, evaluated, skipped, duration, rules, ()) =>
      { matchedRules, evaluated, skipped, duration, rules }

end EvaluationTrace

/-- Tells of every rule what comes of it on a page at an instant; `duration` is how long that
took. -/
def traceRules (rules : List Rule) (page : PageContext) (now : Instant) (duration : Nat) :
    EvaluationTrace :=
  let told := rules.map fun r => (r, r.matchAt page now)
  { matchedRules := (told.filter (·.2.fired)).map (·.1.name)
    evaluated := told.countP (·.2.skipped.isNone)
    skipped := told.countP (·.2.skipped.isSome)
    duration := duration
    rules := told.map fun (r, m) => .ofMatch r m }

end Exclusion
