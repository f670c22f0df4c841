/-
# Exclusion.Rule.Validation -- which rules may be stored

`Rule.issues` lists what is wrong with a rule by itself, `ruleSetIssues` what is wrong with a list of
rules: the issues of each rule, and an id that an earlier rule has already.  Every check is made, so
that all issues are reported at once.
-/
import Exclusion.Rule.Basic

namespace Exclusion

set_option autoImplicit false

/-- What is wrong with a rule; conditions are counted from zero. -/
inductive Flaw where
  | missingId
  | missingName
  | noCondition
  | unknownSignal (index : Nat)
  | unknownOperator (index : Nat)
  | emptyValue (index : Nat)
  | missingSelector
  | forbiddenSelector
  | endsBeforeStart
  | duplicateId
  deriving DecidableEq, Repr

def Flaw.message : Flaw → String
  | missingId => "missing id"
  | missingName => "missing name"
  | noCondition => "at least one condition is required"
  | unknownSignal index => conditionMessage index "unknown targeting key"
  | unknownOperator index => conditionMessage index "unknown operator"
  | emptyValue index => conditionMessage index "value is empty"
  | missingSelector => "missing target element selector"
  | forbiddenSelector => "target element selector may not contain '\x7b', '\x7d' or '<'"
  | endsBeforeStart => "end date precedes start date"
  | duplicateId => "duplicate id"
where
  conditionMessage (index : Nat) (message : String) : String :=
    "condition " ++ Json.Number.renderInt index ++ ": " ++ message

/-- A flaw of the rule with this id. -/
structure Issue where
  ruleId : String
  flaw : Flaw
  deriving DecidableEq, Repr

def Issue.message (issue : Issue) : String :=
  "rule '" ++ issue.ruleId ++ "': " ++ issue.flaw.message

/-- Issues in words, one after the other. -/
def issuesMessage (issues : List Issue) : String :=
  "invalid rule set: " ++ "; ".intercalate (issues.map Issue.message)

/-! ## One rule -/

def flawIf (failed : Bool) (flaw : Flaw) : List Flaw :=
  if failed then [flaw] else []

def Condition.flaws (index : Nat) (c : Condition) : List Flaw :=
  flawIf (c.signal == .unknown) (.unknownSignal index) ++
    flawIf (c.operator == .unknown) (.unknownOperator index) ++
    flawIf c.tokens.isEmpty (.emptyValue index)

/-- What is wrong with conditions from an index on. -/
def conditionFlaws (index : Nat) : List Condition → List Flaw
  | [] => []
  | c :: rest => c.flaws index ++ conditionFlaws (index + 1) rest

/-- A character that would end the style rule that the selector begins, or the script around it. -/
def isForbiddenInSelector (c : Char) : Bool :=
  c == '\x7b' || c == '\x7d' || c == '<'

def selectorFlaws (selector : String) : List Flaw :=
  if Text.isBlankText selector then [.missingSelector]
  else flawIf (selector.toList.any isForbiddenInSelector) .forbiddenSelector

def Rule.endsBeforeStart (r : Rule) : Bool :=
  match r.startsAt, r.endsAt with
  | some starts, some ends => ends < starts
  | _, _ => false

def Rule.flaws (r : Rule) : List Flaw :=
  flawIf (Text.isBlankText r.id) .missingId ++
    flawIf (Text.isBlankText r.name) .missingName ++
    flawIf r.conditions.isEmpty .noCondition ++
    conditionFlaws 0 r.conditions ++
    selectorFlaws r.selector ++
    flawIf r.endsBeforeStart .endsBeforeStart

def Rule.issues (r : Rule) : List Issue :=
  r.flaws.map fun flaw => ⟨r.id, flaw⟩

/-! ## Lists of rules -/

/-- The issues of rules that follow rules with the ids `seen`. -/
def issuesAfter (seen : List String) : List Rule → List Issue
  | [] => []
  | r :: rest =>
    r.issues ++
      (if r.id ≠ "" ∧ r.id ∈ seen then [⟨r.id, .duplicateId⟩] else []) ++
      issuesAfter (r.id :: seen) rest

def ruleSetIssues (rules : List Rule) : List Issue :=
  issuesAfter [] rules

/-- The list of rules may be stored. -/
def isValidRuleSet (rules : List Rule) : Bool :=
  (ruleSetIssues rules).isEmpty

end Exclusion
