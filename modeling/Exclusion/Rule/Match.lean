/-
# Exclusion.Rule.Match -- whether a rule fires on a page

A condition finds those of its tokens that the page gives for its signal; positive operators hold if
any was found, negative ones if none was.  Both sides are normalized first: trimmed, and in lower
case unless the condition is case-sensitive.  `Rule.matchOn` combines the conditions, after two gates;
`Rule.matchAt` looks at the dates too.
-/
import Exclusion.Page.Context
import Exclusion.Rule.Basic
import Exclusion.Text.Lowercase

namespace Exclusion

set_option autoImplicit false

open Exclusion.Json

/-! ## Conditions -/

/-- The form in which values are compared. -/
def normalize (caseSensitive : Bool) (value : String) : String :=
  if caseSensitive then Text.trim value else Text.trim (Text.lowercase value)

/-- What came of a condition: whether it holds and which of its tokens were found. -/
structure ConditionResult where
  matched : Bool := false
  matchedTokens : List String := []
  deriving DecidableEq, Repr

/-- The tokens that one of the values equals, or contains if the comparison is not exact. -/
def hits (tokens values : List String) (exact : Bool) : List String :=
  tokens.filter fun token =>
    values.any fun value => if exact then value == token else Text.contains value token

namespace Condition

/-- The normalized tokens. -/
def normalTokens (c : Condition) : List String :=
  c.tokens.map (normalize c.caseSensitive)

/-- The result of an operator for the values of a signal. -/
def compare (c : Condition) (values : List String) (isList : Bool) : ConditionResult :=
  let found (exact : Bool) : List String := hits c.normalTokens values exact
  let positive (found : List String) : ConditionResult := ⟨!found.isEmpty, found⟩
  let negative (found : List String) : ConditionResult := ⟨found.isEmpty, found⟩
  match c.operator with
  | .equals => positive (found true)
  | .notEquals => negative (found true)
  | .contains => positive (found isList)
  | .notContains => negative (found isList)
  | .unknown => {}

/-- The result of a condition on a page.  Without a value for the signal it does not hold. -/
def evaluate (c : Condition) (page : PageContext) : ConditionResult :=
  match page.value? c.signal with
  | none => {}
  | some (.scalar value) => c.compare [normalize c.caseSensitive value] false
  | some (.list values) => c.compare (values.map (normalize c.caseSensitive)) true

end Condition

namespace ConditionResult

def fields : Fields ConditionResult [Bool, List String] :=
  .cons (.required "matched" matched .bool) <|
  .cons (.required "matched_tokens" matchedTokens (.list .string)) .nil

def codec : Codec ConditionResult :=
  .record "struct ConditionResult" fields fun (matched, matchedTokens, ()) =>
    { matched, matchedTokens }

end ConditionResult

/-! ## Rules -/

/-- Why a rule was not looked at. -/
inductive SkipReason where
  | inactive
  | adsDisabled
  | notScheduled
  deriving DecidableEq, Repr

namespace SkipReason

def name : SkipReason → String
  | inactive => "inactive"
  | adsDisabled => "ads_disabled"
  | notScheduled => "not_scheduled"

def codec : Codec SkipReason :=
  .names name [inactive, adsDisabled, notScheduled] none

end SkipReason

/-- What came of a rule: whether it fired, the tokens found by the conditions that hold, and the
results of all conditions; or why it was skipped. -/
structure RuleMatch where
  fired : Bool := false
  trace : List String := []
  conditions : List ConditionResult := []
  skipped : Option SkipReason := none
  deriving DecidableEq, Repr

namespace RuleMatch

def fields : Fields RuleMatch [Bool, List String, List ConditionResult, Option SkipReason] :=
  .cons (.required "fired" fired .bool) <|
  .cons (.required "trace" trace (.list .string)) <|
  .cons (.required "conditions" conditions (.list ConditionResult.codec)) <|
  .cons (.optional "skipped" skipped SkipReason.codec) .nil

def codec : Codec RuleMatch :=
  .record "struct RuleMatch" fields fun (fired, trace, conditions, skipped, ()) =>
    { fired, trace, conditions, skipped }

end RuleMatch

/-- The connective applied to the results; without conditions nothing fires. -/
def Connective.fires (connective : Connective) (results : List ConditionResult) : Bool :=
  !results.isEmpty &&
    match connective with
    | .and => results.all (·.matched)
    | .or => results.any (·.matched)

/-- The tokens of the results that hold. -/
def traceOf (results : List ConditionResult) : List String :=
  (results.filter (·.matched)).flatMap (·.matchedTokens)

namespace Rule

/-- The results of the conditions on a page. -/
def results (r : Rule) (page : PageContext) : List ConditionResult :=
  r.conditions.map (·.evaluate page)

/-- What comes of a rule on a page, whatever its dates. -/
def matchOn (r : Rule) (page : PageContext) : RuleMatch :=
  if !r.isActive then { skipped := some .inactive }
  else if r.respectsAds && !page.adsEnabled then { skipped := some .adsDisabled }
  else
    let results := r.results page
    { fired := r.connective.fires results, trace := traceOf results, conditions := results }

/-- What comes of a rule on a page at an instant. -/
def matchAt (r : Rule) (page : PageContext) (now : Instant) : RuleMatch :=
  if r.isActive && !r.isScheduledAt now then { skipped := some .notScheduled }
  else r.matchOn page

end Rule

end Exclusion
