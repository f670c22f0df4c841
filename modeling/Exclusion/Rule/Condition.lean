/-
# Exclusion.Rule.Condition -- conditions on a signal

A condition compares one signal of a page with the comma-separated tokens of its value.  Every
operator that is known has an opposite, and `Condition.negated` swaps the two.
-/
import Exclusion.Json.Record
import Exclusion.Page.Signal
import Exclusion.Text.Split

namespace Exclusion

set_option autoImplicit false

open Exclusion.Json

/-! ## Operators -/

/-- How a signal is compared; a name that nobody knows is kept as `unknown`. -/
inductive Operator where
  | equals
  | notEquals
  | contains
  | notContains
  | unknown
  deriving DecidableEq, Repr

namespace Operator

def name : Operator → String
  | equals => "equals"
  | notEquals => "not_equals"
  | contains => "contains"
  | notContains => "not_contains"
  | unknown => "unknown"

/-- The operator that holds exactly when this one does not. -/
def negate : Operator → Operator
  | equals => notEquals
  | notEquals => equals
  | contains => notContains
  | notContains => contains
  | unknown => unknown

/-- The operator holds when no token is found. -/
def isNegative : Operator → Bool
  | notEquals | notContains => true
  | _ => false

@[simp] theorem negate_negate (o : Operator) : o.negate.negate = o := by
  cases o <;> rfl

/-- Operators by name; any other name is the unknown operator. -/
def codec : Codec Operator :=
  .names name [equals, notEquals, contains, notContains, unknown] (some unknown)

end Operator

/-! ## Conditions -/

structure Condition where
  signal : Signal
  operator : Operator
  value : String
  caseSensitive : Bool := false
  deriving DecidableEq, Repr

namespace Condition

/-- The tokens of the value: what stands between its commas, trimmed, if anything is left. -/
def tokens (c : Condition) : List String :=
  Text.parts c.value

def negated (c : Condition) : Condition :=
  { c with operator := c.operator.negate }

/-- The condition in words, as traces show it. -/
def display (c : Condition) : String :=
  c.signal.name ++ " " ++ c.operator.name ++ " " ++ Text.quoted c.value ++
    (if c.caseSensitive then " (case-sensitive)" else "")

def fields : Fields Condition [Signal, Operator, String, Bool] :=
  .cons (.required "targetKey" signal Signal.codec) <|
  .cons (.required "operator" operator Operator.codec) <|
  .cons (.required "value" value .string) <|
  .cons (.default "caseSensitive" caseSensitive .bool false) .nil

def codec : Codec Condition :=
  .record "struct Condition" fields fun (signal, operator, value, caseSensitive, ()) =>
    { signal, operator, value, caseSensitive }

end Condition

end Exclusion
