/-
# Exclusion.Script.Payload -- rules as a published script carries them

A published rule has only what the page needs: no id, no date of creation, and no switch, since only
active rules are published.  Its names are short because every page loads them.
-/
import Exclusion.Rule.Book

namespace Exclusion

set_option autoImplicit false

open Exclusion.Json

/-- A rule in a published script. -/
structure PublishedRule where
  name : String
  conditions : List Condition
  connective : Connective
  selector : String
  effect : Effect
  respectsAds : Bool
  /-- The first millisecond at which the rule applies. -/
  starts : Option Int
  /-- The last millisecond at which the rule applies. -/
  ends : Option Int
  deriving DecidableEq, Repr

namespace PublishedRule

/-- The published form of a rule. -/
def ofRule (r : Rule) : PublishedRule where
  name := r.name
  conditions := r.conditions
  connective := r.connective
  selector := r.selector
  effect := r.effect
  respectsAds := r.respectsAds
  starts := r.startsAt.map (·.millis)
  ends := r.endsAt.map (·.millis)

def fields : Fields PublishedRule
    [String, List Condition, Connective, String, Effect, Bool, Option Int, Option Int] :=
  .cons (.required "name" name .string) <|
  .cons (.required "conds" conditions (.list Condition.codec)) <|
  .cons (.required "lOp" connective Connective.codec) <|
  .cons (.required "sel" selector .string) <|
  .cons (.required "act" effect Effect.codec) <|
  .cons (.required "rae" respectsAds .bool) <|
  .cons (.optional "start" starts .signed64) <|
  .cons (.optional "end" ends .signed64) .nil

def codec : Codec PublishedRule :=
  .record "struct CompiledRule" fields
    fun (name, conditions, connective, selector, effect, respectsAds, starts, ends, ()) =>
      { name, conditions, connective, selector, effect, respectsAds, starts, ends }

def listCodec : Codec (List PublishedRule) :=
  .list codec

end PublishedRule

/-- The published forms of the active rules. -/
def payload (rules : List Rule) : List PublishedRule :=
  (activeRules rules).map .ofRule

end Exclusion
