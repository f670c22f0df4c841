/-
# Exclusion.Rule.Basic -- rules that hide or show a part of a page

A rule names a part of a page by a selector and says when it is hidden or shown: when its conditions
hold, all of them or any one, within its dates.  `Rule.sameContent` compares what a rule does, not
whether it is switched on or when it was made.
-/
import Exclusion.Rule.Condition
import Exclusion.Time.Wire

namespace Exclusion

set_option autoImplicit false

open Exclusion.Json

inductive Connective where
  | and
  | or
  deriving DecidableEq, Repr

namespace Connective

def name : Connective → String
  | and => "AND"
  | or => "OR"

def codec : Codec Connective :=
  .names name [and, or] none

end Connective

/-- What a rule does to its part of the page. -/
inductive Effect where
  | hide
  | reveal
  deriving DecidableEq, Repr

namespace Effect

def name : Effect → String
  | hide => "hide"
  | reveal => "show"

def codec : Codec Effect :=
  .names name [hide, reveal] none

end Effect

structure Rule where
  id : String
  name : String
  conditions : List Condition
  connective : Connective
  selector : String
  effect : Effect
  isActive : Bool
  /-- The rule applies only to pages that show ads. -/
  respectsAds : Bool
  createdAt : Instant
  startsAt : Option Instant
  endsAt : Option Instant
  deriving DecidableEq

namespace Rule

/-- A new rule: active, for pages that show ads, without conditions and dates. -/
def new (id name selector : String) (createdAt : Instant) : Rule where
  id := id
  name := name
  conditions := []
  connective := .and
  selector := selector
  effect := .hide
  isActive := true
  respectsAds := true
  createdAt := createdAt
  startsAt := none
  endsAt := none

def addCondition (r : Rule) (c : Condition) : Rule :=
  { r with conditions := r.conditions ++ [c] }

/-- The dates of the rule include this instant; both are inclusive. -/
def isScheduledAt (r : Rule) (now : Instant) : Bool :=
  r.startsAt.all (· ≤ now) && r.endsAt.all (now ≤ ·)

/-- The rules agree in all that they do, though one may be switched off or older. -/
def sameContent (a b : Rule) : Bool :=
  a.id == b.id && a.name == b.name && a.conditions == b.conditions &&
    a.connective == b.connective && a.selector == b.selector && a.effect == b.effect &&
    a.respectsAds == b.respectsAds && a.startsAt == b.startsAt && a.endsAt == b.endsAt

/-- The rules agree in all but perhaps `isActive` and `createdAt`. -/
theorem sameContent_iff {a b : Rule} :
    a.sameContent b = true ↔ { b with isActive := a.isActive, createdAt := a.createdAt } = a := by
  obtain ⟨⟩ := a
  obtain ⟨⟩ := b
  simp only [sameContent, Bool.and_eq_true, beq_iff_eq, mk.injEq]
  grind

def fields : Fields Rule
    [String, String, List Condition, Connective, String, Effect, Bool, Bool, Instant,
      Option Instant, Option Instant] :=
  .cons (.required "id" id .string) <|
  .cons (.required "name" name .string) <|
  .cons (.required "conditions" conditions (.list Condition.codec)) <|
  .cons (.default "logicalOperator" connective Connective.codec .and) <|
  .cons (.required "targetElementSelector" selector .string) <|
  .cons (.default "action" effect Effect.codec .hide) <|
  .cons (.default "isActive" isActive .bool false) <|
  .cons (.default "respectAdsEnabled" respectsAds .bool false) <|
  .cons (.default "createdAt" createdAt Instant.millisCodec .epoch) <|
  .cons (.optional "startDate" startsAt Instant.millisCodec) <|
  .cons (.optional "endDate" endsAt Instant.millisCodec) .nil

def codec : Codec Rule :=
  .record "struct Rule" fields
    fun (id, name, conditions, connective, selector, effect, isActive, respectsAds, createdAt,
        startsAt, endsAt, ()) =>
      { id, name, conditions, connective, selector, effect, isActive, respectsAds, createdAt,
        startsAt, endsAt }

def listCodec : Codec (List Rule) :=
  .list codec

end Rule

end Exclusion
