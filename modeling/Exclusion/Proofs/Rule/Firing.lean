/-
# Exclusion.Proofs.Rule.Firing -- published rules fire as the rules that they were made from

A published rule says all that decides whether a rule fires and with what effect.  Read as an active
rule (`PublishedRule.toRule?`), it fires when the rule fires that it was made from, with the same
trace; which id and which date of creation it is given does not matter.  Rules that are not published
do not fire.  So a list of rules and its payload give the same outcomes on every page and at every
instant: `outcomesAt_payload`.

The dates have to be whole milliseconds: a published rule has no finer ones.
-/
import Exclusion.Proofs.Rule.Wire
import Exclusion.Rule.Evaluate

namespace Exclusion

set_option autoImplicit false

namespace PublishedRule

/-- The date that is given in milliseconds, if one is given: none if there is no such date. -/
def date? : Option Int → Option (Option Instant)
  | none => some none
  | some ms => (Instant.ofMillis? ms).map some

/-- A published rule read as an active rule, with an id and a date of creation from elsewhere. -/
def toRule? (p : PublishedRule) (id : String) (createdAt : Instant) : Option Rule := do
  let startsAt ← date? p.starts
  let endsAt ← date? p.ends
  return {
    id, createdAt, startsAt, endsAt
    name := p.name
    conditions := p.conditions
    connective := p.connective
    selector := p.selector
    effect := p.effect
    isActive := true
    respectsAds := p.respectsAds }

/-- The rule is the published rule, read with the rule's own id and date of creation. -/
def Describes (p : PublishedRule) (r : Rule) : Prop :=
  p.toRule? r.id r.createdAt = some r

theorem date?_millis {date : Option Instant} (whole : ∀ t ∈ date, t.IsWholeMilli) :
    date? (date.map Instant.millis) = some date := by
  cases date with
  | none => rfl
  | some t =>
      rw [Option.map_some, date?, Instant.ofMillis?_millis (whole t rfl)]
      rfl

/-- The published form of a rule is read as that rule, but for its id and date of creation. -/
theorem toRule?_ofRule {r : Rule} (whole : r.IsWholeMilli) (id : String) (createdAt : Instant) :
    (ofRule r).toRule? id createdAt = some { r with id, createdAt, isActive := true } := by
  obtain ⟨-, starts, ends⟩ := Rule.isWholeMilli_iff.1 whole
  simp only [toRule?, ofRule, date?_millis starts, date?_millis ends]
  rfl

end PublishedRule

namespace FiredRule

/-- What a page and a reader see of a rule that fired. -/
def outcome (fired : FiredRule) : String × String × Effect × List String :=
  (fired.rule.name, fired.rule.selector, fired.rule.effect, fired.trace)

end FiredRule

/-- What is seen of the rules that fire on a page at an instant. -/
def outcomesAt (rules : List Rule) (page : PageContext) (now : Instant) :
    List (String × String × Effect × List String) :=
  (evaluateAt rules page now).map FiredRule.outcome

theorem outcomesAt_cons (r : Rule) (rules : List Rule) (page : PageContext) (now : Instant) :
    outcomesAt (r :: rules) page now =
      ((FiredRule.ofMatch? r (r.matchAt page now)).map FiredRule.outcome).toList ++
        outcomesAt rules page now := by
  simp only [outcomesAt, evaluateAt, List.filterMap_cons]
  cases FiredRule.ofMatch? r (r.matchAt page now) <;> rfl

/-- A rule that is switched off does not fire. -/
theorem ofMatch?_of_inactive {r : Rule} (idle : r.isActive = false) (page : PageContext)
    (now : Instant) : FiredRule.ofMatch? r (r.matchAt page now) = none := by
  simp [Rule.matchAt, Rule.matchOn, idle, FiredRule.ofMatch?]

/-- The dates decide whether a rule fires at an instant, and nothing else of the instant does. -/
theorem ofMatch?_matchAt (r : Rule) (page : PageContext) (now : Instant) :
    FiredRule.ofMatch? r (r.matchAt page now) =
      if r.isScheduledAt now then FiredRule.ofMatch? r (r.matchOn page) else none := by
  cases active : r.isActive with
  | false =>
      have idle : FiredRule.ofMatch? r (r.matchOn page) = none := by
        simp [Rule.matchOn, active, FiredRule.ofMatch?]
      rw [ofMatch?_of_inactive active, idle, ite_self]
  | true =>
      rw [Rule.matchAt, active]
      cases r.isScheduledAt now with
      | false => rfl
      | true => rfl

/-- Id and date of creation do not decide what comes of a rule. -/
theorem matchAt_renamed {r : Rule} (active : r.isActive = true) (id : String) (createdAt : Instant)
    (page : PageContext) (now : Instant) :
    ({ r with id, createdAt, isActive := true } : Rule).matchAt page now = r.matchAt page now := by
  rw [← active]
  rfl

theorem payload_cons (r : Rule) (rules : List Rule) :
    payload (r :: rules) =
      if r.isActive then PublishedRule.ofRule r :: payload rules else payload rules := by
  rw [payload, activeRules, List.filter_cons]
  split <;> rfl

theorem payload_ne_nil {rules : List Rule} : payload rules ≠ [] ↔ ∃ r ∈ rules, r.isActive = true := by
  simp [payload, activeRules, List.filter_eq_nil_iff]

/-- **A list of rules and its payload give the same outcomes.** -/
theorem outcomesAt_payload {rules described : List Rule} (whole : ∀ r ∈ rules, r.IsWholeMilli)
    (describes : List.Forall₂ PublishedRule.Describes (payload rules) described)
    (page : PageContext) (now : Instant) :
    outcomesAt described page now = outcomesAt rules page now := by
  induction rules generalizing described with
  | nil =>
      cases describes
      rfl
  | cons r rules ih =>
      obtain ⟨first, others⟩ := List.forall_mem_cons.1 whole
      rw [payload_cons] at describes
      rw [outcomesAt_cons r]
      cases active : r.isActive with
      | false =>
          rw [active] at describes
          rw [ofMatch?_of_inactive active, ih others describes]
          rfl
      | true =>
          rw [active] at describes
          cases describes with
          | @cons _ d _ rest describes tail =>
              have same : d = { r with id := d.id, createdAt := d.createdAt, isActive := true } :=
                (Option.some.inj
                  ((PublishedRule.toRule?_ofRule first d.id d.createdAt).symm.trans describes)).symm
              have matched : d.matchAt page now = r.matchAt page now := by
                rw [same]
                exact matchAt_renamed active d.id d.createdAt page now
              have seen : (FiredRule.ofMatch? d (d.matchAt page now)).map FiredRule.outcome =
                  (FiredRule.ofMatch? r (r.matchAt page now)).map FiredRule.outcome := by
                rw [matched, same]
                unfold FiredRule.ofMatch?
                split <;> rfl
              rw [outcomesAt_cons, seen, ih others tail]

end Exclusion
