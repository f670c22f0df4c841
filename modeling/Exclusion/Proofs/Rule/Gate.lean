/-
# Exclusion.Proofs.Rule.Gate -- rules that are not looked at

A rule that is switched off is not looked at, nor is one for pages with ads on a page without, nor at an
instant one whose dates leave the instant out.  Of the gates that are closed the first one counts:
`Rule.closedGate?` whatever the dates, `Rule.closedGateAt?` with the dates after the switch and before the
ads.  A rule that is stopped there comes to nothing but the reason, any other to what its conditions come
to.
-/
import Exclusion.Rule.Match

namespace Exclusion.Rule

set_option autoImplicit false

/-- The gate that stops a rule on a page, whatever its dates. -/
def closedGate? (r : Rule) (page : PageContext) : Option SkipReason :=
  if !r.isActive then some .inactive
  else if r.respectsAds && !page.adsEnabled then some .adsDisabled
  else none

/-- The gate that stops a rule on a page at an instant. -/
def closedGateAt? (r : Rule) (page : PageContext) (now : Instant) : Option SkipReason :=
  if !r.isActive then some .inactive
  else if !r.isScheduledAt now then some .notScheduled
  else if r.respectsAds && !page.adsEnabled then some .adsDisabled
  else none

/-- What comes of a rule that no gate stops. -/
def judged (r : Rule) (page : PageContext) : RuleMatch where
  fired := r.connective.fires (r.results page)
  trace := traceOf (r.results page)
  conditions := r.results page

variable {r : Rule} {page : PageContext} {now : Instant}

/-! ## Whatever the dates -/

theorem matchOn_eq (r : Rule) (page : PageContext) :
    r.matchOn page =
      match r.closedGate? page with
      | some reason => { skipped := some reason }
      | none => r.judged page := by
  unfold matchOn closedGate?
  split
  · rfl
  · split <;> rfl

theorem matchOn_of_closed {reason : SkipReason} (closed : r.closedGate? page = some reason) :
    r.matchOn page = { skipped := some reason } := by
  rw [matchOn_eq, closed]

theorem matchOn_of_open (opened : r.closedGate? page = none) : r.matchOn page = r.judged page := by
  rw [matchOn_eq, opened]

theorem skipped_matchOn (r : Rule) (page : PageContext) :
    (r.matchOn page).skipped = r.closedGate? page := by
  rw [matchOn_eq]
  cases r.closedGate? page <;> rfl

/-- A rule that is stopped does not fire. -/
theorem closedGate?_of_fired (fires : (r.matchOn page).fired = true) : r.closedGate? page = none := by
  cases closed : r.closedGate? page with
  | none => rfl
  | some reason =>
      rw [matchOn_of_closed closed] at fires
      cases fires

/-- A rule for pages with ads fires on no other page. -/
theorem adsEnabled_of_fired (respects : r.respectsAds = true)
    (fires : (r.matchOn page).fired = true) : page.adsEnabled = true := by
  have opened := closedGate?_of_fired fires
  cases ads : page.adsEnabled with
  | true => rfl
  | false =>
      rw [closedGate?, respects, ads] at opened
      split at opened <;> cases opened

/-! ## At an instant -/

theorem matchAt_eq (r : Rule) (page : PageContext) (now : Instant) :
    r.matchAt page now =
      match r.closedGateAt? page now with
      | some reason => { skipped := some reason }
      | none => r.judged page := by
  unfold matchAt closedGateAt?
  cases active : r.isActive with
  | false => simp [matchOn, active]
  | true =>
      cases r.isScheduledAt now with
      | false => rfl
      | true =>
          rw [matchOn_eq, closedGate?, active]
          rfl

theorem matchAt_of_closed {reason : SkipReason} (closed : r.closedGateAt? page now = some reason) :
    r.matchAt page now = { skipped := some reason } := by
  rw [matchAt_eq, closed]

theorem matchAt_of_open (opened : r.closedGateAt? page now = none) :
    r.matchAt page now = r.judged page := by
  rw [matchAt_eq, opened]

end Exclusion.Rule
