/-
# Exclusion.Proofs.Scheduler.Change -- what changes on a page is due

A page changes between two instants because a rule fires at one of them only, and a rule does so
because one of its dates lies between them (`exists_date_of_fires_once`).  If the window is at least
as long as the time between the two, that date is within the window of both, so a sweep at either of
them finds it and asks for a purge (`changes_are_due`).

The date lies between the two whatever they are, but it is sure to be within their windows only outside
leap seconds: half a second into a leap second a date a minute away may be further off than an instant
after it (`misses_change_after_leap_second`).
-/
import Exclusion.Proofs.Rule.Firing
import Exclusion.Proofs.Scheduler.Watch

namespace Exclusion

set_option autoImplicit false

/-! ## Between two instants -/

namespace Instant

/-- The instant is one of two, or lies between them, whichever comes first. -/
def IsBetween (t a b : Instant) : Prop :=
  (a ≤ t ∧ t ≤ b) ∨ (b ≤ t ∧ t ≤ a)

instance (t a b : Instant) : Decidable (t.IsBetween a b) :=
  inferInstanceAs (Decidable (_ ∨ _))

variable {t a b : Instant}

theorem IsBetween.symm (between : t.IsBetween a b) : t.IsBetween b a :=
  Or.symm between

theorem le_of_not_le (later : ¬ a ≤ b) : b ≤ a :=
  le_of_lt later

/-- What lies between two instants is as near to them as they are to each other. -/
theorem isWithin_of_isBetween {window : Span} (aPlain : a.isLeap = false) (bPlain : b.isLeap = false)
    (tPlain : t.isLeap = false) (near : a.distance b ≤ window.nanos) (between : t.IsBetween a b) :
    isWithin window a t = true ∧ isWithin window b t = true := by
  have nonneg : 0 ≤ window.nanos := by omega
  rw [distance, since_eq aPlain bPlain] at near
  rw [isWithin_iff aPlain tPlain nonneg, isWithin_iff bPlain tPlain nonneg]
  rcases between with ⟨before, after⟩ | ⟨before, after⟩
  · rw [le_iff_nanos aPlain tPlain] at before
    rw [le_iff_nanos tPlain bPlain] at after
    omega
  · rw [le_iff_nanos bPlain tPlain] at before
    rw [le_iff_nanos tPlain aPlain] at after
    omega

end Instant

/-! ## Rules that fire -/

/-- The rules that fire on a page at an instant. -/
def firing (rules : List Rule) (page : PageContext) (now : Instant) : List Rule :=
  (evaluateAt rules page now).map (·.rule)

variable {rules : List Rule} {r : Rule} {page : PageContext} {window : Span} {a b now : Instant}

theorem mem_firing :
    r ∈ firing rules page now ↔
      r ∈ rules ∧ r.isScheduledAt now = true ∧ (r.matchOn page).fired = true := by
  have fired : ∀ s f, FiredRule.ofMatch? s (s.matchAt page now) = some f →
      f.rule = s ∧ s.isScheduledAt now = true ∧ (s.matchOn page).fired = true := by
    intro s f matched
    rw [ofMatch?_matchAt, FiredRule.ofMatch?] at matched
    split_ifs at matched with scheduled fires
    cases matched
    exact ⟨rfl, scheduled, fires⟩
  simp only [firing, evaluateAt, List.mem_map, List.mem_filterMap]
  constructor
  · rintro ⟨f, ⟨s, listed, matched⟩, rfl⟩
    obtain ⟨same, fires⟩ := fired s f matched
    rw [same]
    exact ⟨listed, fires⟩
  · rintro ⟨listed, scheduled, fires⟩
    refine ⟨⟨r, (r.matchOn page).trace⟩, ⟨r, listed, ?_⟩, rfl⟩
    rw [ofMatch?_matchAt, if_pos scheduled, FiredRule.ofMatch?, if_pos fires]

theorem isActive_of_mem_firing (fires : r ∈ firing rules page now) : r.isActive = true := by
  obtain ⟨-, -, fired⟩ := mem_firing.1 fires
  by_contra idle
  rw [Bool.not_eq_true] at idle
  simp [Rule.matchOn, idle] at fired

/-- If the rules that fire at two instants are not told the same way, one of them fires at one of the
two only. -/
theorem exists_fires_once (differ : evaluateAt rules page a ≠ evaluateAt rules page b) :
    ∃ r, Xor (r ∈ firing rules page a) (r ∈ firing rules page b) := by
  by_contra same
  refine differ (List.filterMap_congr ?_)
  intro r listed
  simp only [ofMatch?_matchAt]
  have both : r ∈ firing rules page a ↔ r ∈ firing rules page b := by
    rw [← not_xor]
    exact fun once => same ⟨r, once⟩
  simp only [mem_firing, listed, true_and] at both
  cases fires : (r.matchOn page).fired with
  | false => simp [FiredRule.ofMatch?, fires]
  | true =>
      simp only [fires, and_true] at both
      rw [Bool.eq_iff_iff.2 both]

/-! ## Dates -/

theorem exists_date_of_scheduled_once (scheduled : r.isScheduledAt a = true)
    (unscheduled : r.isScheduledAt b = false) : ∃ t ∈ r.dates, t.date.IsBetween a b := by
  simp only [Rule.isScheduledAt, Bool.and_eq_true, Bool.and_eq_false_iff] at scheduled unscheduled
  obtain ⟨started, unended⟩ := scheduled
  rcases unscheduled with early | late
  · cases starts : r.startsAt with
    | none => simp [starts] at early
    | some day =>
        simp only [starts, Option.all_some, decide_eq_true_eq, decide_eq_false_iff_not]
          at started early
        refine ⟨⟨r, .starts, day⟩, mem_dates.2 ⟨rfl, starts⟩, ?_⟩
        exact .inr ⟨Instant.le_of_not_le early, started⟩
  · cases ends : r.endsAt with
    | none => simp [ends] at late
    | some day =>
        simp only [ends, Option.all_some, decide_eq_true_eq, decide_eq_false_iff_not]
          at unended late
        refine ⟨⟨r, .ends, day⟩, mem_dates.2 ⟨rfl, ends⟩, ?_⟩
        exact .inl ⟨unended, Instant.le_of_not_le late⟩

theorem exists_date_of_fires_not (fires : r ∈ firing rules page a)
    (silent : r ∉ firing rules page b) : ∃ t ∈ r.dates, t.date.IsBetween a b := by
  obtain ⟨listed, scheduled, fired⟩ := mem_firing.1 fires
  have unscheduled : r.isScheduledAt b = false := by
    by_contra still
    exact silent (mem_firing.2 ⟨listed, by simpa using still, fired⟩)
  exact exists_date_of_scheduled_once scheduled unscheduled

/-- A rule that fires at one of two instants only has a date between them. -/
theorem exists_date_of_fires_once (once : Xor (r ∈ firing rules page a) (r ∈ firing rules page b)) :
    r ∈ rules ∧ r.isActive = true ∧ ∃ t ∈ r.dates, t.date.IsBetween a b := by
  rcases once with ⟨fires, silent⟩ | ⟨fires, silent⟩
  · exact ⟨(mem_firing.1 fires).1, isActive_of_mem_firing fires, exists_date_of_fires_not fires silent⟩
  · obtain ⟨t, dated, between⟩ := exists_date_of_fires_not fires silent
    exact ⟨(mem_firing.1 fires).1, isActive_of_mem_firing fires, t, dated, between.symm⟩

/-! ## Sweeps -/

/-- The dates of stored rules are not in leap seconds. -/
theorem isLeap_of_loadStored {ws : Workspace} {world : World} {book : RuleBook} {t : Transition}
    (loaded : (ws.loadStored.run world).1 = .ok (some book)) (listed : r ∈ book.rules)
    (dated : t ∈ r.dates) : t.date.isLeap = false := by
  have read := Workspace.storedIn_of_loadStored loaded
  rw [Workspace.storedIn] at read
  have inStore : ws.bookIn world.store = .ok book := by
    rw [Workspace.bookIn, read]
    rfl
  obtain ⟨-, starts, ends⟩ := Rule.isWholeMilli_iff.1 (ws.isWholeMilli_of_bookIn inStore r listed)
  obtain ⟨rule, boundary, day⟩ := t
  obtain ⟨-, date⟩ := mem_dates.1 dated
  cases boundary with
  | starts => exact Instant.isLeap_of_isWholeMilli (starts day date)
  | ends => exact Instant.isLeap_of_isWholeMilli (ends day date)

/-- A sweep that finds a transition asks for a purge. -/
theorem sweep_of_mem_transitions {ws : Workspace} {world : World} {book : RuleBook} {t : Transition}
    (loaded : (ws.loadStored.run world).1 = .ok (some book))
    (representable : ws.config.sweep.window? = some window)
    (due : t ∈ transitions book.rules window now) :
    ((ws.sweep now).run world).1 =
      .ok (.purgeTriggered (book.found window now) (ws.purgeStatus world)) := by
  have kept : (book.found window now).filter (fun _ => true) = book.found window now :=
    List.filter_true _
  have some : (book.found window now).filter (fun _ => true) ≠ [] := by
    rw [kept]
    exact List.ne_nil_of_mem (List.mem_map_of_mem due)
  rw [Workspace.sweep, Workspace.run_sweepOnly_of_due loaded representable some, kept]

/-- **What changes on a page between two instants is due at both.** -/
theorem changes_are_due (near : a.distance b ≤ window.nanos) :
    (∀ r, Xor (r ∈ firing rules page a) (r ∈ firing rules page b) →
      ∃ t ∈ r.dates, t.date.IsBetween a b ∧
        (a.isLeap = false → b.isLeap = false → t.date.isLeap = false →
          ∀ now ∈ [a, b], t ∈ transitions rules window now ∧ r ∈ transitioning rules window now)) ∧
      ∀ (ws : Workspace) (world : World) (script : String),
        (ws.loadStored.run world).1 = .ok (some ⟨rules, script⟩) →
        ws.config.sweep.window? = some window → a.isLeap = false → b.isLeap = false →
        evaluateAt rules page a ≠ evaluateAt rules page b →
        ∀ now ∈ [a, b], ∃ found purge,
          ((ws.sweep now).run world).1 = .ok (.purgeTriggered found purge) := by
  -- A date between the two that is not in a leap second is found at both.
  have due : ∀ {r t}, r ∈ rules → r.isActive = true → t ∈ r.dates → t.date.IsBetween a b →
      a.isLeap = false → b.isLeap = false → t.date.isLeap = false →
      ∀ now ∈ [a, b], t ∈ transitions rules window now := by
    intro r t listed active dated between aPlain bPlain tPlain now two
    obtain ⟨rfl, -⟩ := mem_dates.1 dated
    obtain ⟨withinA, withinB⟩ := Instant.isWithin_of_isBetween aPlain bPlain tPlain near between
    rw [mem_transitions]
    refine ⟨listed, active, dated, ?_⟩
    rcases List.mem_pair.1 two with rfl | rfl
    · exact withinA
    · exact withinB
  refine ⟨?_, ?_⟩
  · intro r once
    obtain ⟨listed, active, t, dated, between⟩ := exists_date_of_fires_once once
    refine ⟨t, dated, between, ?_⟩
    intro aPlain bPlain tPlain now two
    have found := due listed active dated between aPlain bPlain tPlain now two
    exact ⟨found, mem_transitioning.2 ⟨t, found, (mem_dates.1 dated).1⟩⟩
  · intro ws world script loaded representable aPlain bPlain differ now two
    obtain ⟨r, once⟩ := exists_fires_once differ
    obtain ⟨listed, active, t, dated, between⟩ := exists_date_of_fires_once once
    have tPlain := isLeap_of_loadStored loaded listed dated
    have found := due listed active dated between aPlain bPlain tPlain now two
    exact ⟨_, _, sweep_of_mem_transitions loaded representable found⟩

/-- A page about sport that shows ads. -/
def sportPage : PageContext :=
  { keywords := ["sport"], adsEnabled := true }

/-- The banner is hidden from the eightieth second on, so a minute before and a minute after a purge
is due. -/
theorem changes_are_due_bannerStart :
    (∃ t ∈ hideBannerLater.dates,
      t.date.IsBetween (.ofSecond 60 (by decide)) (.ofSecond 120 (by decide)) ∧
        hideBannerLater ∈ transitioning [hideBannerLater] (.ofMillis 90000)
          (.ofSecond 60 (by decide))) ∧
      ∃ found purge,
        ((Workspace.cached.sweep (.ofSecond 60 (by decide))).run (bannerTurn .epoch).world).1 =
          .ok (.purgeTriggered found purge) := by
  have near : Instant.distance (.ofSecond 60 (by decide)) (.ofSecond 120 (by decide)) ≤
      (Span.ofMillis 90000).nanos := by decide
  have due := @changes_are_due [hideBannerLater] sportPage (.ofMillis 90000)
    (.ofSecond 60 (by decide)) (.ofSecond 120 (by decide)) near
  refine ⟨?_, ?_⟩
  · have once : Xor (hideBannerLater ∈ firing [hideBannerLater] sportPage (.ofSecond 60 (by decide)))
        (hideBannerLater ∈ firing [hideBannerLater] sportPage (.ofSecond 120 (by decide))) := by
      decide +kernel
    obtain ⟨t, dated, between, found⟩ := due.1 hideBannerLater once
    have tPlain : t.date.isLeap = false := by
      revert t
      decide
    refine ⟨t, dated, between, ?_⟩
    exact (found (by decide) (by decide) tPlain _ List.mem_cons_self).2
  · exact due.2 .cached (bannerTurn .epoch).world "" (loadStored_bannerTurn .epoch _) rfl (by decide)
      (by decide) (by decide +kernel) _ List.mem_cons_self

/-! ## In a leap second -/

/-- The rule starts a tenth of a second before the year 2017. -/
def hideBannerLast : Rule :=
  { Workspace.hideBanner with
    startsAt := some ⟨1483228799, 900000000, by decide, by decide, by decide⟩ }

/-- Half a leap second that is added a minute before that year. -/
def halfLeapSecond : Instant :=
  ⟨1483228739, 1500000000, by decide, by decide, by decide⟩

def newYear : Instant :=
  .ofSecond 1483228800 (by decide)

/-- The year begins less than a minute after the half leap second, and the rule fires from just before
on; but its date is more than a minute away, and is not found. -/
theorem misses_change_after_leap_second :
    ¬ ∀ (rules : List Rule) (page : PageContext) (window : Span) (a b : Instant),
      0 ≤ window.nanos → a.distance b ≤ window.nanos →
      ∀ r, Xor (r ∈ firing rules page a) (r ∈ firing rules page b) →
        (r ∈ transitioning rules window a ∧ r ∈ transitioning rules window b) ∧
          ∃ t ∈ transitions rules window a, t.rule = r ∧ t.date.IsBetween a b := by
  intro always
  have once : Xor (hideBannerLast ∈ firing [hideBannerLast] sportPage halfLeapSecond)
      (hideBannerLast ∈ firing [hideBannerLast] sportPage newYear) := by
    decide +kernel
  have found := always [hideBannerLast] sportPage (.ofMillis 60000) halfLeapSecond newYear
    (by decide) (by decide) hideBannerLast once
  have missed : hideBannerLast ∉ transitioning [hideBannerLast] (.ofMillis 60000) halfLeapSecond := by
    decide
  exact missed found.1.1

end Exclusion
