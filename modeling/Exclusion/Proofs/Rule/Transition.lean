/-
# Exclusion.Proofs.Rule.Transition -- the dates about an instant, and the rules that have them

There are two ways to ask what starts or ends about now: for the dates (`transitions`) and for the rules
that have one (`transitioning`).  The list of dates is made of one piece for each position in the list of
rules, and what a rule has in its piece is exact (`Contributes`).  A rule is listed by the other query
for each position whose piece is not empty, so both agree, in order and number as well
(`transitions_exact`).

The sign of a window does not matter, and in a longer one there is more to be found, in the same order.
Nothing is asked of the rules: an end may come before the start, and ids may be repeated.
-/
import Exclusion.Rule.Transition
import Mathlib.Data.List.Flatten
import Mathlib.Data.List.Forall2

namespace Exclusion

set_option autoImplicit false

variable {r : Rule} {window v w : Span} {now day : Instant}

/-! ## Windows -/

theorem isWithin_eq_true :
    isWithin window now day = true ↔ now.distance day ≤ window.nanos.natAbs :=
  decide_eq_true_iff

/-- A window reaches as far to either side whatever its sign. -/
theorem isWithin_abs (window : Span) (now : Instant) :
    isWithin window.abs now = isWithin window now := by
  funext day
  rw [isWithin, isWithin, Span.abs, Int.natAbs_natCast]

theorem isWithin_mono (longer : v.nanos.natAbs ≤ w.nanos.natAbs)
    (near : isWithin v now day = true) : isWithin w now day = true := by
  rw [isWithin_eq_true] at near ⊢
  exact Nat.le_trans near longer

/-! ## The dates of one rule -/

/-- The start or the end of a rule, if it has one. -/
def Rule.date? (r : Rule) : Boundary → Option Instant
  | .starts => r.startsAt
  | .ends => r.endsAt

theorem mem_dates {t : Transition} :
    t ∈ r.dates ↔ t.rule = r ∧ r.date? t.boundary = some t.date := by
  obtain ⟨rule, boundary, date⟩ := t
  cases boundary <;>
    simp only [Rule.dates, Rule.date?, List.mem_append, Option.mem_toList, Option.map_eq_some_iff,
      Transition.mk.injEq, reduceCtorEq, false_and, and_false, exists_false, or_false, false_or,
      true_and] <;>
    exact ⟨fun ⟨_, dated, same, day⟩ => ⟨same.symm, day ▸ dated⟩,
      fun ⟨same, dated⟩ => ⟨_, dated, same.symm, rfl⟩⟩

namespace Rule

theorem dates_pairwise (r : Rule) :
    r.dates.Pairwise fun s t => s.boundary = .starts ∧ t.boundary = .ends := by
  cases starts : r.startsAt <;> cases ends : r.endsAt <;> simp [dates, starts, ends]

theorem any_dates (r : Rule) (near : Instant → Bool) :
    r.dates.any (near ·.date) = (r.startsAt.any near || r.endsAt.any near) := by
  cases starts : r.startsAt <;> cases ends : r.endsAt <;> simp [dates, starts, ends]

/-- The dates of a rule about an instant, none if the rule is switched off. -/
def datesAbout (window : Span) (now : Instant) (r : Rule) : List Transition :=
  if r.isActive then r.dates.filter (isWithin window now ·.date) else []

/-- The rule has a date about the instant. -/
def isTransitioning (window : Span) (now : Instant) (r : Rule) : Bool :=
  r.isActive && r.dates.any (isWithin window now ·.date)

/-- The first date about an instant is one of the rule, and there is one if the rule is transitioning. -/
theorem head?_datesAbout (r : Rule) :
    (r.datesAbout window now).head?.map (·.rule) =
      if r.isTransitioning window now then some r else none := by
  rw [datesAbout, isTransitioning]
  cases r.isActive with
  | false => rfl
  | true =>
      rw [if_pos rfl, Bool.true_and, List.head?_filter]
      cases first : r.dates.find? (isWithin window now ·.date) with
      | none =>
          have far : r.dates.any (isWithin window now ·.date) = false := by
            simpa using first
          rw [far]
          rfl
      | some t =>
          have listed : t ∈ r.dates := List.mem_of_find?_eq_some first
          have near : r.dates.any (isWithin window now ·.date) = true :=
            List.any_eq_true.2 ⟨t, listed, by simpa using List.find?_some first⟩
          rw [near, if_pos rfl, Option.map_some, (mem_dates.1 listed).1]

theorem datesAbout_sublist (longer : v.nanos.natAbs ≤ w.nanos.natAbs) (r : Rule) :
    (r.datesAbout v now).Sublist (r.datesAbout w now) := by
  rw [datesAbout, datesAbout]
  cases r.isActive with
  | false => exact List.Sublist.refl _
  | true => exact List.monotone_filter_right _ fun t near => isWithin_mono longer near

theorem isTransitioning_mono (longer : v.nanos.natAbs ≤ w.nanos.natAbs)
    (due : r.isTransitioning v now = true) : r.isTransitioning w now = true := by
  simp only [isTransitioning, Bool.and_eq_true, List.any_eq_true] at due ⊢
  obtain ⟨active, t, dated, near⟩ := due
  exact ⟨active, t, dated, isWithin_mono longer near⟩

end Rule

/-! ## Lists of rules -/

theorem transitions_eq (rules : List Rule) (window : Span) (now : Instant) :
    transitions rules window now = rules.flatMap (Rule.datesAbout window now) := by
  induction rules with
  | nil => rfl
  | cons r rules ih =>
      rw [List.flatMap_cons, ← ih, transitions, activeRules, List.filter_cons, Rule.datesAbout]
      cases r.isActive <;> rfl

theorem transitioning_eq (rules : List Rule) (window : Span) (now : Instant) :
    transitioning rules window now = rules.filter (Rule.isTransitioning window now) := by
  rw [transitioning, activeRules, List.filter_filter]
  refine List.filter_congr fun r _ => ?_
  rw [Rule.isTransitioning, Rule.any_dates, Bool.and_comm]

theorem mem_transitions {rules : List Rule} {t : Transition} :
    t ∈ transitions rules window now ↔
      t.rule ∈ rules ∧ t.rule.isActive = true ∧ t ∈ t.rule.dates ∧
        isWithin window now t.date = true := by
  simp only [transitions, activeRules, List.mem_flatMap, List.mem_filter]
  constructor
  · rintro ⟨r, ⟨listed, active⟩, dated, within⟩
    obtain ⟨rfl, -⟩ := mem_dates.1 dated
    exact ⟨listed, active, dated, within⟩
  · rintro ⟨listed, active, dated, within⟩
    exact ⟨t.rule, ⟨listed, active⟩, dated, within⟩

/-- The rules with a date about now are those of the transitions. -/
theorem mem_transitioning {rules : List Rule} :
    r ∈ transitioning rules window now ↔ ∃ t ∈ transitions rules window now, t.rule = r := by
  rw [transitioning_eq, List.mem_filter, Rule.isTransitioning, Bool.and_eq_true, List.any_eq_true]
  constructor
  · rintro ⟨listed, active, t, dated, within⟩
    obtain ⟨rfl, -⟩ := mem_dates.1 dated
    exact ⟨t, mem_transitions.2 ⟨listed, active, dated, within⟩, rfl⟩
  · rintro ⟨t, found, rfl⟩
    obtain ⟨listed, active, dated, within⟩ := mem_transitions.1 found
    exact ⟨listed, active, t, dated, within⟩

/-! ## Both queries, position by position -/

/-- What one position in a list of rules adds to the dates about an instant. -/
structure Contributes (window : Span) (now : Instant) (r : Rule) (entries : List Transition) : Prop where
  rule_eq : ∀ t ∈ entries, t.rule = r
  /-- It adds the dates of an active rule that lie within the window. -/
  mem_iff : ∀ boundary day, ⟨r, boundary, day⟩ ∈ entries ↔
    r.isActive = true ∧ r.date? boundary = some day ∧ now.distance day ≤ window.nanos.natAbs
  /-- Of two dates the first is the start and the second the end, so there are no more. -/
  start_first : entries.Pairwise fun s t => s.boundary = .starts ∧ t.boundary = .ends

theorem contributes_datesAbout (window : Span) (now : Instant) (r : Rule) :
    Contributes window now r (r.datesAbout window now) := by
  rw [Rule.datesAbout]
  cases active : r.isActive with
  | false => exact ⟨by simp, by simp [active], List.Pairwise.nil⟩
  | true =>
      refine ⟨fun t listed => ?_, fun boundary day => ?_, r.dates_pairwise.filter _⟩
      · exact (mem_dates.1 (List.mem_of_mem_filter listed)).1
      · rw [if_pos rfl, List.mem_filter, mem_dates, isWithin_eq_true]
        simp only [active, true_and]

/-- **Both queries are exact and agree.**  Each position contributes its dates about the instant; the
rules are those of the positions that contribute, once each; the sign of the window does not matter; and
a longer window only adds to what is found. -/
theorem transitions_exact (rules : List Rule) (now : Instant) :
    (∀ window : Span,
      (∃ entries : List (List Transition),
        List.Forall₂ (Contributes window now) rules entries ∧
          transitions rules window now = entries.flatten ∧
          transitioning rules window now = (entries.filterMap List.head?).map (·.rule)) ∧
      transitions rules window.abs now = transitions rules window now ∧
      transitioning rules window.abs now = transitioning rules window now) ∧
    ∀ v w : Span, v.nanos.natAbs ≤ w.nanos.natAbs →
      (transitions rules v now).Sublist (transitions rules w now) ∧
        (transitioning rules v now).Sublist (transitioning rules w now) := by
  refine ⟨fun window => ⟨⟨rules.map (Rule.datesAbout window now), ?_, ?_, ?_⟩, ?_, ?_⟩,
    fun v w longer => ⟨?_, ?_⟩⟩
  · rw [List.forall₂_map_right_iff, List.forall₂_same]
    exact fun r _ => contributes_datesAbout window now r
  · rw [transitions_eq, List.flatMap_def]
  · rw [transitioning_eq, List.filterMap_map, List.map_filterMap, ← List.filterMap_eq_filter]
    refine List.filterMap_congr fun r _ => ?_
    rw [Function.comp_apply, Rule.head?_datesAbout]
    rfl
  · simp only [transitions, isWithin_abs]
  · simp only [transitioning, isWithin_abs]
  · rw [transitions_eq, transitions_eq]
    exact List.Sublist.flatMap_right rules fun r _ => r.datesAbout_sublist longer
  · rw [transitioning_eq, transitioning_eq]
    exact List.monotone_filter_right rules fun r => Rule.isTransitioning_mono longer

/-- The rule ends ten seconds before 1970, and starts twenty seconds after it began. -/
def invertedBanner : Rule :=
  { Rule.new "r1" "Banner" "#banner" .epoch with
    startsAt := Instant.make? 20 0, endsAt := Instant.make? (-10) 0 }

/-- The rule is listed twice.  Ten seconds to either side reach only to its end, twenty to its start as
well, which is named first. -/
theorem transitions_exact_invertedBanner :
    (transitions [invertedBanner, invertedBanner] (.ofMillis (-10000)) .epoch).map (·.boundary) =
        [.ends, .ends] ∧
      (transitions [invertedBanner, invertedBanner] (.ofMillis 20000) .epoch).map (·.boundary) =
        [.starts, .ends, .starts, .ends] ∧
      (transitions [invertedBanner, invertedBanner] (.ofMillis (-10000)) .epoch).Sublist
        (transitions [invertedBanner, invertedBanner] (.ofMillis 20000) .epoch) :=
  ⟨by decide, by decide, ((transitions_exact _ _).2 _ _ (by decide)).1⟩

end Exclusion
