/-
# Exclusion.Proofs.Time.Distance -- how far instants are apart

Outside leap seconds an instant is a number of nanoseconds (`Instant.nanos`): the order is that of the
numbers, and the time between two instants is their difference.  So the instants from which a date is
within a window follow each other without a gap (`isWithin_of_between`), and when instants follow each
other closely enough, some of them is within the window of each date between the first and the last
(`exists_isWithin`).

Leap seconds are left out because the time until a date does not always shrink in them.
-/
import Exclusion.Config.Basic
import Exclusion.Proofs.Time.Milli

namespace Exclusion

set_option autoImplicit false

namespace Instant

/-- The nanoseconds since the first second of 1970. -/
def nanos (t : Instant) : Int :=
  nanosPerSecond * t.second + t.nano

variable {a b : Instant}

theorem since_eq (aPlain : a.isLeap = false) (bPlain : b.isLeap = false) :
    a.since b = a.nanos - b.nanos := by
  simp only [since, aPlain, bPlain, Bool.false_eq_true, and_false, if_false, nanos, nanosPerSecond]
  omega

theorem le_iff_nanos (aPlain : a.isLeap = false) (bPlain : b.isLeap = false) :
    a ≤ b ↔ a.nanos ≤ b.nanos := by
  simp only [isLeap, decide_eq_false_iff_not, Nat.not_le] at aPlain bPlain
  rw [le_iff]
  simp only [nanos, nanosPerSecond]
  omega

theorem le_refl (t : Instant) : t ≤ t :=
  le_iff.2 (.inr ⟨rfl, Nat.le_refl _⟩)

theorem le_trans {c : Instant} (ab : a ≤ b) (bc : b ≤ c) : a ≤ c := by
  rw [le_iff] at ab bc ⊢
  omega

theorem le_of_lt (early : a < b) : a ≤ b := by
  change ¬ b ≤ a at early
  rw [le_iff] at early ⊢
  omega

instance : IsTrans Instant (· ≤ ·) :=
  ⟨fun _ _ _ => le_trans⟩

end Instant

/-! ## Windows -/

/-- The window of a configuration is not negative. -/
theorem SweepConfig.window_nonneg {config : SweepConfig} {window : Span}
    (representable : config.window? = some window) : 0 ≤ window.nanos := by
  simp only [window?, Span.ofSeconds?] at representable
  split at representable
  · cases representable
    simp only [Span.ofMillis]
    omega
  · cases representable

variable {window : Span} {now date : Instant}

theorem isWithin_iff (nowPlain : now.isLeap = false) (datePlain : date.isLeap = false)
    (nonneg : 0 ≤ window.nanos) :
    isWithin window now date = true ↔
      now.nanos - date.nanos ≤ window.nanos ∧ date.nanos - now.nanos ≤ window.nanos := by
  rw [isWithin, decide_eq_true_eq, Instant.distance, Instant.since_eq nowPlain datePlain]
  omega

/-- What is within the window of two instants is within the window of every instant between them. -/
theorem isWithin_of_between {before after : Instant} (beforePlain : before.isLeap = false)
    (nowPlain : now.isLeap = false) (afterPlain : after.isLeap = false)
    (datePlain : date.isLeap = false) (nonneg : 0 ≤ window.nanos) (early : before ≤ now)
    (late : now ≤ after) (withinBefore : isWithin window before date = true)
    (withinAfter : isWithin window after date = true) : isWithin window now date = true := by
  rw [Instant.le_iff_nanos beforePlain nowPlain] at early
  rw [Instant.le_iff_nanos nowPlain afterPlain] at late
  rw [isWithin_iff beforePlain datePlain nonneg] at withinBefore
  rw [isWithin_iff afterPlain datePlain nonneg] at withinAfter
  rw [isWithin_iff nowPlain datePlain nonneg]
  omega

/-- A date that is a second away is further away half a leap second later, and then near again. -/
example :
    let date : Instant := ⟨10, 900000000, by decide, by decide, by decide⟩
    let before : Instant := ⟨9, 900000000, by decide, by decide, by decide⟩
    let inLeap : Instant := ⟨9, 1500000000, by decide, by decide, by decide⟩
    let after : Instant := ⟨10, 0, by decide, by decide, by decide⟩
    before ≤ inLeap ∧ inLeap ≤ after ∧ isWithin (.ofMillis 1000) before date = true ∧
      isWithin (.ofMillis 1000) inLeap date = false ∧
      isWithin (.ofMillis 1000) after date = true := by
  decide

/-! ## Instants one after the other -/

/-- The instant comes no later than the next one, which is at most so many nanoseconds away. -/
def Instant.FollowedWithin (gap : Int) (t next : Instant) : Prop :=
  t ≤ next ∧ next.since t ≤ gap

instance (gap : Int) (t next : Instant) : Decidable (t.FollowedWithin gap next) :=
  inferInstanceAs (Decidable (_ ∧ _))

theorem Instant.FollowedWithin.mono {gap wider : Int} {t next : Instant}
    (follows : t.FollowedWithin gap next) (le : gap ≤ wider) : t.FollowedWithin wider next :=
  ⟨follows.1, follows.2.trans le⟩

/-- **No date is missed.**  When each instant is at most twice the window after the one before, a date
that is not too early for the first one and not too late for the last is within the window of some. -/
theorem exists_isWithin {first last : Instant} {later : List Instant}
    (plain : ∀ t ∈ first :: later, t.isLeap = false) (datePlain : date.isLeap = false)
    (nonneg : 0 ≤ window.nanos)
    (close : (first :: later).IsChain (Instant.FollowedWithin (2 * window.nanos)))
    (isLast : (first :: later).getLast? = some last) (begins : first.since date ≤ window.nanos)
    (ends : date.since last ≤ window.nanos) :
    ∃ t ∈ first :: later, isWithin window t date = true := by
  induction later generalizing first with
  | nil =>
      have firstPlain := plain first (List.mem_cons_self ..)
      obtain rfl : first = last := Option.some.inj isLast
      rw [Instant.since_eq firstPlain datePlain] at begins
      rw [Instant.since_eq datePlain firstPlain] at ends
      exact ⟨first, List.mem_cons_self .., (isWithin_iff firstPlain datePlain nonneg).2 ⟨begins, ends⟩⟩
  | cons next later ih =>
      obtain ⟨firstPlain, laterPlain⟩ := List.forall_mem_cons.1 plain
      obtain ⟨⟨-, gap⟩, closeLater⟩ := List.isChain_cons_cons.1 close
      have nextPlain := laterPlain next (List.mem_cons_self ..)
      rw [Instant.since_eq firstPlain datePlain] at begins
      rw [Instant.since_eq nextPlain firstPlain] at gap
      -- either the first instant sees the date already, or the next one is not too late for it
      by_cases near : date.nanos - first.nanos ≤ window.nanos
      · refine ⟨first, List.mem_cons_self .., ?_⟩
        exact (isWithin_iff firstPlain datePlain nonneg).2 ⟨begins, near⟩
      · have inTime : next.since date ≤ window.nanos := by
          rw [Instant.since_eq nextPlain datePlain]
          omega
        rw [List.getLast?_cons_cons] at isLast
        obtain ⟨t, listed, within⟩ := ih laterPlain closeLater isLast inTime
        exact ⟨t, List.mem_cons_of_mem first listed, within⟩

/-- When each instant is at most the window after the one before, and the date lies after the first
one but not after all, some instant before the date is within its window. -/
theorem exists_isWithin_before {first reached : Instant} {later : List Instant}
    (plain : ∀ t ∈ first :: later, t.isLeap = false) (datePlain : date.isLeap = false)
    (nonneg : 0 ≤ window.nanos)
    (close : (first :: later).IsChain (Instant.FollowedWithin window.nanos))
    (begins : first < date) (listed : reached ∈ first :: later) (reaches : date ≤ reached) :
    ∃ t ∈ first :: later, t < date ∧ isWithin window t date = true := by
  induction later generalizing first with
  | nil =>
      obtain rfl := List.mem_singleton.1 listed
      exact absurd reaches begins
  | cons next later ih =>
      obtain ⟨firstPlain, laterPlain⟩ := List.forall_mem_cons.1 plain
      obtain ⟨⟨-, gap⟩, closeLater⟩ := List.isChain_cons_cons.1 close
      have nextPlain := laterPlain next (List.mem_cons_self ..)
      rcases List.mem_cons.1 listed with rfl | listed
      · exact absurd reaches begins
      by_cases before : next < date
      · obtain ⟨t, found, near⟩ := ih laterPlain closeLater before listed
        exact ⟨t, List.mem_cons_of_mem first found, near⟩
      · -- the date lies between the first instant and the next
        have passed : date ≤ next := by
          by_contra ahead
          exact before ahead
        rw [Instant.le_iff_nanos datePlain nextPlain] at passed
        have ahead : ¬ date.nanos ≤ first.nanos := fun le =>
          begins ((Instant.le_iff_nanos datePlain firstPlain).2 le)
        rw [Instant.since_eq nextPlain firstPlain] at gap
        refine ⟨first, List.mem_cons_self .., begins, ?_⟩
        rw [isWithin_iff firstPlain datePlain nonneg]
        omega

end Exclusion
