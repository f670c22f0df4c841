/-
# Exclusion.Proofs.Scheduler.Window -- when looking for dates breaks off

Any number of seconds may be set for the window, but a span of time has `Span.maxSeconds` at most.  An
action that needs a longer window does not end, with a result or an error; it breaks off.  No setting
but the window matters for this: a tick breaks off if and only if the window is too long, and a sweep if
moreover there is a rule book for it to read (`breaks_off_iff`).

A configuration with such a window has no flaw (`farSighted_breaks_off`), so that a workspace can be
set up which breaks off at every tick.
-/
import Exclusion.Proofs.Scheduler.Tick

namespace Exclusion

set_option autoImplicit false

open Exclusion.Json

/-- **There is no window if it is set to more seconds than a span of time can have.** -/
theorem SweepConfig.window?_eq_none_iff {config : SweepConfig} :
    config.window? = none ↔ Span.maxSeconds < config.windowSeconds := by
  rw [window?, Span.ofSeconds?, ← Nat.not_le]
  split <;> simp_all

namespace Workspace

variable {ws : Workspace} {keep : TransitionRecord → Bool} {now : Instant} {world : World}

/-! ## Loading -/

theorem readIn_ne_endlessWindow {α : Type} (codec : Codec α) (key : StoreKey) (store : Store) :
    readIn codec key store ≠ .error .endlessWindow := by
  intro endless
  rw [readIn] at endless
  cases found : store.get? key with
  | none =>
      rw [found] at endless
      cases endless
  | some text =>
      rw [found] at endless
      dsimp only at endless
      cases decoded : codec.readText text <;> rw [decoded] at endless <;> cases endless

/-- Loading does not need the window. -/
theorem loadStored_ne_endlessWindow (ws : Workspace) (world : World) :
    (ws.loadStored.run world).1 ≠ .error .endlessWindow := by
  intro endless
  rcases (ws.takes_loadStored world.store).ends_or_unreachable with read | broken
  · exact readIn_ne_endlessWindow _ _ _ (read.symm.trans endless)
  · cases broken.symm.trans endless

/-! ## Sweeping -/

theorem transitions_breaks_off_iff :
    ((ws.transitions now).run world).1 = .error .endlessWindow ↔
      Span.maxSeconds < ws.config.sweep.windowSeconds ∧
        ∃ book, (ws.loadStored.run world).1 = .ok (some book) := by
  rw [← SweepConfig.window?_eq_none_iff]
  cases loaded : (ws.loadStored.run world).1 with
  | error failure =>
      have other : failure ≠ .endlessWindow :=
        fun endless => ws.loadStored_ne_endlessWindow world (endless ▸ loaded)
      rw [run_transitions_of_error loaded]
      simp [other]
  | ok stored =>
      cases stored with
      | none =>
          rw [run_transitions_of_none loaded]
          simp
      | some book =>
          cases representable : ws.config.sweep.window? with
          | none =>
              rw [transitions, Action.run_bind_ok loaded]
              simp [representable, Action.run, Action.fail]
          | some window =>
              rw [run_transitions_of_book loaded representable]
              simp

/-- A sweep fails as finding the dates does; the purge never fails it. -/
theorem run_sweepOnly_eq_error_iff {failure : Failure} :
    ((ws.sweepOnly keep now).run world).1 = .error failure ↔
      ((ws.transitions now).run world).1 = .error failure := by
  cases found : ((ws.transitions now).run world).1 with
  | error cause =>
      rw [sweepOnly, Action.run_bind_error found, Except.error.injEq, Except.error.injEq]
  | ok stored =>
      rw [sweepOnly, Action.run_bind_ok found]
      refine iff_of_false (fun failed => ?_) (by simp)
      cases stored with
      | none => cases failed
      | some counted =>
          cases kept : counted.2.filter keep with
          | nil =>
              simp only [kept] at failed
              cases failed
          | cons first rest =>
              simp only [kept] at failed
              rw [Action.run_map, run_purge] at failed
              cases failed

end Workspace

namespace Scheduler

/-! ## Ticking -/

theorem tick_breaks_off_iff (s : Scheduler) (now : Instant) (world : World) :
    (s.tick now world).1 = .error .endlessWindow ↔
      Span.maxSeconds < s.workspace.config.sweep.windowSeconds := by
  rw [← SweepConfig.window?_eq_none_iff]
  cases s.course now world with
  | endless endless ticked => simp [ticked, endless]
  | unread window failure representable unread ticked =>
      have other : failure ≠ .endlessWindow :=
        fun endless => s.workspace.loadStored_ne_endlessWindow world (endless ▸ unread)
      simp [ticked, representable, other]
  | nothing window representable nothing ticked => simp [ticked, representable]
  | idle window book representable loaded idle ticked => simp [ticked, representable]
  | due window book representable loaded due ticked => simp [ticked, representable]

/-- **A tick or a sweep breaks off if and only if the window is too long for a span of time.**  A tick
needs the window whatever is stored, and a sweep as soon as it has read a rule book.  With any other
window each of them ends, in a result or an error, for every store, every pattern of failing calls and
every instant. -/
theorem breaks_off_iff (s : Scheduler) (now : Instant) (world : World) :
    ((s.tick now world).1 = .error .endlessWindow ↔
      Span.maxSeconds < s.workspace.config.sweep.windowSeconds) ∧
    (((s.workspace.transitions now).run world).1 = .error .endlessWindow ↔
      Span.maxSeconds < s.workspace.config.sweep.windowSeconds ∧
        ∃ book, (s.workspace.loadStored.run world).1 = .ok (some book)) ∧
    ∀ keep, ((s.workspace.sweepOnly keep now).run world).1 = .error .endlessWindow ↔
      Span.maxSeconds < s.workspace.config.sweep.windowSeconds ∧
        ∃ book, (s.workspace.loadStored.run world).1 = .ok (some book) := by
  refine ⟨s.tick_breaks_off_iff now world, Workspace.transitions_breaks_off_iff, fun keep => ?_⟩
  exact Workspace.run_sweepOnly_eq_error_iff.trans Workspace.transitions_breaks_off_iff

/-- A configuration with the shortest window that is too long. -/
def farSighted : Config :=
  { sweep := { windowSeconds := Span.maxSeconds + 1 } }

/-- The configuration has no flaw, and 64 bits hold its window; the first tick of its scheduler breaks
off, with nothing stored. -/
theorem farSighted_breaks_off :
    farSighted.sweep.windowSeconds < 2 ^ 64 ∧
      ∃ ws s, Workspace.ofConfig farSighted false = .ok ws ∧ ofParts (some ws) none = .ok s ∧
        (s.tick .epoch {}).1 = .error .endlessWindow :=
  ⟨by decide, ⟨farSighted, rfl, false⟩, ⟨_, 60000, by decide, []⟩, rfl, rfl, rfl⟩

end Scheduler

end Exclusion
