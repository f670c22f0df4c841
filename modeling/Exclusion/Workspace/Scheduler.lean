/-
# Exclusion.Workspace.Scheduler -- sweeping again and again

A scheduler sweeps a workspace at intervals.  It remembers the crossings for which it had the artifact
purged, so that a date that stays within the window for several sweeps is purged for once.  A crossing
is forgotten when it leaves the window, and is not remembered if the purge failed.  A rule whose date is
moved makes a new crossing.
-/
import Exclusion.Workspace.Basic

namespace Exclusion

set_option autoImplicit false

/-- A date that a rule starts or ends at. -/
structure Crossing where
  ruleId : String
  boundary : Boundary
  date : Instant
  deriving DecidableEq

def Crossing.ofRecord (t : TransitionRecord) : Crossing :=
  ⟨t.ruleId, t.boundary, t.date⟩

/-- A workspace that is swept, and what has been purged for. -/
structure Scheduler where
  workspace : Workspace
  /-- The milliseconds between sweeps. -/
  interval : Nat
  interval_pos : 0 < interval
  remembered : List Crossing

namespace Scheduler

/-- A new scheduler.  The interval is the configured one if none is given. -/
def ofParts (workspace : Option Workspace) (interval : Option Nat) : Except SetupError Scheduler :=
  match workspace with
  | none => .error .noWorkspace
  | some workspace =>
    let interval := interval.getD (1000 * workspace.config.sweep.intervalSeconds)
    if h : 0 < interval then .ok ⟨workspace, interval, h, []⟩ else .error .zeroInterval

def remembers (s : Scheduler) (t : TransitionRecord) : Bool :=
  .ofRecord t ∈ s.remembered

/-- Forgets the crossings outside the window around an instant. -/
def forget (s : Scheduler) (window : Span) (now : Instant) : Scheduler :=
  { s with remembered := s.remembered.filter fun crossing => isWithin window now crossing.date }

/-- Adds a crossing to those purged for. -/
def insertCrossing (crossings : List Crossing) (crossing : Crossing) : List Crossing :=
  if crossing ∈ crossings then crossings else crossings ++ [crossing]

def remember (s : Scheduler) (report : SweepReport) : Scheduler :=
  match report with
  | .purgeTriggered found purge =>
    if purge.isFailed then s
    else { s with remembered := (found.map .ofRecord).foldl insertCrossing s.remembered }
  | .noRules | .noTransitions _ => s

/-- Sweeps as of an instant, passing over what was purged for. -/
def tick (s : Scheduler) (now : Instant) (world : World) :
    Except Failure SweepReport × Scheduler × World :=
  match s.workspace.config.sweep.window? with
  | none => (.error .endlessWindow, s, world)
  | some window =>
    let s := s.forget window now
    match s.workspace.sweepOnly (!s.remembers ·) now world with
    | (.ok report, world) => (.ok report, s.remember report, world)
    | (.error failure, world) => (.error failure, s, world)

/-- Sweeps at one instant after the other until so many reports were made.  A sweep that fails makes
none. -/
def run (s : Scheduler) (world : World) : (wanted : Nat) → List Instant →
    List SweepReport × Scheduler × World
  | 0, _ => ([], s, world)
  | _, [] => ([], s, world)
  | wanted + 1, now :: later =>
    match s.tick now world with
    | (.ok report, s, world) =>
      let (reports, s, world) := s.run world wanted later
      (report :: reports, s, world)
    | (.error _, s, world) => s.run world (wanted + 1) later

end Scheduler

end Exclusion
