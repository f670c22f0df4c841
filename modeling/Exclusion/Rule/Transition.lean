/-
# Exclusion.Rule.Transition -- rules that start or end about now

A transition is a date of an active rule that lies within a window around an instant, on either side
and edges included.  `transitions` lists the dates, `transitioning` the rules that have such a date.
-/
import Exclusion.Rule.Book

namespace Exclusion

set_option autoImplicit false

open Exclusion.Json

/-- Which date of a rule. -/
inductive Boundary where
  | starts
  | ends
  deriving DecidableEq, Repr

namespace Boundary

def name : Boundary → String
  | starts => "start"
  | ends => "end"

def codec : Codec Boundary :=
  .names name [starts, ends] none

end Boundary

/-- A span of time in nanoseconds, possibly negative. -/
structure Span where
  nanos : Int
  deriving DecidableEq, Repr

namespace Span

def ofMillis (ms : Int) : Span :=
  ⟨1000000 * ms⟩

/-- The most seconds that a span of time can have. -/
def maxSeconds : Nat := 9223372036854775

/-- So many seconds, if a span of time can have them. -/
def ofSeconds? (seconds : Nat) : Option Span :=
  if seconds ≤ maxSeconds then some (ofMillis (1000 * seconds)) else none

/-- The whole milliseconds of a span. -/
def millis (w : Span) : Int :=
  w.nanos.tdiv 1000000

def abs (w : Span) : Span :=
  ⟨w.nanos.natAbs⟩

end Span

/-- Ninety seconds, the window when nothing else is said. -/
def defaultWindow : Span :=
  .ofMillis 90000

/-- The date is no further from `now` than the window is long, whatever its sign. -/
def isWithin (window : Span) (now date : Instant) : Bool :=
  now.distance date ≤ window.nanos.natAbs

structure Transition where
  rule : Rule
  boundary : Boundary
  date : Instant
  deriving DecidableEq

/-- The dates of a rule, the start first. -/
def Rule.dates (r : Rule) : List Transition :=
  (r.startsAt.map fun date => ⟨r, .starts, date⟩).toList ++
    (r.endsAt.map fun date => ⟨r, .ends, date⟩).toList

/-- The dates of active rules within the window around an instant. -/
def transitions (rules : List Rule) (window : Span) (now : Instant) : List Transition :=
  (activeRules rules).flatMap fun r => r.dates.filter (isWithin window now ·.date)

/-- The active rules that have a date within the window around an instant. -/
def transitioning (rules : List Rule) (window : Span) (now : Instant) : List Rule :=
  (activeRules rules).filter fun r =>
    r.startsAt.any (isWithin window now) || r.endsAt.any (isWithin window now)

end Exclusion
