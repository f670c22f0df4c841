/-
# Exclusion.Time.Instant -- points of time

An instant is a second counted from 1970 and a number of nanoseconds within it, within the years that
the calendar of the program covers.  During a leap second the count stays at the second before and
the nanoseconds go on past a whole second; so instants are ordered by second, then by nanosecond.
`Instant.since` is the time between two instants.
-/
import Exclusion.Time.Calendar

namespace Exclusion

set_option autoImplicit false

/-- The first second of the year -262143. -/
def Instant.minSecond : Int := -8334601228800

/-- The last second of the year 262142. -/
def Instant.maxSecond : Int := 8210266876799

structure Instant where
  second : Int
  nano : Nat
  minSecond_le : Instant.minSecond ≤ second
  le_maxSecond : second ≤ Instant.maxSecond
  nano_lt : nano < 2000000000
  deriving DecidableEq

namespace Instant

/-- The instant at a second and a nanosecond, if the program covers it. -/
def make? (second : Int) (nano : Nat) : Option Instant :=
  if h : minSecond ≤ second ∧ second ≤ maxSecond ∧ nano < 2000000000 then
    some ⟨second, nano, h.1, h.2.1, h.2.2⟩
  else none

def epoch : Instant :=
  ⟨0, 0, by decide, by decide, by decide⟩

/-! ## Milliseconds -/

/-- The instant so many milliseconds after the first second of 1970. -/
def ofMillis? (ms : Int) : Option Instant :=
  make? (ms / 1000) ((ms % 1000).toNat * 1000000)

/-- The milliseconds since the first second of 1970; what is left of a millisecond is cut off. -/
def millis (t : Instant) : Int :=
  1000 * t.second + t.nano / 1000000

/-- The instant is a whole millisecond outside leap seconds. -/
def IsWholeMilli (t : Instant) : Prop :=
  t.nano < 1000000000 ∧ t.nano % 1000000 = 0

theorem ofMillis?_millis {t : Instant} (h : t.IsWholeMilli) : ofMillis? t.millis = some t := by
  obtain ⟨s, n, h₁, h₂, h₃⟩ := t
  obtain ⟨hn, hm⟩ := h
  simp only at hn hm
  have hs : (1000 * s + (n : Int) / 1000000) / 1000 = s := by omega
  have hr : ((1000 * s + (n : Int) / 1000000) % 1000).toNat * 1000000 = n := by omega
  simp only [ofMillis?, millis, hs, hr, make?]
  rw [dif_pos ⟨h₁, h₂, h₃⟩]

/-! ## Order -/

def atMost (a b : Instant) : Bool :=
  a.second < b.second || (a.second == b.second && a.nano ≤ b.nano)

instance : LE Instant := ⟨fun a b => a.atMost b = true⟩

instance : LT Instant := ⟨fun a b => ¬ b ≤ a⟩

instance (a b : Instant) : Decidable (a ≤ b) :=
  inferInstanceAs (Decidable (_ = true))

instance (a b : Instant) : Decidable (a < b) :=
  inferInstanceAs (Decidable (¬ _))

/-! ## Differences -/

def nanosPerSecond : Int := 1000000000

def secondOfDay (t : Instant) : Int :=
  t.second % 86400

/-- The second of the instant is a leap second. -/
def isLeap (t : Instant) : Bool :=
  1000000000 ≤ t.nano

/-- The nanoseconds from `b` to `a`.  A leap second between them counts if both are on its day. -/
def since (a b : Instant) : Int :=
  let leap : Int :=
    if b.secondOfDay < a.secondOfDay ∧ b.isLeap then 1
    else if a.secondOfDay < b.secondOfDay ∧ a.isLeap then -1
    else 0
  nanosPerSecond * (a.second - b.second + leap) + (a.nano - b.nano)

def distance (a b : Instant) : Nat :=
  (a.since b).natAbs

end Instant

end Exclusion
