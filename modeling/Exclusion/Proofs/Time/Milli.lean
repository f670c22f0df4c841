/-
# Exclusion.Proofs.Time.Milli -- instants that were stored as milliseconds

Storing an instant keeps its whole milliseconds.  Outside leap seconds it comes back cut down to the
millisecond (`Instant.restores_millis`), so an instant that is a whole millisecond comes back as it
was, and whatever comes back is one (`Instant.isWholeMilli_of_makes`).  Cutting down keeps the order
(`Instant.floorMilli_le`).  The milliseconds of a leap second are those of the next second, so the
order of a leap second and what follows it may be lost.
-/
import Exclusion.Proofs.Json.Origin
import Exclusion.Proofs.Json.Restore
import Exclusion.Time.Wire

namespace Exclusion.Instant

set_option autoImplicit false

open Exclusion.Json

instance (t : Instant) : Decidable t.IsWholeMilli :=
  inferInstanceAs (Decidable (_ ∧ _))

/-- The instant without what is left of its millisecond. -/
def floorMilli (t : Instant) : Instant :=
  { t with nano := t.nano / 1000000 * 1000000, nano_lt := by have := t.nano_lt; omega }

theorem isWholeMilli_floorMilli {t : Instant} (plain : t.isLeap = false) :
    t.floorMilli.IsWholeMilli := by
  simp only [isLeap, decide_eq_false_iff_not, Nat.not_le] at plain
  refine ⟨?_, ?_⟩ <;> simp only [floorMilli] <;> omega

theorem floorMilli_eq_self {t : Instant} (whole : t.IsWholeMilli) : t.floorMilli = t := by
  obtain ⟨s, n, h₁, h₂, h₃⟩ := t
  obtain ⟨-, h⟩ := whole
  simp only [floorMilli, mk.injEq, true_and] at h ⊢
  omega

theorem isLeap_of_isWholeMilli {t : Instant} (whole : t.IsWholeMilli) : t.isLeap = false := by
  simpa [isLeap] using whole.1

theorem millis_floorMilli (t : Instant) : t.floorMilli.millis = t.millis := by
  simp only [millis, floorMilli]
  omega

theorem le_iff {a b : Instant} :
    a ≤ b ↔ a.second < b.second ∨ a.second = b.second ∧ a.nano ≤ b.nano := by
  show a.atMost b = true ↔ _
  simp only [atMost, Bool.or_eq_true, Bool.and_eq_true, decide_eq_true_eq, beq_iff_eq]

/-- Cutting down keeps the order. -/
theorem floorMilli_le {a b : Instant} (le : a ≤ b) : a.floorMilli ≤ b.floorMilli := by
  rw [le_iff] at le ⊢
  rcases le with earlier | ⟨same, within⟩
  · exact .inl earlier
  · exact .inr ⟨same, Nat.mul_le_mul_right _ (Nat.div_le_div_right within)⟩

/-- The milliseconds of an instant are far from the ends of 64 bits. -/
theorem millis_bounds (t : Instant) :
    -(Number.maxNegative : Int) ≤ t.millis ∧ t.millis < Number.maxNegative := by
  have lower := t.minSecond_le
  have upper := t.le_maxSecond
  have nano := t.nano_lt
  simp only [millis, Number.maxNegative, minSecond, maxSecond] at *
  omega

/-- The instant is not in a leap second after the last second that can be read. -/
def IsStorable (t : Instant) : Prop :=
  t.second < maxSecond ∨ t.isLeap = false

instance (t : Instant) : Decidable t.IsStorable :=
  inferInstanceAs (Decidable (_ ∨ _))

/-- What the instant is read as when it was stored. -/
def stored (t : Instant) : Instant :=
  (ofMillis? t.millis).getD t

theorem ofMillis?_of_isStorable {t : Instant} (storable : t.IsStorable) :
    ofMillis? t.millis = some t.stored := by
  have covered : minSecond ≤ t.millis / 1000 ∧ t.millis / 1000 ≤ maxSecond ∧
      (t.millis % 1000).toNat * 1000000 < 2000000000 := by
    have lower := t.minSecond_le
    have upper := t.le_maxSecond
    have nano := t.nano_lt
    simp only [IsStorable, isLeap, decide_eq_false_iff_not, Nat.not_le] at storable
    simp only [millis]
    omega
  rw [stored, ofMillis?, make?, dif_pos covered]
  rfl

theorem ofMillis?_of_plain {t : Instant} (plain : t.isLeap = false) :
    ofMillis? t.millis = some t.floorMilli := by
  rw [← millis_floorMilli, ofMillis?_millis (isWholeMilli_floorMilli plain)]

/-- Milliseconds after the last second of all name no instant. -/
theorem isStorable_of_ofMillis? {t read : Instant} (named : ofMillis? t.millis = some read) :
    t.IsStorable := by
  simp only [ofMillis?, make?] at named
  split at named
  · rename_i covered
    have nano := t.nano_lt
    simp only [millis] at covered
    simp only [IsStorable, isLeap, decide_eq_false_iff_not, Nat.not_le]
    omega
  · cases named

theorem isIntegral_encode (t : Instant) : (millisCodec.encode t).IsIntegral := by
  obtain ⟨lower, upper⟩ := t.millis_bounds
  refine ⟨lower, ?_⟩
  simp only [Number.maxNegative, Number.maxNatural] at *
  omega

/-- **A stored instant comes back as far as milliseconds tell it.** -/
theorem restores_stored {levels : Nat} {t : Instant} (storable : t.IsStorable) :
    millisCodec.Restores levels t t.stored where
  integral := t.isIntegral_encode
  decode _ := by
    simp only [millisCodec, Json.int, Json.toNode, ofMillis?_of_isStorable storable]

/-- An instant that is read at all is one that can be stored. -/
theorem isStorable_of_decode {source : Source} {t read : Instant}
    (decoded : millisCodec.decode source (millisCodec.encode t).toNode = .ok read) :
    t.IsStorable := by
  simp only [millisCodec, Json.int, Json.toNode] at decoded
  cases named : ofMillis? t.millis with
  | none =>
      rw [named] at decoded
      cases decoded
  | some read => exact isStorable_of_ofMillis? named

/-- **Outside leap seconds it comes back cut down to the millisecond.** -/
theorem restores_millis {levels : Nat} {t : Instant} (plain : t.isLeap = false) :
    millisCodec.Restores levels t t.floorMilli := by
  have same : t.stored = t.floorMilli := by rw [stored, ofMillis?_of_plain plain, Option.getD_some]
  rw [← same]
  exact restores_stored (.inr plain)

/-- Half a leap second before midnight is stored as half a second after it. -/
example : millis ⟨-1, 1500000000, by decide, by decide, by decide⟩ = 500 := by
  decide

theorem isWholeMilli_of_ofMillis? {ms : Int} {t : Instant} (read : ofMillis? ms = some t) :
    t.IsWholeMilli := by
  simp only [ofMillis?, make?] at read
  split at read
  · cases read
    refine ⟨?_, ?_⟩ <;> simp only <;> omega
  · simp at read

/-- Stored instants are whole milliseconds. -/
theorem isWholeMilli_of_makes {t : Instant} (made : millisCodec.Makes t) : t.IsWholeMilli := by
  obtain ⟨source, node, decoded⟩ := made
  simp only [millisCodec] at decoded
  split at decoded
  · split at decoded
    · rename_i read
      cases decoded
      exact isWholeMilli_of_ofMillis? read
    · simp [mismatched] at decoded
  · exact absurd decoded (wrongType_ne_ok _ _ _)

theorem isWholeMilli_epoch : epoch.IsWholeMilli :=
  ⟨by decide, by decide⟩

end Exclusion.Instant
