/-
# Exclusion.Proofs.Text.Lowered -- texts that are in lower case

A character is lowered if it is no capital: in none of the runs, and not the dotted capital I
(`Text.IsLowered`).  It is its own lower case wherever it stands, and the lower case of any character is
lowered (`Text.isLowered_of_mem_lowerBetween`): where a capital is turned into another letter this is read
off the table, run by run (`Text.lowerRanges_miss`).

The rule for the end of a word asks about capital sigmas only, and a sigma that has its shape keeps it.  So
a text is its own lower case exactly if all of its characters are lowered (`Text.lowercase_eq_self_iff`),
and lower case put into lower case stays as it is (`Text.lowercase_lowercase`).
-/
import Exclusion.Proofs.Text.Blank

namespace Exclusion.Text

set_option autoImplicit false

/-! ## Capitals -/

/-- No capital of the run `other` is the lower case of one of this run: these lie before the capitals,
after them, or out of step with them. -/
def CaseRun.misses (r other : CaseRun) : Bool :=
  Nat.blt (r.last + r.shift).toNat other.first || Nat.blt other.last (r.first + r.shift).toNat ||
    (r.stride % other.stride == 0 || r.first == r.last) &&
      (r.first + r.shift - other.first) % other.stride != 0

-- The table is checked pair by pair, so nearly every pair has to be settled by its bounds alone.
theorem lowerRanges_miss : lowerRanges.all (fun r => lowerRanges.all r.misses) = true := by
  decide +kernel

theorem lowerRanges_positive : ∀ r ∈ lowerRanges, 0 < r.first := by
  decide +kernel

theorem CaseRun.holds_lower {r other : CaseRun} (misses : r.misses other = true)
    (positive : 0 < other.first) {n : Nat} (capital : r.holds n = true) :
    other.holds (n + r.shift).toNat = false := by
  obtain ⟨lower, upper, step⟩ := holds_iff.1 capital
  rw [← Bool.not_eq_true, holds_iff]
  rintro ⟨lower', upper', step'⟩
  simp only [CaseRun.misses, Bool.or_eq_true, Bool.and_eq_true, Nat.blt_eq, beq_iff_eq,
    bne_iff_ne] at misses
  rcases misses with apart | ⟨inStep, outOfStep⟩
  · omega
  · -- From the first capital of the run to `n`, and so from its lower case, it is a number of strides.
    have onward : (other.stride : Int) ∣ n - r.first := by
      rcases inStep with divides | single
      · have strides : other.stride ∣ n - r.first := (Nat.dvd_of_mod_eq_zero divides).trans step
        rw [← Nat.cast_sub lower]
        exact Int.natCast_dvd_natCast.2 strides
      · rw [le_antisymm (single ▸ upper) lower, sub_self]
        exact dvd_zero _
    have landing : (other.stride : Int) ∣ n + r.shift - other.first := by
      have strides := Int.natCast_dvd_natCast.2 step'
      rwa [Nat.cast_sub lower', Int.toNat_of_nonneg (by omega)] at strides
    have first : (other.stride : Int) ∣ r.first + r.shift - other.first := by
      have := Int.dvd_sub landing onward
      rwa [show (n + r.shift - other.first - (n - r.first) : Int) =
        r.first + r.shift - other.first by ring] at this
    exact outOfStep (Int.emod_eq_zero_of_dvd first)

/-! ## Lowered characters -/

/-- The character is no capital. -/
def IsLowered (c : Char) : Prop :=
  c ≠ 'İ' ∧ ∀ r ∈ lowerRanges, r.holds c.toNat = false

instance (c : Char) : Decidable (IsLowered c) :=
  inferInstanceAs (Decidable (_ ∧ _))

theorem lowerChar_of_isLowered {c : Char} (lowered : IsLowered c) : lowerChar c = c := by
  have capital : lowerRanges.find? (·.holds c.toNat) = none :=
    List.find?_eq_none.2 fun r listed => Bool.not_eq_true _ ▸ lowered.2 r listed
  rw [lowerChar, capital]

theorem lowerBetween_of_isLowered {c : Char} (lowered : IsLowered c) (before after : List Char) :
    lowerBetween before c after = [c] := by
  have sigma : c ≠ 'Σ' := by
    rintro rfl
    exact absurd lowered (by decide +kernel)
  rw [lowerBetween, if_neg sigma, if_neg lowered.1, lowerChar_of_isLowered lowered]

/-- White space has no other lower case. -/
theorem isLowered_of_isBlank {c : Char} (blank : isBlank c = true) : IsLowered c := by
  obtain ⟨b, listed, lower, upper⟩ := CharRange.among_iff.1 blank
  refine ⟨?_, fun r known => ?_⟩
  · rintro rfl
    exact absurd blank (by decide)
  · have apart := (lowerRanges_avoid_blanks r known b listed).1
    rw [← Bool.not_eq_true, CaseRun.holds_iff]
    omega

theorem lowerRanges_avoid_dotted : ∀ r ∈ lowerRanges, r.Avoids ⟨'İ'.toNat, 'İ'.toNat⟩ := by
  decide +kernel

theorem isLowered_lowerChar {c : Char} (other : c ≠ 'İ') : IsLowered (lowerChar c) := by
  refine ⟨fun dotted => other (eq_of_lowerChar_eq (by decide) lowerRanges_avoid_dotted dotted), ?_⟩
  intro run listed
  rw [lowerChar]
  split
  · rename_i r found
    have misses : r.misses run = true :=
      List.all_eq_true.1 (List.all_eq_true.1 lowerRanges_miss r (List.mem_of_find?_eq_some found))
        run listed
    have positive : 0 < run.first := lowerRanges_positive run listed
    have holds := List.find?_some found
    rcases toNat_ofNat_or (c.toNat + r.shift).toNat with valid | null
    · rw [valid]
      exact CaseRun.holds_lower misses positive holds
    · rw [null, ← Bool.not_eq_true, CaseRun.holds_iff]
      omega
  · rename_i capital
    exact Bool.not_eq_true _ ▸ List.find?_eq_none.1 capital run listed

theorem isLowered_of_mem_lowerBetween {before after : List Char} {c d : Char}
    (member : d ∈ lowerBetween before c after) : IsLowered d := by
  rw [lowerBetween] at member
  split_ifs at member with sigma last dotted
  · rw [List.mem_singleton.1 member]
    decide +kernel
  · rw [List.mem_singleton.1 member]
    decide +kernel
  · rcases List.mem_pair.1 member with rfl | rfl <;> decide +kernel
  · rw [List.mem_singleton.1 member]
    exact isLowered_lowerChar dotted

/-! ## Lowered texts -/

variable {before cs : List Char}

/-- Whatever stands before them, the lower case of characters has no capitals. -/
theorem isLowered_of_mem_lowerFrom {d : Char} (member : d ∈ lowerFrom before cs) : IsLowered d := by
  induction cs generalizing before with
  | nil => cases member
  | cons c cs ih =>
      rw [lowerFrom, List.mem_append] at member
      rcases member with first | others
      · exact isLowered_of_mem_lowerBetween first
      · exact ih others

theorem lowerFrom_of_isLowered (lowered : ∀ c ∈ cs, IsLowered c) : lowerFrom before cs = cs := by
  induction cs generalizing before with
  | nil => rfl
  | cons c cs ih =>
      obtain ⟨first, others⟩ := List.forall_mem_cons.1 lowered
      rw [lowerFrom, lowerBetween_of_isLowered first, ih others, List.singleton_append]

/-- **Characters are their own lower case exactly if they have no capitals among them.** -/
theorem lowerFrom_eq_self_iff : lowerFrom before cs = cs ↔ ∀ c ∈ cs, IsLowered c := by
  constructor
  · intro same c member
    rw [← same] at member
    exact isLowered_of_mem_lowerFrom member
  · exact lowerFrom_of_isLowered

theorem lowercase_eq_self_iff {s : String} : lowercase s = s ↔ ∀ c ∈ s.toList, IsLowered c := by
  rw [← String.toList_inj, toList_lowercase, lowerChars, lowerFrom_eq_self_iff]

theorem lowerChars_lowerChars (cs : List Char) : lowerChars (lowerChars cs) = lowerChars cs :=
  lowerFrom_eq_self_iff.2 fun _ => isLowered_of_mem_lowerFrom

/-- **Lower case put into lower case stays as it is.** -/
theorem lowercase_lowercase (s : String) : lowercase (lowercase s) = lowercase s := by
  rw [← String.toList_inj, toList_lowercase, toList_lowercase, lowerChars_lowerChars]

end Exclusion.Text
