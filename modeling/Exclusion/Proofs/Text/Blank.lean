/-
# Exclusion.Proofs.Text.Blank -- white space in lower case and between commas

A trimmed text begins and ends with what is not white space, so trimming it again leaves it as it is
(`Text.trimChars_eq_self`).  Two texts are the same when trimmed exactly if they are one text with white
space put around it (`Text.sameInside_iff`).

No capital letter is white space, and none becomes white space in lower case
(`Text.lowerRanges_avoid_blanks`).  So a text is blank exactly if its lower case is
(`Text.isBlankText_lowercase`), although the lower case may be longer and depends on what stands around
a letter.

The parts of a comma-separated text are what is left of its pieces after trimming, if anything is.  None
of them is blank (`Text.not_isBlankText_of_mem_parts`), and there are none exactly if the text has
nothing but commas and white space (`Text.parts_eq_nil_iff`).  With a comma between two texts, the parts
of the one come before those of the other (`Text.parts_append`).
-/
import Exclusion.Text.Lowercase
import Exclusion.Text.Split
import Mathlib.Tactic

namespace Exclusion.Text

set_option autoImplicit false

/-! ## Trimming -/

theorem all_dropWhile_self (p : Char → Bool) (cs : List Char) : (cs.dropWhile p).all p = cs.all p := by
  induction cs with
  | nil => rfl
  | cons c cs ih =>
      cases holds : p c with
      | true => rw [List.dropWhile_cons_of_pos holds, ih, List.all_cons, holds, Bool.true_and]
      | false => rw [List.dropWhile_cons_of_neg (Bool.not_eq_true _ ▸ holds)]

/-- Trimming takes blanks off and nothing else, so it cannot make a text blank. -/
theorem all_isBlank_trimChars (cs : List Char) : (trimChars cs).all isBlank = cs.all isBlank := by
  rw [trimChars, trimEnd, List.all_reverse, all_dropWhile_self, List.all_reverse, trimStart,
    all_dropWhile_self]

theorem not_isBlank_of_head?_trimChars {cs : List Char} {c : Char}
    (first : (trimChars cs).head? = some c) : isBlank c = false := by
  obtain ⟨rest, parted⟩ := trimEnd_prefix (trimStart cs)
  obtain ⟨others, made⟩ := List.head?_eq_some_iff.1 first
  rw [trimChars] at made
  rw [made, List.cons_append] at parted
  exact trimStart_head parted.symm

theorem not_isBlank_of_getLast?_trimChars {cs : List Char} {c : Char}
    (last : (trimChars cs).getLast? = some c) : isBlank c = false := by
  rw [trimChars, trimEnd, List.getLast?_reverse] at last
  simpa [last] using List.head?_dropWhile_not isBlank (trimStart cs).reverse

/-- What neither begins nor ends with a blank is left as it is. -/
theorem trimChars_eq_self {cs : List Char} (first : ∀ c, cs.head? = some c → isBlank c = false)
    (last : ∀ c, cs.getLast? = some c → isBlank c = false) : trimChars cs = cs := by
  cases cs with
  | nil => rfl
  | cons c cs =>
      obtain ⟨others, d, parted⟩ := (List.eq_nil_or_concat' (c :: cs)).resolve_left (List.cons_ne_nil c cs)
      have visible : isBlank d = false := last d (by rw [parted, List.getLast?_concat])
      rw [trimChars, trimStart_cons (first c rfl), parted, trimEnd_append visible]

theorem trimChars_trimChars (cs : List Char) : trimChars (trimChars cs) = trimChars cs :=
  trimChars_eq_self (fun _ => not_isBlank_of_head?_trimChars)
    (fun _ => not_isBlank_of_getLast?_trimChars)

/-- A character that is not blank, put before a trimmed text, leaves it trimmed. -/
theorem trimChars_cons_of_trimmed {cs : List Char} {c : Char} (trimmed : trimChars cs = cs)
    (visible : isBlank c = false) : trimChars (c :: cs) = c :: cs := by
  refine trimChars_eq_self (fun d first => ?_) (fun d last => ?_)
  · cases first
    exact visible
  · cases cs with
    | nil =>
        cases last
        exact visible
    | cons e cs =>
        rw [List.getLast?_cons_cons, ← trimmed] at last
        exact not_isBlank_of_getLast?_trimChars last

theorem trimChars_append_of_trimmed {cs : List Char} {c : Char} (trimmed : trimChars cs = cs)
    (visible : isBlank c = false) : trimChars (cs ++ [c]) = cs ++ [c] := by
  refine trimChars_eq_self (fun d first => ?_) (fun d last => ?_)
  · cases cs with
    | nil =>
        cases first
        exact visible
    | cons e cs =>
        change (e :: cs).head? = some d at first
        rw [← trimmed] at first
        exact not_isBlank_of_head?_trimChars first
  · rw [List.getLast?_concat] at last
    cases last
    exact visible

/-! ## White space around a text -/

theorem trimStart_append_of_blank {a : List Char} (blank : a.all isBlank = true) (cs : List Char) :
    trimStart (a ++ cs) = trimStart cs :=
  List.dropWhile_append_of_pos (List.all_eq_true.1 blank)

theorem trimEnd_append_of_blank {b : List Char} (blank : b.all isBlank = true) (cs : List Char) :
    trimEnd (cs ++ b) = trimEnd cs := by
  rw [trimEnd, List.reverse_append, List.dropWhile_append_of_pos, trimEnd]
  simpa using blank

/-- White space before and after a text is taken off, whatever the text. -/
theorem trimChars_append_append {a b : List Char} (before : a.all isBlank = true)
    (after : b.all isBlank = true) (cs : List Char) : trimChars (a ++ cs ++ b) = trimChars cs := by
  rw [trimChars, List.append_assoc, trimStart_append_of_blank before]
  cases kept : trimStart cs with
  | nil =>
      -- The text is blank itself, and so is the text with what stands around it.
      have blank : cs.all isBlank = true := dropWhile_isBlank_eq_nil.1 kept
      have nothing : trimStart (cs ++ b) = [] :=
        dropWhile_isBlank_eq_nil.2 (by rw [List.all_append, blank, after, Bool.and_self])
      rw [nothing, trimChars, kept]
  | cons c rest =>
      have visible : isBlank c = false := trimStart_head kept
      have onward : trimStart (cs ++ b) = trimStart cs ++ b := by
        rw [trimStart, List.dropWhile_append, ← trimStart, kept]
        rfl
      rw [onward, trimEnd_append_of_blank after, trimChars]

theorem exists_trimChars (cs : List Char) :
    ∃ a b, a.all isBlank = true ∧ b.all isBlank = true ∧ cs = a ++ trimChars cs ++ b := by
  refine ⟨cs.takeWhile isBlank, ((trimStart cs).reverse.takeWhile isBlank).reverse,
    List.all_takeWhile, by rw [List.all_reverse, List.all_takeWhile], ?_⟩
  rw [List.append_assoc, trimChars, trimEnd, ← List.reverse_append, List.takeWhile_append_dropWhile,
    List.reverse_reverse, trimStart, List.takeWhile_append_dropWhile]

/-- The text is `core` with white space around it, or without. -/
def IsPadded (core s : String) : Prop :=
  ∃ a b, isBlankText a = true ∧ isBlankText b = true ∧ s = a ++ core ++ b

theorem IsPadded.trim_eq {core s : String} (padded : IsPadded core s) : trim s = trim core := by
  obtain ⟨a, b, before, after, rfl⟩ := padded
  rw [← String.toList_inj, toList_trim, toList_trim, String.toList_append, String.toList_append,
    trimChars_append_append before after]

theorem isPadded_trim (s : String) : IsPadded (trim s) s := by
  obtain ⟨a, b, before, after, parted⟩ := exists_trimChars s.toList
  refine ⟨.ofList a, .ofList b, ?_, ?_, ?_⟩
  · rwa [isBlankText, String.toList_ofList]
  · rwa [isBlankText, String.toList_ofList]
  · rw [← String.toList_inj, String.toList_append, String.toList_append, String.toList_ofList,
      String.toList_ofList, toList_trim]
    exact parted

/-- The texts differ in the white space around them, if they differ at all. -/
def SameInside (s t : String) : Prop :=
  ∃ core, IsPadded core s ∧ IsPadded core t

/-- **Texts are the same when trimmed exactly if they differ in white space around them alone.** -/
theorem sameInside_iff {s t : String} : SameInside s t ↔ trim s = trim t := by
  constructor
  · rintro ⟨core, left, right⟩
    rw [left.trim_eq, right.trim_eq]
  · intro same
    exact ⟨trim s, isPadded_trim s, same ▸ isPadded_trim t⟩

/-! ## Lower case -/

theorem CaseRun.holds_iff {r : CaseRun} {n : Nat} :
    r.holds n = true ↔ r.first ≤ n ∧ n ≤ r.last ∧ r.stride ∣ n - r.first := by
  simp only [holds, Bool.and_eq_true, decide_eq_true_eq, beq_iff_eq, and_assoc,
    Nat.dvd_iff_mod_eq_zero]

/-- Neither the capitals of the run nor their lower case lie in the range. -/
def CaseRun.Avoids (r : CaseRun) (b : CharRange) : Prop :=
  (r.last < b.first ∨ b.last < r.first) ∧
    ((r.last + r.shift).toNat < b.first ∨ b.last < (r.first + r.shift).toNat)

instance (r : CaseRun) (b : CharRange) : Decidable (r.Avoids b) :=
  inferInstanceAs (Decidable (_ ∧ _))

theorem lowerRanges_avoid_blanks : ∀ r ∈ lowerRanges, ∀ b ∈ blankRanges, r.Avoids b := by
  decide +kernel

theorem CharRange.holds_eq_false_iff {b : CharRange} {n : Nat} :
    b.holds n = false ↔ n < b.first ∨ b.last < n := by
  simp only [holds, Bool.and_eq_false_iff, decide_eq_false_iff_not, Nat.not_le]

/-- A code point that is no character stands for the null character. -/
theorem toNat_ofNat_or (n : Nat) : (Char.ofNat n).toNat = n ∨ (Char.ofNat n).toNat = 0 := by
  by_cases valid : n.isValidChar
  · left
    rw [show Char.ofNat n = Char.ofNatAux n valid from dif_pos valid]
    rfl
  · right
    rw [show Char.ofNat n = Char.ofNat 0 from dif_neg valid]
    rfl

theorem CharRange.holds_ofNat {b : CharRange} {n : Nat} (positive : 0 < b.first)
    (apart : n < b.first ∨ b.last < n) : b.holds (Char.ofNat n).toNat = false := by
  rcases toNat_ofNat_or n with valid | null
  · rw [valid]
    exact holds_eq_false_iff.2 apart
  · rw [null]
    exact holds_eq_false_iff.2 (.inl positive)

/-- A letter by itself lies in a range that the runs avoid exactly if its lower case does. -/
theorem CharRange.holds_lowerChar {b : CharRange} (positive : 0 < b.first)
    (apart : ∀ r ∈ lowerRanges, r.Avoids b) (c : Char) :
    b.holds (lowerChar c).toNat = b.holds c.toNat := by
  rw [lowerChar]
  split
  · rename_i r found
    have avoids := apart r (List.mem_of_find?_eq_some found)
    have holds := List.find?_some found
    obtain ⟨lower, upper, -⟩ := CaseRun.holds_iff.1 holds
    have capital : b.holds c.toNat = false := holds_eq_false_iff.2 (by
      have := avoids.1
      omega)
    rw [capital]
    refine holds_ofNat positive ?_
    have := avoids.2
    omega
  · rfl

/-- A character that the runs avoid is the lower case of no other. -/
theorem eq_of_lowerChar_eq {c d : Char} (positive : 0 < d.toNat)
    (apart : ∀ r ∈ lowerRanges, r.Avoids ⟨d.toNat, d.toNat⟩) (made : lowerChar c = d) : c = d := by
  have kept := CharRange.holds_lowerChar positive apart c
  have within : CharRange.holds ⟨d.toNat, d.toNat⟩ c.toNat = true := by
    rw [← kept, made]
    simp [CharRange.holds]
  simp only [CharRange.holds, Bool.and_eq_true, decide_eq_true_eq] at within
  exact Char.toNat_inj.1 (le_antisymm within.2 within.1)

/-- A letter by itself is white space in lower case exactly if it is anyway. -/
theorem isBlank_lowerChar (c : Char) : isBlank (lowerChar c) = isBlank c := by
  have positive : ∀ b ∈ blankRanges, 0 < b.first := by decide
  rw [Bool.eq_iff_iff, isBlank, isBlank, CharRange.among, CharRange.among, List.any_eq_true,
    List.any_eq_true]
  refine exists_congr fun b => and_congr_right fun listed => ?_
  rw [CharRange.holds_lowerChar (positive b listed) fun r known =>
    lowerRanges_avoid_blanks r known b listed]

theorem all_isBlank_lowerBetween (before after : List Char) (c : Char) :
    (lowerBetween before c after).all isBlank = isBlank c := by
  rw [lowerBetween]
  split
  · rename_i sigma
    subst sigma
    split <;> decide
  · split
    · rename_i dotted
      subst dotted
      decide
    · simp [isBlank_lowerChar]

theorem all_isBlank_lowerFrom (before cs : List Char) :
    (lowerFrom before cs).all isBlank = cs.all isBlank := by
  induction cs generalizing before with
  | nil => rfl
  | cons c cs ih =>
      rw [lowerFrom, List.all_append, all_isBlank_lowerBetween, ih, List.all_cons]

/-- **A text is blank exactly if its lower case is.** -/
theorem isBlankText_lowercase (s : String) : isBlankText (lowercase s) = isBlankText s := by
  rw [isBlankText, toList_lowercase, lowerChars, all_isBlank_lowerFrom, isBlankText]

/-! ## Between commas -/

/-- What holds of every character between the separators holds of all that are no separators. -/
theorem forall_fields_iff {sep : Char} {p : Char → Prop} {cs : List Char} :
    (∀ piece ∈ fields sep cs, ∀ c ∈ piece, p c) ↔ ∀ c ∈ cs, c = sep ∨ p c := by
  induction cs with
  | nil => simp [fields]
  | cons c cs ih =>
      rw [List.forall_mem_cons, ← ih, fields]
      split
      · rename_i same
        simp [same]
      · rename_i other
        split
        · rename_i empty
          exact absurd empty (fields_ne_nil sep cs)
        · rename_i piece pieces cut
          simp only [cut, List.forall_mem_cons, other, false_or, and_assoc]

/-- A comma puts the parts of two texts together. -/
theorem parts_append (a b : String) : parts (a ++ "," ++ b) = parts a ++ parts b := by
  have cut : (a ++ "," ++ b).toList = a.toList ++ ',' :: b.toList := by simp
  simp only [parts, partChars, cut, fields_append_sep, List.map_append, List.filter_append]

theorem mem_parts {s part : String} :
    part ∈ parts s ↔ ∃ piece ∈ fields ',' s.toList,
      trimChars piece ≠ [] ∧ part = String.ofList (trimChars piece) := by
  simp only [parts, partChars, List.mem_map, List.mem_filter, decide_eq_true_eq]
  constructor
  · rintro ⟨_, ⟨⟨piece, cut, rfl⟩, some⟩, rfl⟩
    exact ⟨piece, cut, some, rfl⟩
  · rintro ⟨piece, cut, some, rfl⟩
    exact ⟨_, ⟨⟨piece, cut, rfl⟩, some⟩, rfl⟩

/-- A part is trimmed already. -/
theorem trim_of_mem_parts {s part : String} (member : part ∈ parts s) : trim part = part := by
  obtain ⟨piece, -, -, rfl⟩ := mem_parts.1 member
  rw [trim, String.toList_ofList, trimChars_trimChars]

/-- A part is never blank. -/
theorem not_isBlankText_of_mem_parts {s part : String} (member : part ∈ parts s) :
    isBlankText part = false := by
  obtain ⟨piece, -, some, rfl⟩ := mem_parts.1 member
  rw [isBlankText, String.toList_ofList, all_isBlank_trimChars, ← Bool.not_eq_true,
    ← trimChars_eq_nil_iff]
  exact some

/-- A text has no parts exactly if it has nothing but commas and white space. -/
theorem parts_eq_nil_iff {s : String} :
    parts s = [] ↔ ∀ c ∈ s.toList, c = ',' ∨ isBlank c = true := by
  rw [← forall_fields_iff, parts, List.map_eq_nil_iff, partChars, List.filter_eq_nil_iff]
  simp only [List.forall_mem_map, decide_eq_true_eq, not_not, trimChars_eq_nil_iff,
    List.all_eq_true]

end Exclusion.Text
