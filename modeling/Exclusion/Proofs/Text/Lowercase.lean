/-
# Exclusion.Proofs.Text.Lowercase -- the lower case of a part of a text

Every character but one has its lower case by itself.  The capital sigma looks around: past case-ignorable
characters, at the nearest character before it and at the next one after it (`Text.firstCase?`).  So the
lower case of a part depends on what stands around the part only through whether a cased character is met
on either side (`Text.lowerWithin_congr`).

White space is neither cased nor case-ignorable, and it ends the search.  So trimming a text and putting
it into lower case can be done in either order (`Text.trim_lowercase`).

A part whose sigmas all find inside of the part what decides on their shape is settled: it has the same
lower case wherever it stands (`Text.lowerWithin_of_isSettled`).  Any other part stands in some text whose
lower case has the lower case of the part nowhere, and one more letter is enough for that
(`Text.isSettled_iff`).
-/
import Exclusion.Proofs.Text.Lowered
import Mathlib.Data.List.TakeWhile

namespace Exclusion.Text

set_option autoImplicit false

/-! ## The first character that counts -/

/-- Whether the first character that is not case-ignorable has case, if there is such a character. -/
def firstCase? (cs : List Char) : Option Bool :=
  (cs.dropWhile isCaseIgnorable).head?.map isCased

@[simp] theorem firstCase?_nil : firstCase? [] = none :=
  rfl

theorem meetsCased_eq (cs : List Char) : meetsCased cs = (firstCase? cs).getD false := by
  unfold meetsCased firstCase?
  cases cs.dropWhile isCaseIgnorable <;> rfl

theorem firstCase?_cons_of_not_ignorable {c : Char} (counts : isCaseIgnorable c = false)
    (cs : List Char) : firstCase? (c :: cs) = some (isCased c) := by
  simp [firstCase?, counts]

theorem firstCase?_append (a b : List Char) :
    firstCase? (a ++ b) = (firstCase? a).or (firstCase? b) := by
  induction a with
  | nil => rfl
  | cons c a ih =>
      cases ignorable : isCaseIgnorable c with
      | true =>
          simp only [firstCase?, List.cons_append, List.dropWhile_cons_of_pos ignorable]
          exact ih
      | false =>
          rw [List.cons_append, firstCase?_cons_of_not_ignorable ignorable,
            firstCase?_cons_of_not_ignorable ignorable, Option.some_or]

theorem firstCase?_eq_none_iff {cs : List Char} :
    firstCase? cs = none ↔ ∀ c ∈ cs, isCaseIgnorable c = true := by
  rw [firstCase?, Option.map_eq_none_iff, List.head?_eq_none_iff, List.dropWhile_eq_nil_iff]

/-- Two lists of which both or neither meet a cased character still do so behind other characters. -/
theorem meetsCased_append {b b' : List Char} (cs : List Char)
    (same : meetsCased b = meetsCased b') : meetsCased (cs ++ b) = meetsCased (cs ++ b') := by
  simp only [meetsCased_eq, firstCase?_append] at same ⊢
  cases firstCase? cs with
  | none => exact same
  | some _ => rfl

/-! ## Between other characters -/

theorem lowerBetween_congr {before before' after after' : List Char} (c : Char)
    (left : meetsCased before = meetsCased before') (right : meetsCased after = meetsCased after') :
    lowerBetween before c after = lowerBetween before' c after' := by
  rw [lowerBetween, lowerBetween, left, right]

theorem lowerBetween_of_ne {c : Char} (other : c ≠ 'Σ') (before before' after after' : List Char) :
    lowerBetween before c after = lowerBetween before' c after' := by
  rw [lowerBetween, lowerBetween, if_neg other, if_neg other]

theorem length_lowerBetween (before before' after after' : List Char) (c : Char) :
    (lowerBetween before c after).length = (lowerBetween before' c after').length := by
  by_cases sigma : c = 'Σ'
  · simp only [lowerBetween, if_pos sigma, List.length_singleton]
  · rw [lowerBetween_of_ne sigma]

theorem lowerBetween_ne_nil (before after : List Char) (c : Char) :
    lowerBetween before c after ≠ [] := by
  rw [lowerBetween]
  split_ifs <;> exact List.cons_ne_nil _ _

/-- The lower case of characters that stand between others, those before them nearest first. -/
def lowerWithin (before after : List Char) : List Char → List Char
  | [] => []
  | c :: cs => lowerBetween before c (cs ++ after) ++ lowerWithin (c :: before) after cs

theorem lowerFrom_eq (before cs : List Char) : lowerFrom before cs = lowerWithin before [] cs := by
  induction cs generalizing before with
  | nil => rfl
  | cons c cs ih => rw [lowerFrom, lowerWithin, ih, List.append_nil]

theorem lowerChars_eq (cs : List Char) : lowerChars cs = lowerWithin [] [] cs :=
  lowerFrom_eq [] cs

/-- Of two parts, one stands behind the other. -/
theorem lowerWithin_append (before after cs ds : List Char) :
    lowerWithin before after (cs ++ ds) =
      lowerWithin before (ds ++ after) cs ++ lowerWithin (cs.reverse ++ before) after ds := by
  induction cs generalizing before with
  | nil => rfl
  | cons c cs ih =>
      rw [List.cons_append, lowerWithin, ih, lowerWithin, List.append_assoc, List.append_assoc,
        List.reverse_cons, List.append_assoc, List.singleton_append]

theorem lowerWithin_singleton (before after : List Char) (c : Char) :
    lowerWithin before after [c] = lowerBetween before c after :=
  List.append_nil _

theorem length_lowerWithin (before before' after after' cs : List Char) :
    (lowerWithin before after cs).length = (lowerWithin before' after' cs).length := by
  induction cs generalizing before before' with
  | nil => rfl
  | cons c cs ih =>
      rw [lowerWithin, lowerWithin, List.length_append, List.length_append,
        length_lowerBetween _ before' _ (cs ++ after'), ih]

/-- The lower case of a part depends on whether cased characters are met around it, and on nothing else
there. -/
theorem lowerWithin_congr {before before' after after' : List Char} (cs : List Char)
    (left : meetsCased before = meetsCased before') (right : meetsCased after = meetsCased after') :
    lowerWithin before after cs = lowerWithin before' after' cs := by
  induction cs generalizing before before' with
  | nil => rfl
  | cons c cs ih =>
      have onward : meetsCased (c :: before) = meetsCased (c :: before') := meetsCased_append [c] left
      rw [lowerWithin, lowerWithin, lowerBetween_congr c left (meetsCased_append cs right), ih onward]

/-! ## White space -/

/-- No white space has case, and none is passed over in the search for it. -/
theorem caseRanges_avoid_blanks : ∀ r ∈ casedRanges ++ caseIgnorableRanges, ∀ b ∈ blankRanges,
    r.last < b.first ∨ b.last < r.first := by
  decide +kernel

theorem not_among_of_isBlank {ranges : List CharRange} {c : Char} (blank : isBlank c = true)
    (apart : ∀ r ∈ ranges, ∀ b ∈ blankRanges, r.last < b.first ∨ b.last < r.first) :
    CharRange.among ranges c = false := by
  obtain ⟨b, listed, lower, upper⟩ := CharRange.among_iff.1 blank
  rw [← Bool.not_eq_true, CharRange.among_iff]
  rintro ⟨r, known, first, last⟩
  have := apart r known b listed
  omega

theorem meetsCased_cons_of_isBlank {c : Char} (blank : isBlank c = true) (cs : List Char) :
    meetsCased (c :: cs) = false := by
  obtain ⟨cased, ignorable⟩ := List.forall_mem_append.1 caseRanges_avoid_blanks
  have counts : isCaseIgnorable c = false := not_among_of_isBlank blank ignorable
  have uncased : isCased c = false := not_among_of_isBlank blank cased
  rw [meetsCased_eq, firstCase?_cons_of_not_ignorable counts, uncased, Option.getD_some]

theorem lowerBetween_of_isBlank {c : Char} (blank : isBlank c = true) (before after : List Char) :
    lowerBetween before c after = [c] :=
  lowerBetween_of_isLowered (isLowered_of_isBlank blank) before after

/-- What is no white space has none in its lower case. -/
theorem not_isBlank_of_mem_lowerBetween {before after : List Char} {c d : Char}
    (visible : isBlank c = false) (member : d ∈ lowerBetween before c after) : isBlank d = false := by
  rw [lowerBetween] at member
  split_ifs at member
  · rw [List.mem_singleton.1 member]
    decide
  · rw [List.mem_singleton.1 member]
    decide
  · rcases List.mem_pair.1 member with rfl | rfl <;> decide
  · rw [List.mem_singleton.1 member, isBlank_lowerChar]
    exact visible

section

variable {before after : List Char}

theorem trimStart_lowerWithin (cs : List Char) (start : meetsCased before = false) :
    trimStart (lowerWithin before after cs) = lowerWithin before after (trimStart cs) := by
  induction cs generalizing before with
  | nil => rfl
  | cons c cs ih =>
      cases blank : isBlank c with
      | true =>
          have onward := meetsCased_cons_of_isBlank blank before
          rw [lowerWithin, lowerBetween_of_isBlank blank, List.singleton_append, trimStart, trimStart,
            List.dropWhile_cons_of_pos blank, List.dropWhile_cons_of_pos blank, ← trimStart, ih onward]
          exact lowerWithin_congr _ (onward.trans start.symm) rfl
      | false =>
          obtain ⟨d, ds, made⟩ := List.exists_cons_of_ne_nil (lowerBetween_ne_nil before (cs ++ after) c)
          have visible : isBlank d = false :=
            not_isBlank_of_mem_lowerBetween blank (made ▸ List.mem_cons_self)
          rw [trimStart_cons blank, lowerWithin, made, List.cons_append, trimStart_cons visible]

theorem trimEnd_lowerWithin (cs : List Char) (ending : meetsCased after = false) :
    trimEnd (lowerWithin before after cs) = lowerWithin before after (trimEnd cs) := by
  induction cs using List.reverseRecOn with
  | nil => rfl
  | append_singleton cs c ih =>
      have parted : lowerWithin before after (cs ++ [c]) =
          lowerWithin before (c :: after) cs ++ lowerBetween (cs.reverse ++ before) c after := by
        rw [lowerWithin_append, List.singleton_append, lowerWithin_singleton]
      cases blank : isBlank c with
      | true =>
          have onward := meetsCased_cons_of_isBlank blank after
          rw [parted, lowerBetween_of_isBlank blank, trimEnd_append_of_isBlank blank,
            trimEnd_append_of_isBlank blank, lowerWithin_congr cs rfl (onward.trans ending.symm), ih]
      | false =>
          obtain ⟨ds, d, made⟩ :=
            (List.eq_nil_or_concat' (lowerBetween (cs.reverse ++ before) c after)).resolve_left
              (lowerBetween_ne_nil _ _ c)
          have visible : isBlank d = false :=
            not_isBlank_of_mem_lowerBetween blank (made ▸ List.mem_concat_self)
          rw [trimEnd_append blank, parted, made, ← List.append_assoc, trimEnd_append visible]

end

/-- **A text can be trimmed before or after it is put into lower case.** -/
theorem trim_lowercase (s : String) : trim (lowercase s) = lowercase (trim s) := by
  rw [← String.toList_inj, toList_trim, toList_lowercase, toList_lowercase, toList_trim, trimChars,
    trimChars, lowerChars_eq, lowerChars_eq, trimStart_lowerWithin _ rfl, trimEnd_lowerWithin _ rfl]

/-! ## Settled parts -/

/-- The characters before a capital sigma, nearest first, and after it decide on its shape, whatever stands
beyond them: a cased character follows, or an uncased one stands before, or there is something to meet on
both sides. -/
def FixesSigma (before after : List Char) : Prop :=
  firstCase? after = some true ∨ firstCase? before = some false ∨
    firstCase? before ≠ none ∧ firstCase? after ≠ none

instance (before after : List Char) : Decidable (FixesSigma before after) :=
  inferInstanceAs (Decidable (_ ∨ _ ∨ _ ∧ _))

theorem lowerBetween_of_fixesSigma {a b : List Char} (fixed : FixesSigma a b)
    (before after : List Char) :
    lowerBetween (a ++ before) 'Σ' (b ++ after) = lowerBetween a 'Σ' b := by
  simp only [lowerBetween, if_true, meetsCased_eq, firstCase?_append]
  rcases fixed with cased | uncased | ⟨met, follows⟩
  · simp [cased]
  · simp [uncased]
  · obtain ⟨left, isLeft⟩ := Option.ne_none_iff_exists'.1 met
    obtain ⟨right, isRight⟩ := Option.ne_none_iff_exists'.1 follows
    simp [isLeft, isRight]

/-- Each capital sigma among the characters finds there what decides on its shape. -/
def IsSettled (cs : List Char) : Prop :=
  ∀ a b, cs = a ++ 'Σ' :: b → FixesSigma a.reverse b

instance (cs : List Char) : Decidable (IsSettled cs) :=
  decidable_of_iff (∀ i : Fin cs.length, cs[i] = 'Σ' →
      FixesSigma (cs.take i).reverse (cs.drop (i + 1))) <| by
    constructor
    · intro each a b parted
      subst parted
      simpa using each ⟨a.length, by simp⟩
    · intro settled i sigma
      refine settled _ _ ?_
      rw [← sigma, Fin.getElem_fin, List.getElem_cons_drop, List.take_append_drop]

/-- Two lower cases of a part differ in its capital sigmas if they differ at all. -/
theorem lowerWithin_eq_iff {before before' after after' cs : List Char} :
    lowerWithin before after cs = lowerWithin before' after' cs ↔
      ∀ a b, cs = a ++ 'Σ' :: b →
        lowerBetween (a.reverse ++ before) 'Σ' (b ++ after) =
          lowerBetween (a.reverse ++ before') 'Σ' (b ++ after') := by
  induction cs generalizing before before' with
  | nil => simp [lowerWithin]
  | cons c cs ih =>
      constructor
      · intro same a b parted
        obtain ⟨first, others⟩ := List.append_inj same (length_lowerBetween _ _ _ _ c)
        cases a with
        | nil =>
            cases parted
            exact first
        | cons d a =>
            cases parted
            simpa using ih.1 others a b rfl
      · intro same
        have first : lowerBetween before c (cs ++ after) = lowerBetween before' c (cs ++ after') := by
          by_cases sigma : c = 'Σ'
          · exact sigma ▸ same [] cs (sigma ▸ rfl)
          · exact lowerBetween_of_ne sigma _ _ _ _
        have others : lowerWithin (c :: before) after cs = lowerWithin (c :: before') after' cs :=
          ih.2 fun a b parted => by simpa using same (c :: a) b (parted ▸ rfl)
        rw [lowerWithin, lowerWithin, first, others]

/-- **A settled part has the same lower case wherever it stands.** -/
theorem lowerWithin_of_isSettled {cs : List Char} (settled : IsSettled cs)
    (before after : List Char) : lowerWithin before after cs = lowerChars cs := by
  rw [lowerChars_eq, lowerWithin_eq_iff]
  intro a b parted
  rw [List.append_nil, List.append_nil, lowerBetween_of_fixesSigma (settled a b parted)]

theorem infix_lowerChars {cs text : List Char} (settled : IsSettled cs) (stands : cs <:+: text) :
    lowerChars cs <:+: lowerChars text := by
  obtain ⟨a, b, rfl⟩ := stands
  rw [lowerChars_eq (a ++ cs ++ b), List.append_assoc, lowerWithin_append, lowerWithin_append,
    lowerWithin_of_isSettled settled, ← List.append_assoc]
  exact List.infix_append _ _ _

/-! ## Parts that are not settled -/

/-- The kra, a small letter that no other letter has for its lower case. -/
def kra : Char := 'ĸ'

theorem lowerRanges_avoid_kra : ∀ r ∈ lowerRanges, r.Avoids ⟨kra.toNat, kra.toNat⟩ := by
  decide +kernel

theorem eq_kra_of_mem_lowerBetween {before after : List Char} {c : Char}
    (member : kra ∈ lowerBetween before c after) : c = kra := by
  rw [lowerBetween] at member
  split_ifs at member
  iterate 3
    exact absurd member (by decide)
  exact eq_of_lowerChar_eq (by decide) lowerRanges_avoid_kra (List.mem_singleton.1 member).symm

theorem firstCase?_kra : firstCase? [kra] = some true := by
  decide +kernel

theorem lowerBetween_kra (before after : List Char) : lowerBetween before kra after = [kra] :=
  lowerBetween_of_isLowered (by decide +kernel) before after

/-- A part begins with a kra if its lower case does. -/
theorem head?_of_lowerWithin {before after cs : List Char}
    (first : (lowerWithin before after cs).head? = some kra) : cs.head? = some kra := by
  cases cs with
  | nil => cases first
  | cons c cs =>
      rw [lowerWithin, List.head?_append_of_ne_nil _ (lowerBetween_ne_nil _ _ _)] at first
      rw [List.head?_cons, eq_kra_of_mem_lowerBetween (List.mem_of_head? first)]

/-- A part ends with a kra if its lower case does. -/
theorem getLast?_of_lowerWithin {before after cs : List Char}
    (last : (lowerWithin before after cs).getLast? = some kra) : cs.getLast? = some kra := by
  cases cs using List.reverseRecOn with
  | nil => cases last
  | append_singleton cs c =>
      rw [lowerWithin_append, lowerWithin_singleton,
        List.getLast?_append_of_ne_nil _ (lowerBetween_ne_nil _ _ _)] at last
      rw [List.getLast?_concat, eq_kra_of_mem_lowerBetween (List.mem_of_getLast? last)]

/-- A list is no part of another of its length with one more item in front, unless it is that other list
or begins with the item. -/
theorem not_infix_cons {l other : List Char} {c : Char} (length : l.length = other.length)
    (differ : l ≠ other) (first : l.head? ≠ some c) : ¬ l <:+: c :: other := by
  intro stands
  rcases List.infix_cons_iff.1 stands with begins | inside
  · cases l with
    | nil => exact differ (List.length_eq_zero_iff.1 length.symm).symm
    | cons d l => exact first (congrArg some (List.cons_prefix_cons.1 begins).1)
  · exact differ (inside.eq_of_length length)

theorem not_infix_append_singleton {l other : List Char} {c : Char} (length : l.length = other.length)
    (differ : l ≠ other) (last : l.getLast? ≠ some c) : ¬ l <:+: other ++ [c] := by
  rw [← List.reverse_infix, List.reverse_append, List.reverse_singleton, List.singleton_append]
  exact not_infix_cons (by simpa using length) (by simpa using differ) (by simpa using last)

theorem ne_kra_of_ignorable {c : Char} (ignorable : isCaseIgnorable c = true) : c ≠ kra := by
  rintro rfl
  exact absurd ignorable (by decide +kernel)

/-- With a kra before it, a sigma that has nothing before it to meet gets its final shape. -/
theorem lowerWithin_kra_ne {a b : List Char} (blind : firstCase? a.reverse = none)
    (uncased : firstCase? b ≠ some true) :
    lowerWithin [] [] (a ++ 'Σ' :: b) ≠ lowerWithin [kra] [] (a ++ 'Σ' :: b) := by
  intro same
  have turned := lowerWithin_eq_iff.1 same a b rfl
  have open_ : (firstCase? b).getD false = false := by
    cases met : firstCase? b with
    | none => rfl
    | some cased => simpa [met] using uncased
  simp [lowerBetween, meetsCased_eq, firstCase?_append, firstCase?_kra, blind, open_]
    at turned

/-- With a kra after it, a sigma that ends a word no longer does. -/
theorem lowerWithin_append_kra_ne {a b : List Char} (cased : firstCase? a.reverse = some true)
    (blind : firstCase? b = none) :
    lowerWithin [] [] (a ++ 'Σ' :: b) ≠ lowerWithin [] [kra] (a ++ 'Σ' :: b) := by
  intro same
  have turned := lowerWithin_eq_iff.1 same a b rfl
  simp [lowerBetween, meetsCased_eq, firstCase?_append, firstCase?_kra, blind, cased]
    at turned

/-- A part that is not settled is written another way with one more letter before or after it. -/
theorem not_infix_of_not_isSettled {cs : List Char} (unsettled : ¬ IsSettled cs) :
    ¬ lowerChars cs <:+: lowerChars (kra :: cs) ∨ ¬ lowerChars cs <:+: lowerChars (cs ++ [kra]) := by
  obtain ⟨a, b, rfl, unfixed⟩ : ∃ a b, cs = a ++ 'Σ' :: b ∧ ¬ FixesSigma a.reverse b := by
    simpa [IsSettled] using unsettled
  obtain ⟨uncasedAfter, casedBefore, blind⟩ :
      firstCase? b ≠ some true ∧ firstCase? a.reverse ≠ some false ∧
        (firstCase? a.reverse = none ∨ firstCase? b = none) := by
    simpa only [FixesSigma, not_or, not_and_or, not_not] using unfixed
  cases before : firstCase? a.reverse with
  | none =>
      left
      rw [lowerChars_eq (kra :: _), lowerWithin, lowerBetween_kra, List.singleton_append, lowerChars_eq]
      refine not_infix_cons (length_lowerWithin _ _ _ _ _) (lowerWithin_kra_ne before uncasedAfter)
        (mt head?_of_lowerWithin ?_)
      cases a with
      | nil => simp [kra]
      | cons c a =>
          have ignorable := firstCase?_eq_none_iff.1 before c (by simp)
          simpa using ne_kra_of_ignorable ignorable
  | some cased =>
      right
      have isCased : cased = true := by simpa [before] using casedBefore
      have blindAfter : firstCase? b = none := blind.resolve_left (by simp [before])
      rw [lowerChars_eq (_ ++ [kra]), lowerWithin_append, lowerWithin_singleton, lowerBetween_kra,
        List.append_nil, lowerChars_eq]
      refine not_infix_append_singleton (length_lowerWithin _ _ _ _ _)
        (lowerWithin_append_kra_ne (isCased ▸ before) blindAfter) (mt getLast?_of_lowerWithin ?_)
      rcases List.eq_nil_or_concat' b with rfl | ⟨b, c, rfl⟩
      · simp [kra]
      · have ignorable := firstCase?_eq_none_iff.1 blindAfter c (by simp)
        rw [← List.cons_append, ← List.append_assoc, List.getLast?_concat]
        simpa using ne_kra_of_ignorable ignorable

/-- **A part is settled exactly if its lower case stands in the lower case of every text it stands in.** -/
theorem isSettled_iff {cs : List Char} :
    IsSettled cs ↔ ∀ text, cs <:+: text → lowerChars cs <:+: lowerChars text := by
  constructor
  · intro settled text stands
    exact infix_lowerChars settled stands
  · intro kept
    by_contra unsettled
    rcases not_infix_of_not_isSettled unsettled with before | after
    · exact before (kept _ (List.infix_cons (List.infix_refl cs)))
    · exact after (kept _ ⟨[], [kra], rfl⟩)

example : IsSettled "ΟΔΟΣ ΑΒ".toList := by decide +kernel

example : ¬ IsSettled "ΑΣ".toList := by decide +kernel

end Exclusion.Text
