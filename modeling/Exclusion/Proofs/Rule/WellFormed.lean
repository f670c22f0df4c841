/-
# Exclusion.Proofs.Rule.WellFormed -- which rules may be stored, said without the checks

A rule is well formed if its id, its name and its selector are visible, it has conditions, each of which
can be told and compares with something, the selector stays in front of its block, and the dates are in
order (`Rule.IsWellFormed`).  A list of rules may be stored exactly if its rules are well formed and have
different ids.

What is reported of other lists is exact as well: a check is reported at a position if, and only if, the
rule there violates it (`Rule.Violates`), once, and the reports come in the order of the list
(`accepts_well_formed`).  A rule violates the last check if a rule before it has its id.  The empty id is
left out there, but it is reported as missing, so nothing is accepted for that.

Checks look at trimmed texts, and a trimmed text has the visible characters of the text.  No character
that is forbidden in a selector is white space, so a selector is never both blank and forbidden.
-/
import Exclusion.Proofs.Rule.Validity
import Exclusion.Proofs.Text.Blank

namespace Exclusion

set_option autoImplicit false

/-! ## Visible texts -/

namespace Text

/-- The text has a character that is not white space. -/
def IsVisible (s : String) : Prop :=
  ∃ c ∈ s.toList, isBlank c = false

/-- Between commas the text has a character that is not white space. -/
def HasVisiblePart (s : String) : Prop :=
  ∃ piece ∈ fields ',' s.toList, ∃ c ∈ piece, isBlank c = false

theorem isBlankText_iff {s : String} : isBlankText s = true ↔ ¬ IsVisible s := by
  simp [isBlankText, IsVisible]

theorem parts_isEmpty_iff {s : String} : (parts s).isEmpty = true ↔ ¬ HasVisiblePart s := by
  rw [List.isEmpty_iff, parts_eq_nil_iff, ← forall_fields_iff]
  simp [HasVisiblePart]

end Text

/-! ## Checks -/

namespace Rule

/-- The rule, coming after others, violates the check that reports this flaw. -/
def Violates (before : List Rule) (r : Rule) : Flaw → Prop
  | .missingId => ¬ Text.IsVisible r.id
  | .missingName => ¬ Text.IsVisible r.name
  | .noCondition => r.conditions = []
  | .unknownSignal i => ∃ c, r.conditions[i]? = some c ∧ c.signal = .unknown
  | .unknownOperator i => ∃ c, r.conditions[i]? = some c ∧ c.operator = .unknown
  | .emptyValue i => ∃ c, r.conditions[i]? = some c ∧ ¬ Text.HasVisiblePart c.value
  | .missingSelector => ¬ Text.IsVisible r.selector
  | .forbiddenSelector => ∃ c ∈ r.selector.toList, c = '\x7b' ∨ c = '\x7d' ∨ c = '<'
  | .endsBeforeStart => ∃ starts ∈ r.startsAt, ∃ ends ∈ r.endsAt, ends < starts
  | .duplicateId => r.id ≠ "" ∧ ∃ earlier ∈ before, earlier.id = r.id

/-- The rule has all that a rule needs, and nothing that would break a page. -/
structure IsWellFormed (r : Rule) : Prop where
  id : Text.IsVisible r.id
  name : Text.IsVisible r.name
  conditions : r.conditions ≠ []
  signals : ∀ c ∈ r.conditions, c.signal ≠ .unknown
  operators : ∀ c ∈ r.conditions, c.operator ≠ .unknown
  values : ∀ c ∈ r.conditions, Text.HasVisiblePart c.value
  selector : Text.IsVisible r.selector
  confined : ∀ c ∈ r.selector.toList, c ≠ '\x7b' ∧ c ≠ '\x7d' ∧ c ≠ '<'
  ordered : ∀ starts ∈ r.startsAt, ∀ ends ∈ r.endsAt, starts ≤ ends

variable {r : Rule} {before : List Rule} {flaw : Flaw}

/-! ## What is reported of one rule -/

theorem mem_flawIf {failed : Bool} {other : Flaw} :
    flaw ∈ flawIf failed other ↔ failed = true ∧ flaw = other := by
  cases failed <;> simp [flawIf]

theorem nodup_flawIf (failed : Bool) (flaw : Flaw) : (flawIf failed flaw).Nodup := by
  cases failed <;> simp [flawIf]

theorem mem_flawsOfCondition {c : Condition} {index : Nat} :
    flaw ∈ c.flaws index ↔ (c.signal = .unknown ∧ flaw = .unknownSignal index) ∨
      (c.operator = .unknown ∧ flaw = .unknownOperator index) ∨
      (¬ Text.HasVisiblePart c.value ∧ flaw = .emptyValue index) := by
  simp only [Condition.flaws, List.mem_append, mem_flawIf, beq_iff_eq, Condition.tokens,
    Text.parts_isEmpty_iff, or_assoc]

/-- Conditions are reported by their places. -/
theorem mem_conditionFlaws {index : Nat} {conditions : List Condition} :
    flaw ∈ conditionFlaws index conditions ↔
      ∃ (i : Nat) (c : Condition), conditions[i]? = some c ∧ flaw ∈ c.flaws (index + i) := by
  induction conditions generalizing index with
  | nil => simp [conditionFlaws]
  | cons c rest ih =>
      rw [conditionFlaws, List.mem_append, ih]
      constructor
      · rintro (first | ⟨i, d, placed, later⟩)
        · exact ⟨0, c, rfl, first⟩
        · exact ⟨i + 1, d, placed, by rwa [Nat.add_assoc, Nat.add_comm 1 i] at later⟩
      · rintro ⟨i, d, placed, member⟩
        cases i with
        | zero =>
            cases placed
            exact .inl member
        | succ i => exact .inr ⟨i, d, placed, by rwa [Nat.add_assoc, Nat.add_comm 1 i]⟩

theorem mem_selectorFlaws {selector : String} :
    flaw ∈ selectorFlaws selector ↔
      (¬ Text.IsVisible selector ∧ flaw = .missingSelector) ∨
        ((∃ c ∈ selector.toList, isForbiddenInSelector c = true) ∧ flaw = .forbiddenSelector) := by
  have visible : ∀ c, isForbiddenInSelector c = true → Text.isBlank c = false := by
    intro c forbidden
    simp only [isForbiddenInSelector, Bool.or_eq_true, beq_iff_eq] at forbidden
    rcases forbidden with (rfl | rfl) | rfl <;> decide
  rw [selectorFlaws]
  split
  · rename_i blank
    have invisible := Text.isBlankText_iff.1 blank
    have allowed : ¬ ∃ c ∈ selector.toList, isForbiddenInSelector c = true := by
      rintro ⟨c, member, forbidden⟩
      exact invisible ⟨c, member, visible c forbidden⟩
    simp only [List.mem_singleton, invisible, allowed, not_false_eq_true, true_and, false_and, or_false]
  · rename_i shown
    have visible : Text.IsVisible selector := not_not.1 (mt Text.isBlankText_iff.2 shown)
    simp [visible, mem_flawIf]

theorem endsBeforeStart_iff :
    r.endsBeforeStart = true ↔ ∃ starts ∈ r.startsAt, ∃ ends ∈ r.endsAt, ends < starts := by
  rw [endsBeforeStart]
  cases r.startsAt <;> cases r.endsAt <;> simp

/-- **A rule by itself is reported for the checks that it violates.** -/
theorem mem_flaws : flaw ∈ r.flaws ↔ r.Violates [] flaw := by
  simp only [flaws, List.mem_append, mem_flawIf, mem_conditionFlaws, mem_flawsOfCondition,
    mem_selectorFlaws, Text.isBlankText_iff, endsBeforeStart_iff, List.isEmpty_iff,
    isForbiddenInSelector, Bool.or_eq_true, beq_iff_eq]
  cases flaw <;> simp [Violates, or_assoc]

theorem nodup_conditionFlaws (index : Nat) (conditions : List Condition) :
    (conditionFlaws index conditions).Nodup := by
  induction conditions generalizing index with
  | nil => exact List.nodup_nil
  | cons c rest ih =>
      have single : (c.flaws index).Nodup := by
        simp only [Condition.flaws, List.nodup_append, nodup_flawIf, List.mem_append, mem_flawIf]
        grind
      refine List.nodup_append.2 ⟨single, ih (index + 1), ?_⟩
      -- a later condition is reported under a greater number
      rintro _ first _ later rfl
      obtain ⟨i, d, -, later⟩ := mem_conditionFlaws.1 later
      rw [mem_flawsOfCondition] at first later
      rcases first with ⟨-, rfl⟩ | ⟨-, rfl⟩ | ⟨-, rfl⟩ <;> simp at later <;> omega

/-- No check is reported twice. -/
theorem nodup_flaws (r : Rule) : r.flaws.Nodup := by
  have selector : (selectorFlaws r.selector).Nodup := by
    rw [selectorFlaws]
    split
    · exact List.nodup_singleton _
    · exact nodup_flawIf _ _
  simp only [flaws, List.nodup_append, nodup_flawIf, nodup_conditionFlaws, selector, List.mem_append,
    mem_flawIf, mem_conditionFlaws, mem_flawsOfCondition, mem_selectorFlaws]
  grind

/-- **A rule has no flaws exactly if it is well formed.** -/
theorem flaws_eq_nil_iff : r.flaws = [] ↔ r.IsWellFormed := by
  rw [List.eq_nil_iff_forall_not_mem]
  simp only [mem_flaws]
  constructor
  · intro passes
    refine {
      id := not_not.1 (passes .missingId)
      name := not_not.1 (passes .missingName)
      conditions := passes .noCondition
      signals := ?_
      operators := ?_
      values := ?_
      selector := not_not.1 (passes .missingSelector)
      confined := ?_
      ordered := ?_ }
    · intro c listed unknown
      obtain ⟨i, placed⟩ := List.mem_iff_getElem?.1 listed
      exact passes (.unknownSignal i) ⟨c, placed, unknown⟩
    · intro c listed unknown
      obtain ⟨i, placed⟩ := List.mem_iff_getElem?.1 listed
      exact passes (.unknownOperator i) ⟨c, placed, unknown⟩
    · intro c listed
      obtain ⟨i, placed⟩ := List.mem_iff_getElem?.1 listed
      exact not_not.1 fun empty => passes (.emptyValue i) ⟨c, placed, empty⟩
    · intro c member
      rw [← not_or, ← not_or]
      exact fun forbidden => passes .forbiddenSelector ⟨c, member, forbidden⟩
    · intro starts started ends ended
      exact not_not.1 fun later => passes .endsBeforeStart ⟨starts, started, ends, ended, later⟩
  · rintro formed flaw violated
    cases flaw with
    | missingId => exact violated formed.id
    | missingName => exact violated formed.name
    | noCondition => exact formed.conditions violated
    | unknownSignal i =>
        obtain ⟨c, placed, unknown⟩ := violated
        exact formed.signals c (List.mem_of_getElem? placed) unknown
    | unknownOperator i =>
        obtain ⟨c, placed, unknown⟩ := violated
        exact formed.operators c (List.mem_of_getElem? placed) unknown
    | emptyValue i =>
        obtain ⟨c, placed, empty⟩ := violated
        exact empty (formed.values c (List.mem_of_getElem? placed))
    | missingSelector => exact violated formed.selector
    | forbiddenSelector =>
        obtain ⟨c, member, forbidden⟩ := violated
        obtain ⟨opens, closes, tag⟩ := formed.confined c member
        exact forbidden.elim opens (·.elim closes tag)
    | endsBeforeStart =>
        obtain ⟨starts, started, ends, ended, later⟩ := violated
        exact later (formed.ordered starts started ends ended)
    | duplicateId =>
        obtain ⟨-, earlier, listed, -⟩ := violated
        cases listed

/-! ## What is reported of a list -/

/-- What is reported of a rule that comes after others. -/
def reportedAfter (before : List Rule) (r : Rule) : List Flaw :=
  r.flaws ++ flawIf (r.id ≠ "" ∧ ∃ earlier ∈ before, earlier.id = r.id) .duplicateId

theorem mem_reportedAfter : flaw ∈ r.reportedAfter before ↔ r.Violates before flaw := by
  rw [reportedAfter, List.mem_append, mem_flaws, mem_flawIf, decide_eq_true_eq]
  cases flaw <;> simp [Violates]

theorem nodup_reportedAfter (before : List Rule) (r : Rule) : (r.reportedAfter before).Nodup := by
  refine List.nodup_append.2 ⟨r.nodup_flaws, nodup_flawIf _ _, ?_⟩
  rintro _ own _ shared rfl
  obtain ⟨-, rfl⟩ := mem_flawIf.1 shared
  obtain ⟨-, earlier, listed, -⟩ := mem_flaws.1 own
  cases listed

end Rule

variable {rules others : List Rule}

/-- Reports come position by position. -/
theorem issuesAfter_eq {seen : List String} {before : List Rule}
    (known : ∀ id, id ∈ seen ↔ ∃ earlier ∈ before, earlier.id = id) :
    issuesAfter seen rules =
      (rules.mapIdx fun i r =>
        (r.reportedAfter (before ++ rules.take i)).map (Issue.mk r.id)).flatten := by
  induction rules generalizing seen before with
  | nil => rfl
  | cons r rest ih =>
      have first : r.issues ++ (if r.id ≠ "" ∧ r.id ∈ seen then [⟨r.id, .duplicateId⟩] else []) =
          (r.reportedAfter before).map (Issue.mk r.id) := by
        simp only [Rule.reportedAfter, List.map_append, Rule.issues, known r.id, flawIf,
          decide_eq_true_eq]
        split <;> rfl
      have later : ∀ id, id ∈ r.id :: seen ↔ ∃ earlier ∈ before ++ [r], earlier.id = id := by
        intro id
        rw [List.mem_cons, known id]
        simp [or_and_right, exists_or, or_comm, eq_comm]
      rw [issuesAfter, first, ih later, List.mapIdx_cons, List.flatten_cons]
      simp

/-- Whether rules may be stored depends on their flaws and ids alone. -/
theorem isValidRuleSet_congr (flaws : rules.map Rule.flaws = others.map Rule.flaws)
    (ids : rules.map (·.id) = others.map (·.id)) : isValidRuleSet rules = isValidRuleSet others := by
  have passes : ∀ rules : List Rule,
      (∀ r ∈ rules, r.flaws = []) ↔ ∀ found ∈ rules.map Rule.flaws, found = [] := by
    simp
  rw [Bool.eq_iff_iff, isValidRuleSet_iff, isValidRuleSet_iff, passes, passes, flaws, ids]

/-- Neither does it matter in which order they are listed. -/
theorem isValidRuleSet_perm (perm : rules.Perm others) :
    isValidRuleSet rules = isValidRuleSet others := by
  rw [Bool.eq_iff_iff, isValidRuleSet_iff, isValidRuleSet_iff]
  exact and_congr (forall_congr' fun r => imp_congr perm.mem_iff Iff.rfl) (perm.map _).nodup_iff

/-- **Validation accepts exactly the well-formed rules with different ids.**  Of other lists it reports,
position by position, the checks that the rule there violates, each of them once.  So rules that are
accepted are accepted in any order, switched on or off, whenever they were made, and without some of
them. -/
theorem accepts_well_formed (rules : List Rule) :
    (isValidRuleSet rules = true ↔
      (∀ r ∈ rules, r.IsWellFormed) ∧ (rules.map (·.id)).Nodup) ∧
    (∃ found : Nat → List Flaw,
      ruleSetIssues rules = (rules.mapIdx fun i r => (found i).map (Issue.mk r.id)).flatten ∧
      ∀ i r, rules[i]? = some r →
        (found i).Nodup ∧ ∀ flaw, flaw ∈ found i ↔ r.Violates (rules.take i) flaw) ∧
    (∀ others, rules.Perm others → isValidRuleSet rules = isValidRuleSet others) ∧
    (∀ others, List.Forall₂
        (fun r s => { s with isActive := r.isActive, createdAt := r.createdAt } = r) rules others →
      isValidRuleSet rules = isValidRuleSet others) ∧
    ∀ others, others.Sublist rules → isValidRuleSet rules = true → isValidRuleSet others = true := by
  refine ⟨?_, ⟨fun i => (rules[i]?).elim [] (Rule.reportedAfter (rules.take i)), ?_, ?_⟩,
    fun others => isValidRuleSet_perm, ?_, fun others sublist valid => isValidRuleSet_sublist valid sublist⟩
  · rw [isValidRuleSet_iff]
    simp only [Rule.flaws_eq_nil_iff]
  · have start : ∀ id : String, id ∈ [] ↔ ∃ earlier ∈ ([] : List Rule), earlier.id = id := by simp
    rw [ruleSetIssues, issuesAfter_eq start]
    refine congrArg List.flatten ?_
    rw [List.mapIdx_eq_mapIdx_iff]
    intro i inside
    dsimp only
    rw [List.getElem?_eq_getElem inside]
    rfl
  · intro i r placed
    dsimp only
    rw [placed]
    exact ⟨Rule.nodup_reportedAfter _ r, fun flaw => Rule.mem_reportedAfter⟩
  · intro others alike
    have kept : ∀ {α : Type} (f : Rule → α),
        (∀ (r : Rule) isActive createdAt, f { r with isActive, createdAt } = f r) →
          rules.map f = others.map f := by
      intro α f same
      induction alike with
      | nil => rfl
      | cons switched _ ih => rw [List.map_cons, List.map_cons, ih, ← switched, same]
    exact isValidRuleSet_congr (kept Rule.flaws fun _ _ _ => rfl) (kept (·.id) fun _ _ _ => rfl)

/-- A rule about sport with an id and a selector. -/
def sportRule (id selector : String) : Rule :=
  (Rule.new id "Banner" selector .epoch).addCondition
    { signal := .keywords, operator := .equals, value := " , sport", caseSensitive := false }

/-- Two rules are accepted, and so they are in the other order, if the first is switched off, and if
there is only the second. -/
theorem accepts_well_formed_sportRules :
    isValidRuleSet [sportRule "r1" "#banner", sportRule "r2" "#banner"] = true ∧
      isValidRuleSet [sportRule "r2" "#banner", sportRule "r1" "#banner"] = true ∧
      isValidRuleSet [(sportRule "r1" "#banner").toggled, sportRule "r2" "#banner"] = true ∧
      isValidRuleSet [sportRule "r2" "#banner"] = true := by
  obtain ⟨-, -, perm, switched, sublist⟩ :=
    accepts_well_formed [sportRule "r1" "#banner", sportRule "r2" "#banner"]
  have valid : isValidRuleSet [sportRule "r1" "#banner", sportRule "r2" "#banner"] = true := by decide
  refine ⟨valid, ?_, ?_, ?_⟩
  · rw [← perm _ (.swap ..), valid]
  · rw [← switched _ (.cons rfl (.cons rfl .nil)), valid]
  · exact sublist _ (.cons _ (.refl _)) valid

/-- The second rule has the id of the first, which is blank but not empty, and a brace in its selector. -/
example :
    ruleSetIssues [sportRule " " "#banner", sportRule " " "#banner\x7b"] =
      [⟨" ", .missingId⟩, ⟨" ", .missingId⟩, ⟨" ", .forbiddenSelector⟩, ⟨" ", .duplicateId⟩] := by
  decide

end Exclusion
