/-
# Exclusion.Proofs.Rule.Validity -- which edits leave rules that may be stored

Rules may be stored if none of them has a flaw and no two of them have one id (`isValidRuleSet_iff`).
An edit of such rules gives such rules again exactly if it is acceptable to them: the rules that it
brings have no flaws, and the rule that it names is there (`Edit.isAcceptable_iff`).  So it can be told
before an edit is made whether it will be refused.

That every rule without flaws has an id matters: only ids that are not empty are compared.
-/
import Exclusion.Proofs.Rule.Edit
import Exclusion.Rule.Validation

namespace Exclusion

set_option autoImplicit false

variable {r : Rule} {rules new : List Rule} {id : String}

/-! ## Valid lists -/

theorem Rule.id_ne_empty (sound : r.flaws = []) : r.id ≠ "" := by
  intro empty
  have blank : Text.isBlankText r.id = true := by rw [empty]; rfl
  simp [flaws, flawIf, blank] at sound

theorem Rule.issues_eq_nil_iff : r.issues = [] ↔ r.flaws = [] := by
  rw [issues, List.map_eq_nil_iff]

/-- A list has no issues if its rules have no flaws and new ids, each of which occurs once. -/
theorem issuesAfter_eq_nil_iff {seen : List String} :
    issuesAfter seen rules = [] ↔
      (∀ r ∈ rules, r.flaws = []) ∧ (rules.map (·.id)).Nodup ∧ ∀ r ∈ rules, r.id ∉ seen := by
  induction rules generalizing seen with
  | nil => simp [issuesAfter]
  | cons r rules ih =>
      have first : (if r.id ≠ "" ∧ r.id ∈ seen then [Issue.mk r.id .duplicateId] else []) = [] ↔
          r.id = "" ∨ r.id ∉ seen := by
        by_cases known : r.id ∈ seen <;> by_cases empty : r.id = "" <;> simp [known, empty]
      rw [issuesAfter, List.append_eq_nil_iff, List.append_eq_nil_iff, Rule.issues_eq_nil_iff, first,
        ih, List.forall_mem_cons, List.forall_mem_cons, List.map_cons, List.nodup_cons]
      constructor
      · rintro ⟨⟨sound, new⟩, others, distinct, fresh⟩
        have unseen : r.id ∉ seen := new.resolve_left (Rule.id_ne_empty sound)
        refine ⟨⟨sound, others⟩, ⟨?_, distinct⟩, unseen, ?_⟩
        · intro again
          obtain ⟨s, listed, same⟩ := List.mem_map.1 again
          exact fresh s listed (same ▸ List.mem_cons_self ..)
        · intro s listed known
          exact fresh s listed (List.mem_cons_of_mem r.id known)
      · rintro ⟨⟨sound, others⟩, ⟨single, distinct⟩, unseen, fresh⟩
        refine ⟨⟨sound, .inr unseen⟩, others, distinct, ?_⟩
        intro s listed known
        rcases List.mem_cons.1 known with same | before
        · exact single (same ▸ List.mem_map_of_mem listed)
        · exact fresh s listed before

/-- **Rules may be stored if none has a flaw and no two have one id.** -/
theorem isValidRuleSet_iff :
    isValidRuleSet rules = true ↔ (∀ r ∈ rules, r.flaws = []) ∧ (rules.map (·.id)).Nodup := by
  rw [isValidRuleSet, List.isEmpty_iff, ruleSetIssues, issuesAfter_eq_nil_iff]
  simp

/-! ## Putting a rule -/

theorem mem_putRule_self (r : Rule) (rules : List Rule) : r ∈ putRule r rules := by
  induction rules with
  | nil => exact List.mem_singleton_self r
  | cons other rules ih =>
      rw [putRule]
      split
      · exact List.mem_cons_self ..
      · exact List.mem_cons_of_mem other ih

/-- A rule with a new id comes last. -/
theorem putRule_of_absent (absent : ∀ o ∈ rules, o.id ≠ r.id) : putRule r rules = rules ++ [r] := by
  induction rules with
  | nil => rfl
  | cons other rules ih =>
      obtain ⟨first, others⟩ := List.forall_mem_cons.1 absent
      rw [putRule, if_neg first, ih others, List.cons_append]

/-- A rule takes the place of the one with its id, or comes last. -/
theorem map_id_putRule (r : Rule) (rules : List Rule) :
    (putRule r rules).map (·.id) =
      if r.id ∈ rules.map (·.id) then rules.map (·.id) else rules.map (·.id) ++ [r.id] := by
  induction rules with
  | nil => rfl
  | cons other rules ih =>
      rw [putRule]
      by_cases same : other.id = r.id
      · simp [same]
      · rw [if_neg same, List.map_cons, ih, List.map_cons]
        by_cases listed : r.id ∈ rules.map (·.id)
        · simp only [listed, List.mem_cons, or_true, if_true]
        · simp only [listed, List.mem_cons, or_false, Ne.symm same, if_false, List.cons_append]

/-- Rules with one more among them may be stored if that one has no flaw. -/
theorem isValidRuleSet_putRule (valid : isValidRuleSet rules = true) :
    isValidRuleSet (putRule r rules) = true ↔ r.flaws = [] := by
  obtain ⟨sound, distinct⟩ := isValidRuleSet_iff.1 valid
  rw [isValidRuleSet_iff]
  constructor
  · rintro ⟨all, -⟩
    exact all r (mem_putRule_self r rules)
  · intro flawless
    refine ⟨?_, ?_⟩
    · intro s member
      rcases mem_putRule member with rfl | before
      · exact flawless
      · exact sound s before
    · rw [map_id_putRule]
      split
      · exact distinct
      · rename_i unlisted
        refine List.nodup_append.2 ⟨distinct, List.nodup_singleton _, ?_⟩
        rintro _ listed _ last rfl
        exact unlisted (List.mem_singleton.1 last ▸ listed)

/-! ## Toggling and deleting -/

/-- Whether a rule is active is no flaw. -/
theorem Rule.flaws_toggled (r : Rule) : r.toggled.flaws = r.flaws :=
  rfl

theorem exists_toggleRule?_iff : (∃ new, toggleRule? id rules = some new) ↔ ∃ r ∈ rules, r.id = id := by
  induction rules with
  | nil => simp [toggleRule?]
  | cons r rules ih =>
      rw [toggleRule?, List.exists_mem_cons_iff, ← ih]
      split
      · rename_i same
        simp [same]
      · rename_i other
        simp [other]

/-- Toggling keeps everything of the rules that does not depend on whether they are active. -/
theorem map_toggleRule? {α : Type} {f : Rule → α} (kept : ∀ r, f r.toggled = f r)
    (toggled : toggleRule? id rules = some new) : new.map f = rules.map f := by
  induction rules generalizing new with
  | nil => cases toggled
  | cons r rules ih =>
      rw [toggleRule?] at toggled
      split at toggled
      · cases toggled
        rw [List.map_cons, List.map_cons, kept]
      · obtain ⟨others, after, rfl⟩ := Option.map_eq_some_iff.1 toggled
        rw [List.map_cons, List.map_cons, ih after]

theorem isValidRuleSet_toggleRule? (valid : isValidRuleSet rules = true)
    (toggled : toggleRule? id rules = some new) : isValidRuleSet new = true := by
  obtain ⟨sound, distinct⟩ := isValidRuleSet_iff.1 valid
  have ids : new.map (·.id) = rules.map (·.id) := map_toggleRule? (fun _ => rfl) toggled
  have flaws : new.map Rule.flaws = rules.map Rule.flaws := map_toggleRule? Rule.flaws_toggled toggled
  refine isValidRuleSet_iff.2 ⟨?_, ids ▸ distinct⟩
  intro s member
  have listed : s.flaws ∈ rules.map Rule.flaws := flaws ▸ List.mem_map_of_mem member
  obtain ⟨r, before, same⟩ := List.mem_map.1 listed
  rw [← same, sound r before]

theorem exists_deleteRule?_iff : (∃ new, deleteRule? id rules = some new) ↔ ∃ r ∈ rules, r.id = id := by
  have found : (findRule? rules id).isSome = true ↔ ∃ r ∈ rules, r.id = id := by
    simp [findRule?]
  rw [deleteRule?, ← found]
  split <;> simp [*]

/-- Fewer rules may be stored as well. -/
theorem isValidRuleSet_sublist (valid : isValidRuleSet rules = true) (sublist : new.Sublist rules) :
    isValidRuleSet new = true := by
  obtain ⟨sound, distinct⟩ := isValidRuleSet_iff.1 valid
  refine isValidRuleSet_iff.2 ⟨fun r member => sound r (sublist.subset member), ?_⟩
  exact distinct.sublist (sublist.map _)

theorem isValidRuleSet_deleteRule? (valid : isValidRuleSet rules = true)
    (deleted : deleteRule? id rules = some new) : isValidRuleSet new = true := by
  rw [deleteRule?] at deleted
  split at deleted
  · cases deleted
    exact isValidRuleSet_sublist valid List.filter_sublist
  · cases deleted

/-! ## Edits -/

namespace Edit

/-- What an edit needs of the rules that it edits: a list or a rule that it brings must be without
issues, and a rule that it names must be there. -/
def IsAcceptable (edit : Edit) (rules : List Rule) : Prop :=
  match edit with
  | replaceAll new => isValidRuleSet new = true
  | put r => r.issues = []
  | toggle id | delete id => ∃ r ∈ rules, r.id = id

/-- **An edit of rules that may be stored gives such rules exactly if it is acceptable to them.** -/
theorem isAcceptable_iff {edit : Edit} (valid : isValidRuleSet rules = true) :
    edit.IsAcceptable rules ↔ ∃ new, edit.apply rules = .ok new ∧ isValidRuleSet new = true := by
  cases edit with
  | replaceAll others => simp [IsAcceptable, apply]
  | put r =>
      rw [IsAcceptable, Rule.issues_eq_nil_iff, ← isValidRuleSet_putRule valid]
      simp [apply]
  | toggle id =>
      rw [IsAcceptable, ← exists_toggleRule?_iff]
      constructor
      · rintro ⟨new, toggled⟩
        refine ⟨new, ?_, isValidRuleSet_toggleRule? valid toggled⟩
        simp only [apply, toggled]
      · rintro ⟨new, applied, -⟩
        cases toggled : toggleRule? id rules with
        | none => simp [apply, toggled] at applied
        | some rules' => exact ⟨rules', rfl⟩
  | delete id =>
      rw [IsAcceptable, ← exists_deleteRule?_iff]
      constructor
      · rintro ⟨new, deleted⟩
        refine ⟨new, ?_, isValidRuleSet_deleteRule? valid deleted⟩
        simp only [apply, deleted]
      · rintro ⟨new, applied, -⟩
        cases deleted : deleteRule? id rules with
        | none => simp [apply, deleted] at applied
        | some rules' => exact ⟨rules', rfl⟩

end Edit

end Exclusion
