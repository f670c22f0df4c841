/-
# Exclusion.Proofs.Rule.Edit -- where the rules of an edited list come from

Every rule of an edited list comes with the edit, or was there before with the same dates
(`Edit.instants_of_mem_apply`): an edit makes up no dates.
-/
import Exclusion.Proofs.Rule.Wire
import Exclusion.Rule.Edit

namespace Exclusion

set_option autoImplicit false

/-- The rules that an edit brings with it. -/
def Edit.rules : Edit → List Rule
  | .replaceAll rules => rules
  | .put r => [r]
  | .toggle _ | .delete _ => []

theorem mem_putRule {r s : Rule} {rules : List Rule} (member : s ∈ putRule r rules) :
    s = r ∨ s ∈ rules := by
  induction rules with
  | nil => exact .inl (List.mem_singleton.1 member)
  | cons other rules ih =>
      rw [putRule] at member
      split at member
      · rcases List.mem_cons.1 member with same | rest
        · exact .inl same
        · exact .inr (List.mem_cons_of_mem other rest)
      · rcases List.mem_cons.1 member with same | rest
        · exact .inr (same ▸ List.mem_cons_self ..)
        · exact (ih rest).imp_right (List.mem_cons_of_mem other)

theorem instants_of_mem_toggleRule? {id : String} {rules new : List Rule} {s : Rule}
    (toggled : toggleRule? id rules = some new) (member : s ∈ new) :
    ∃ r ∈ rules, s.instants = r.instants := by
  induction rules generalizing new with
  | nil => cases toggled
  | cons r rules ih =>
      rw [toggleRule?] at toggled
      split at toggled
      · cases toggled
        rcases List.mem_cons.1 member with rfl | rest
        · exact ⟨r, List.mem_cons_self .., rfl⟩
        · exact ⟨s, List.mem_cons_of_mem r rest, rfl⟩
      · obtain ⟨others, after, rfl⟩ := Option.map_eq_some_iff.1 toggled
        rcases List.mem_cons.1 member with rfl | rest
        · exact ⟨s, List.mem_cons_self .., rfl⟩
        · obtain ⟨before, listed, same⟩ := ih after rest
          exact ⟨before, List.mem_cons_of_mem r listed, same⟩

/-- The dates of edited rules are dates of the rules before, or come with the edit. -/
theorem Edit.instants_of_mem_apply {edit : Edit} {rules new : List Rule}
    (applied : edit.apply rules = .ok new) {s : Rule} (member : s ∈ new) :
    ∃ r, (r ∈ edit.rules ∨ r ∈ rules) ∧ s.instants = r.instants := by
  cases edit with
  | replaceAll others =>
      cases applied
      exact ⟨s, .inl member, rfl⟩
  | put r =>
      cases applied
      rcases mem_putRule member with rfl | before
      · exact ⟨s, .inl (List.mem_singleton.2 rfl), rfl⟩
      · exact ⟨s, .inr before, rfl⟩
  | toggle id =>
      simp only [Edit.apply] at applied
      split at applied
      · rename_i toggled
        cases applied
        obtain ⟨r, listed, same⟩ := instants_of_mem_toggleRule? toggled member
        exact ⟨r, .inr listed, same⟩
      · cases applied
  | delete id =>
      simp only [Edit.apply, deleteRule?] at applied
      split at applied
      · rename_i deleted
        cases applied
        split at deleted
        · cases deleted
          exact ⟨s, .inr (List.mem_of_mem_filter member), rfl⟩
        · cases deleted
      · cases applied

/-- What holds of the dates of the rules before and of those of the edit holds of all dates after. -/
theorem Edit.forall_instants_of_apply {p : Instant → Prop} {edit : Edit} {rules new : List Rule}
    (applied : edit.apply rules = .ok new) (before : ∀ r ∈ rules, ∀ t ∈ r.instants, p t)
    (brought : ∀ r ∈ edit.rules, ∀ t ∈ r.instants, p t) : ∀ r ∈ new, ∀ t ∈ r.instants, p t := by
  intro s member
  obtain ⟨r, origin, same⟩ := instants_of_mem_apply applied member
  rw [same]
  exact origin.elim (brought r) (before r)

/-- Edited rules have whole milliseconds if the rules before and those of the edit have. -/
theorem Edit.isWholeMilli_of_apply {edit : Edit} {rules new : List Rule}
    (applied : edit.apply rules = .ok new) (before : ∀ r ∈ rules, r.IsWholeMilli)
    (brought : ∀ r ∈ edit.rules, r.IsWholeMilli) : ∀ r ∈ new, r.IsWholeMilli :=
  forall_instants_of_apply applied before brought

/-- Edited rules avoid leap seconds if the rules before and those of the edit do. -/
theorem Edit.avoidsLeapSeconds_of_apply {edit : Edit} {rules new : List Rule}
    (applied : edit.apply rules = .ok new) (before : ∀ r ∈ rules, r.AvoidsLeapSeconds)
    (brought : ∀ r ∈ edit.rules, r.AvoidsLeapSeconds) : ∀ r ∈ new, r.AvoidsLeapSeconds :=
  forall_instants_of_apply applied before brought

end Exclusion
