/-
# Exclusion.Proofs.Rule.Undo -- edits that undo edits

To toggle a rule twice is to leave it as it was.  A rule that was added is taken out by its id, and a
rule that was put in the place of another gives way to that one again.  `Edit.UndoneBy` lists these
pairs, and the second edit of a pair gives back the list that the first one was made in
(`Edit.UndoneBy.apply`).

A rule comes last when it is added, and takes the place of a rule when it is put instead, so nothing
moves.  The rule that is put back must have been the only one with its id, since the first one with an
id gives way.

Rules come back from a store with their dates cut down to the millisecond.  An edit does not depend on
when that happens, so edits of rules that came back undo each other too
(`Edit.UndoneBy.apply_floorMilli`).
-/
import Exclusion.Proofs.Rule.Validity

namespace Exclusion

set_option autoImplicit false

variable {r s : Rule} {rules new : List Rule} {id : String}

/-! ## There and back -/

theorem Rule.toggled_toggled (r : Rule) : r.toggled.toggled = r := by
  rw [toggled, toggled, Bool.not_not]

/-- A rule that was toggled is toggled back. -/
theorem toggleRule?_toggled (toggled : toggleRule? id rules = some new) :
    toggleRule? id new = some rules := by
  induction rules generalizing new with
  | nil => cases toggled
  | cons r rules ih =>
      rw [toggleRule?] at toggled
      split at toggled
      · rename_i same
        cases toggled
        rw [toggleRule?, Rule.toggled_toggled]
        exact if_pos same
      · rename_i other
        obtain ⟨others, after, rfl⟩ := Option.map_eq_some_iff.1 toggled
        rw [toggleRule?, if_neg other, ih after, Option.map_some]

/-- A rule that was added is taken out. -/
theorem deleteRule?_putRule (fresh : ∀ s ∈ rules, s.id ≠ r.id) :
    deleteRule? r.id (putRule r rules) = some rules := by
  have found : (findRule? (rules ++ [r]) r.id).isSome = true := by
    simp [findRule?]
  have kept : rules.filter (·.id != r.id) = rules :=
    List.filter_eq_self.2 fun s listed => bne_iff_ne.2 (fresh s listed)
  rw [putRule_of_absent fresh, deleteRule?, if_pos found, List.filter_append, kept]
  simp

/-- Of two rules with one id the one that is put last stays. -/
theorem putRule_putRule (same : s.id = r.id) (rules : List Rule) :
    putRule r (putRule s rules) = putRule r rules := by
  induction rules with
  | nil => rw [putRule, putRule, putRule, if_pos same]
  | cons other rules ih =>
      rw [putRule, putRule, same]
      split
      · rw [putRule, if_pos same]
      · rename_i different
        rw [putRule, if_neg different, ih]

/-- To put a rule that is there changes nothing, if no other has its id. -/
theorem putRule_of_mem (distinct : (rules.map (·.id)).Nodup) (listed : r ∈ rules) :
    putRule r rules = rules := by
  induction rules with
  | nil => cases listed
  | cons other rules ih =>
      rw [List.map_cons, List.nodup_cons] at distinct
      rcases List.mem_cons.1 listed with rfl | later
      · rw [putRule, if_pos rfl]
      · have different : other.id ≠ r.id := fun same =>
          distinct.1 (same ▸ List.mem_map_of_mem later)
        rw [putRule, if_neg different, ih distinct.2 later]

/-! ## Pairs of edits -/

namespace Edit

/-- In these rules the second edit takes back what the first one does. -/
inductive UndoneBy (rules : List Rule) : Edit → Edit → Prop where
  | toggled (id : String) : UndoneBy rules (.toggle id) (.toggle id)
  | added {r : Rule} (fresh : ∀ s ∈ rules, s.id ≠ r.id) : UndoneBy rules (.put r) (.delete r.id)
  | replaced {r s : Rule} (listed : r ∈ rules) (same : s.id = r.id) :
      UndoneBy rules (.put s) (.put r)

variable {edit undo : Edit}

/-- **An edit that is undone leaves the rules that were there before.** -/
theorem UndoneBy.apply (undone : UndoneBy rules edit undo) (distinct : (rules.map (·.id)).Nodup)
    (applied : edit.apply rules = .ok new) : undo.apply new = .ok rules := by
  cases undone with
  | toggled id =>
      simp only [Edit.apply] at applied
      split at applied
      · rename_i toggled
        cases applied
        simp only [Edit.apply, toggleRule?_toggled toggled]
      · cases applied
  | added fresh =>
      cases applied
      simp only [Edit.apply, deleteRule?_putRule fresh]
  | replaced listed same =>
      cases applied
      rw [Edit.apply, putRule_putRule same, putRule_of_mem distinct listed]

end Edit

/-! ## Dates that are cut down -/

theorem toggleRule?_floorMilli (id : String) (rules : List Rule) :
    toggleRule? id (rules.map Rule.floorMilli) =
      (toggleRule? id rules).map (List.map Rule.floorMilli) := by
  induction rules with
  | nil => rfl
  | cons r rules ih =>
      rw [List.map_cons, toggleRule?, toggleRule?, ih, apply_ite (Option.map _), Option.map_map,
        Option.map_map]
      rfl

theorem putRule_floorMilli (r : Rule) (rules : List Rule) :
    putRule r.floorMilli (rules.map Rule.floorMilli) = (putRule r rules).map Rule.floorMilli := by
  induction rules with
  | nil => rfl
  | cons other rules ih =>
      rw [List.map_cons, putRule, putRule, ih, apply_ite (List.map _)]
      rfl

theorem deleteRule?_floorMilli (id : String) (rules : List Rule) :
    deleteRule? id (rules.map Rule.floorMilli) =
      (deleteRule? id rules).map (List.map Rule.floorMilli) := by
  have found : (findRule? (rules.map Rule.floorMilli) id).isSome = (findRule? rules id).isSome := by
    rw [findRule?, List.find?_map, Option.isSome_map]
    rfl
  rw [deleteRule?, deleteRule?, found, List.filter_map, apply_ite (Option.map _)]
  rfl

namespace Edit

/-- The edit with the dates that it brings cut down to the millisecond. -/
def floorMilli : Edit → Edit
  | .replaceAll rules => .replaceAll (rules.map Rule.floorMilli)
  | .put r => .put r.floorMilli
  | .toggle id => .toggle id
  | .delete id => .delete id

/-- **To cut dates down before an edit is to cut them down after it.** -/
theorem apply_floorMilli (edit : Edit) (rules : List Rule) :
    edit.floorMilli.apply (rules.map Rule.floorMilli) =
      (edit.apply rules).map (List.map Rule.floorMilli) := by
  cases edit with
  | replaceAll others => rfl
  | put r => exact congrArg Except.ok (putRule_floorMilli r rules)
  | toggle id =>
      rw [floorMilli, apply, apply, toggleRule?_floorMilli]
      cases toggleRule? id rules <;> rfl
  | delete id =>
      rw [floorMilli, apply, apply, deleteRule?_floorMilli]
      cases deleteRule? id rules <;> rfl

theorem UndoneBy.floorMilli {edit undo : Edit} (undone : UndoneBy rules edit undo) :
    UndoneBy rules edit.floorMilli undo := by
  cases undone with
  | toggled id => exact .toggled id
  | @added r fresh => exact .added (r := r.floorMilli) fresh
  | @replaced r s listed same => exact .replaced (s := s.floorMilli) listed same

/-- What comes back after an edit is undone as well, if the rules before had whole milliseconds. -/
theorem UndoneBy.apply_floorMilli {edit undo : Edit} (undone : UndoneBy rules edit undo)
    (distinct : (rules.map (·.id)).Nodup) (whole : ∀ r ∈ rules, r.IsWholeMilli)
    (applied : edit.apply rules = .ok new) : undo.apply (new.map Rule.floorMilli) = .ok rules := by
  refine undone.floorMilli.apply distinct ?_
  have floored := edit.apply_floorMilli rules
  rwa [applied, Rule.map_floorMilli whole] at floored

end Edit

end Exclusion
