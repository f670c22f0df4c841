/-
# Exclusion.Proofs.Audit.Change -- what an entry tells about the rules

An entry for an edit tells how the new rules came out of the old ones, and an entry for a publication
how many rules were published while the rules stayed as they were.  Which of the two it is can be seen
from its action (`Change.isPublication_ofEdit`, `Environment.isPublication_publication`), so that
`AuditEntry.Tells` can be said of an entry that was only read.

Two lists are compared rule by rule.  In a list in which no id occurs twice, a rule is compared with the
one rule of its id, and differs from the list if it differs from that one (`Change.differsFrom_iff`).
-/
import Exclusion.Audit.Change
import Mathlib.Data.List.Nodup

namespace Exclusion

set_option autoImplicit false

/-- No edit is described as a publication. -/
theorem Change.isPublication_ofEdit (old new : List Rule) :
    (ofEdit old new).action.isPublication = false := by
  unfold ofEdit
  split
  · rfl
  · split
    · rfl
    · split
      · rfl
      · split <;> rfl

theorem Environment.isPublication_publication (environment : Environment) :
    environment.publication.isPublication = true := by
  cases environment <;> rfl

/-- Whole numbers from zero on are written in decimal digits. -/
theorem Json.Number.renderInt_natCast (n : Nat) : renderInt n = toString n := by
  have natural : ¬ (n : Int) < 0 := by omega
  rw [renderInt, if_neg natural, Int.natAbs_natCast]
  rfl

/-- The details of a publication have the number of rules between blanks. -/
theorem Change.count_infix (environment : Environment) (count : Nat) :
    (" " ++ toString count ++ " ").toList <:+: (published environment count).details.toList := by
  refine ⟨"Published".toList, ("active rule(s) to " ++ environment.name).toList, ?_⟩
  simp [published, Json.Number.renderInt_natCast]

namespace AuditEntry

/-- The entry tells how the rules `new` came out of the rules `old`: if it is of an edit, as the change
between the lists; if it is of a publication, as one of so many active rules, which changes none.  The
details of a publication have their number, in decimal digits between blanks. -/
structure Tells (environment : Environment) (entry : AuditEntry) (old new : List Rule) : Prop where
  edit : entry.action.isPublication = false →
    entry.action = (Change.ofEdit old new).action ∧ entry.details = (Change.ofEdit old new).details
  publication : entry.action.isPublication = true → new = old ∧
    entry.action = environment.publication ∧
      entry.details = (Change.published environment (activeRules new).length).details ∧
      (" " ++ toString (activeRules new).length ++ " ").toList <:+: entry.details.toList

variable {environment : Environment} {id user : String} {recordedAt : Instant}
  {snapshotId : Option String}

theorem tells_ofEdit (old new : List Rule) :
    Tells environment ((Change.ofEdit old new).entry id recordedAt user snapshotId) old new where
  edit _ := ⟨rfl, rfl⟩
  publication published := by
    have edited := Change.isPublication_ofEdit old new
    exact absurd (edited.symm.trans published) (by decide)

theorem tells_published {rules : List Rule} {count : Nat} (counted : count = (activeRules rules).length) :
    Tells environment ((Change.published environment count).entry id recordedAt user snapshotId)
      rules rules where
  edit edited := by
    have published := environment.isPublication_publication
    exact absurd (published.symm.trans edited) (by decide)
  publication _ := by
    subst counted
    exact ⟨rfl, rfl, rfl, Change.count_infix environment _⟩

end AuditEntry

/-! ## Lists in which no id occurs twice -/

variable {rules : List Rule} {r s : Rule} {id : String}

/-- A rule is known by its id. -/
theorem Rule.eq_of_id_eq (distinct : (rules.map (·.id)).Nodup) (listed : r ∈ rules) (listed' : s ∈ rules)
    (same : r.id = s.id) : r = s :=
  List.inj_on_of_nodup_map distinct listed listed' same

namespace Change

theorem hasId_iff : hasId rules id = true ↔ ∃ r ∈ rules, r.id = id := by
  simp [hasId]

theorem hasId_eq_false_iff : hasId rules id = false ↔ ∀ r ∈ rules, r.id ≠ id := by
  simp [hasId]

/-- No id is new if each of them was there. -/
theorem find?_hasId_eq_none_iff {others : List Rule} :
    others.find? (!hasId rules ·.id) = none ↔ ∀ s ∈ others, ∃ r ∈ rules, r.id = s.id := by
  simp only [List.find?_eq_none, Bool.not_eq_true, Bool.not_eq_false', hasId_iff]

theorem lastRule?_eq_some_iff (distinct : (rules.map (·.id)).Nodup) :
    lastRule? rules id = some r ↔ r ∈ rules ∧ r.id = id := by
  rw [lastRule?, findRule?]
  constructor
  · intro found
    exact ⟨List.mem_reverse.1 (List.mem_of_find?_eq_some found), by simpa using List.find?_some found⟩
  · rintro ⟨listed, rfl⟩
    cases found : rules.reverse.find? (·.id == r.id) with
    | none =>
        have absent := List.find?_eq_none.1 found r (List.mem_reverse.2 listed)
        simp at absent
    | some s =>
        have listed' : s ∈ rules := List.mem_reverse.1 (List.mem_of_find?_eq_some found)
        have same : s.id = r.id := by simpa using List.find?_some found
        rw [Rule.eq_of_id_eq distinct listed' listed same]

/-- A rule differs from the list if it differs from the rule of its id. -/
theorem differsFrom_iff {differs : Rule → Rule → Bool} (distinct : (rules.map (·.id)).Nodup) :
    differsFrom rules differs s = true ↔ ∃ r ∈ rules, r.id = s.id ∧ differs r s = true := by
  simp only [differsFrom, Option.any_eq_true, lastRule?_eq_some_iff distinct, and_assoc]

end Change

end Exclusion
