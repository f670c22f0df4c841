/-
# Exclusion.Audit.Change -- how the audit log describes a change

`Change.ofEdit` compares two lists of rules.  The first difference counts, in this order: a rule with
a new id, a rule whose id is gone, a rule with other content, a rule that was switched on or off.
Lists that differ in none of these were only saved again.  Rules of the same id are compared; where the
old list has an id twice, with the last rule of that id.
-/
import Exclusion.Environment
import Exclusion.Rule.Book

namespace Exclusion

set_option autoImplicit false

/-- A change as the audit log describes it. -/
structure Change where
  action : AuditAction
  details : String
  /-- The rule that the change is about, if there is one. -/
  ruleId : Option String
  deriving DecidableEq, Repr

namespace Change

/-- A rule by name and id. -/
def label (r : Rule) : String :=
  "'" ++ r.name ++ "' (" ++ r.id ++ ")"

def created (r : Rule) : Change :=
  ⟨.create, "Created rule " ++ label r, some r.id⟩

def deleted (r : Rule) : Change :=
  ⟨.delete, "Deleted rule " ++ label r, some r.id⟩

/-- A rule does something else than before. -/
def updated (r : Rule) : Change :=
  ⟨.update, "Updated rule " ++ label r, some r.id⟩

/-- A rule was switched on or off. -/
def toggled (r : Rule) : Change :=
  ⟨.toggle, "Rule " ++ label r ++ " is now " ++ (if r.isActive then "active" else "inactive"),
    some r.id⟩

/-- No rule does anything else than before. -/
def resaved : Change :=
  ⟨.update, "Rule list re-saved", none⟩

def published (environment : Environment) (ruleCount : Nat) : Change where
  action := environment.publication
  details := "Published " ++ Json.Number.renderInt ruleCount ++ " active rule(s) to " ++
    environment.name
  ruleId := none

/-- Some rule of the list has this id. -/
def hasId (rules : List Rule) (id : String) : Bool :=
  rules.any (·.id == id)

/-- The rule of the list with this id, the last one if there are several. -/
def lastRule? (rules : List Rule) (id : String) : Option Rule :=
  findRule? rules.reverse id

/-- The rule differs from the rule of the same id in the list as `differs` says. -/
def differsFrom (old : List Rule) (differs : Rule → Rule → Bool) (r : Rule) : Bool :=
  (lastRule? old r.id).any (differs · r)

def ofEdit (old new : List Rule) : Change :=
  match new.find? (!hasId old ·.id) with
  | some r => created r
  | none =>
    match old.find? (!hasId new ·.id) with
    | some r => deleted r
    | none =>
      match new.find? (differsFrom old fun before after => !before.sameContent after) with
      | some r => updated r
      | none =>
        match new.find? (differsFrom old fun before after => before.isActive != after.isActive) with
        | some r => toggled r
        | none => resaved

def entry (change : Change) (id : String) (recordedAt : Instant) (user : String)
    (snapshotId : Option String) : AuditEntry where
  id := id
  recordedAt := recordedAt
  user := user
  action := change.action
  details := change.details
  snapshotId := snapshotId

end Change

end Exclusion
