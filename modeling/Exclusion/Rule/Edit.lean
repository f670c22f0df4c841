/-
# Exclusion.Rule.Edit -- changes to a list of rules

An edit replaces the whole list, puts one rule into it, switches one rule on or off, or takes one out.
The last two need a rule with the id that they name.
-/
import Exclusion.Rule.Book

namespace Exclusion

set_option autoImplicit false

/-- A change to a list of rules. -/
inductive Edit where
  | replaceAll (rules : List Rule)
  /-- Takes the place of the first rule with the same id, or comes last. -/
  | put (rule : Rule)
  /-- Switches the first rule with the id on or off. -/
  | toggle (id : String)
  /-- Takes out every rule with the id. -/
  | delete (id : String)
  deriving DecidableEq

structure UnknownRule where
  id : String
  deriving DecidableEq, Repr

/-- The rule, switched on if it is off and off if it is on. -/
def Rule.toggled (r : Rule) : Rule :=
  { r with isActive := !r.isActive }

/-- Replaces the first rule with the same id, or adds the rule at the end. -/
def putRule (r : Rule) : List Rule → List Rule
  | [] => [r]
  | other :: rest => if other.id = r.id then r :: rest else other :: putRule r rest

/-- Toggles the first rule with an id. -/
def toggleRule? (id : String) : List Rule → Option (List Rule)
  | [] => none
  | r :: rest =>
    if r.id = id then some (r.toggled :: rest) else (toggleRule? id rest).map (r :: ·)

/-- Deletes the rules with an id, if there are any. -/
def deleteRule? (id : String) (rules : List Rule) : Option (List Rule) :=
  if (findRule? rules id).isSome then some (rules.filter (·.id != id)) else none

/-- The list of rules after an edit. -/
def Edit.apply (edit : Edit) (rules : List Rule) : Except UnknownRule (List Rule) :=
  match edit with
  | replaceAll new => .ok new
  | put r => .ok (putRule r rules)
  | toggle id =>
    match toggleRule? id rules with
    | some new => .ok new
    | none => .error ⟨id⟩
  | delete id =>
    match deleteRule? id rules with
    | some new => .ok new
    | none => .error ⟨id⟩

end Exclusion
