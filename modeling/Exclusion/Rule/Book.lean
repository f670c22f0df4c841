/-
# Exclusion.Rule.Book -- stored rules with the script published from them

A rule book is what is stored for one environment: the rules as they were last saved, and the script
as it was last published, which may be older.
-/
import Exclusion.Rule.Basic

namespace Exclusion

set_option autoImplicit false

open Exclusion.Json

/-- Stored rules and the script that was last published. -/
structure RuleBook where
  rules : List Rule := []
  script : String := ""
  deriving DecidableEq

/-- The rule with this id; the first one if there are several. -/
def findRule? (rules : List Rule) (id : String) : Option Rule :=
  rules.find? (·.id == id)

def activeRules (rules : List Rule) : List Rule :=
  rules.filter (·.isActive)

namespace RuleBook

def hasActiveRules (book : RuleBook) : Bool :=
  book.rules.any (·.isActive)

theorem hasActiveRules_iff {book : RuleBook} :
    book.hasActiveRules = true ↔ activeRules book.rules ≠ [] := by
  simp [hasActiveRules, activeRules, List.filter_eq_nil_iff]

def fields : Fields RuleBook [List Rule, String] :=
  .cons (.default "rules" rules Rule.listCodec []) <|
  .cons (.default "script" script .string "") .nil

def codec : Codec RuleBook :=
  .record "struct RuleSetEnvelope" fields fun (rules, script, ()) => { rules, script }

/-- Reads a rule book from a JSON value; a list of rules is a book without a script. -/
def ofJson (v : Json) : Except DecodeError RuleBook :=
  match v with
  | .array _ => (Rule.listCodec.readValue v).map fun rules => { rules }
  | _ => codec.readValue v

end RuleBook

end Exclusion
