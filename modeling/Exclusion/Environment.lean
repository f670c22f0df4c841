/-
# Exclusion.Environment -- where rules are published to

Rules live in one of two environments, which share nothing.  An environment is always named by the
configuration.
-/
import Exclusion.Audit.Entry
import Exclusion.Text.Blank
import Exclusion.Text.Lowercase

namespace Exclusion

set_option autoImplicit false

open Exclusion.Json

inductive Environment where
  | dev
  | prod
  deriving DecidableEq, Repr, Inhabited

namespace Environment

def standard : Environment := prod

def name : Environment → String
  | dev => "dev"
  | prod => "prod"

/-- The name under which the rules of an environment are stored. -/
def rulesId : Environment → String
  | dev => "rules_data_dev"
  | prod => "rules_data"

/-- What publishing to an environment is called in the audit log. -/
def publication : Environment → AuditAction
  | dev => .publishDev
  | prod => .publishProd

def codec : Codec Environment :=
  .names name [dev, prod] none

/-- A name as it is looked up: trimmed, its ASCII letters in lower case. -/
def spelling (text : String) : String :=
  Text.lowercaseAscii (Text.trim text)

/-- The environment that a text names, in short or in full, in any case. -/
def parse? (text : String) : Option Environment :=
  match spelling text with
  | "dev" | "development" => some dev
  | "prod" | "production" => some prod
  | _ => none

/-- What is said of a text that names no environment. -/
def unknownMessage (text : String) : String :=
  "unknown environment: " ++ spelling text

end Environment

end Exclusion
