/-
# Exclusion.Artifact -- what is served to pages

The stored script is served as long as some stored rule is active; otherwise, and if the script holds
no rules, the placeholder is.  A script whose rules cannot be read is served as it is.
-/
import Exclusion.Rule.Book
import Exclusion.Script.Compile

namespace Exclusion

set_option autoImplicit false

structure Artifact where
  body : String
  deriving DecidableEq, Repr

namespace Artifact

def placeholder : Artifact :=
  ⟨Script.placeholder⟩

/-- Some rule is live. -/
def isLive (artifact : Artifact) : Bool :=
  !Script.isPlaceholder artifact.body

def contentType : String :=
  "application/javascript; charset=utf-8"

/-- How long the body may be kept. -/
def cacheControl : String :=
  "public, max-age=60, s-maxage=60"

/-- The headers that go with the body, in their order. -/
def headers : List (String × String) := [
  ("Content-Type", contentType),
  ("Cache-Control", cacheControl),
  ("X-Content-Type-Options", "nosniff")]

/-- What is served for what is stored. -/
def ofStored : Option RuleBook → Artifact
  | none => placeholder
  | some book =>
    if !book.hasActiveRules || Text.isBlankText book.script then placeholder
    else
      match Script.readPayload book.script with
      | .ok [] => placeholder
      | .ok (_ :: _) | .error _ => ⟨book.script⟩

end Artifact

end Exclusion
