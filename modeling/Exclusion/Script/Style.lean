/-
# Exclusion.Script.Style -- the style rule that hides or shows a part of a page

Hiding a part also takes away its height and its space, so that no empty slot is left.
-/
import Exclusion.Rule.Basic

namespace Exclusion

set_option autoImplicit false

namespace Effect

/-- The properties that an effect sets, with their values. -/
def declarations : Effect → List (String × String)
  | hide => [
    ("display", "none"), ("visibility", "hidden"), ("pointer-events", "none"), ("height", "0"),
    ("margin", "0"), ("padding", "0")]
  | reveal => [("display", "block"), ("visibility", "visible"), ("pointer-events", "auto")]

/-- The declarations of an effect, a space between neighbours.  Each overrides what the page says. -/
def declarationText (effect : Effect) : String :=
  " ".intercalate (effect.declarations.map fun (property, value) =>
    property ++ ": " ++ value ++ " !important;")

/-- The style rule of an effect on the part of the page that the selector names. -/
def styleRule (effect : Effect) (selector : String) : String :=
  selector ++ " \x7b " ++ effect.declarationText ++ " \x7d"

end Effect

end Exclusion
