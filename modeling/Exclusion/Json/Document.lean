/-
# Exclusion.Json.Document -- a JSON text as it is written, as far as it can be read

A `Document` is what a text shows before anybody asks for a value of some type.  It keeps the order
of members and repeated keys, strings whose escapes make no character, numbers too great for a
double, and the place at which the text stops being JSON.  A reader of some type may find the wrong
kind of value before it comes to that place, and then that is what is wrong with the text.
-/
import Exclusion.Json.Basic

namespace Exclusion.Json

set_option autoImplicit false

/-- How a text fails to be JSON: something else stands there, or it ends too early. -/
inductive Stop where
  | malformed
  | truncated
  deriving DecidableEq, Repr

/-- A place that is not JSON.  What is wrong depends on the reader: one that wants the value, one
that passes over it, or one that wants the name of a choice and looks only for a quote or a brace. -/
structure Fault where
  reading : Stop
  skipping : Stop
  naming : Stop
  deriving DecidableEq, Repr

def Stop.fault (s : Stop) : Fault :=
  ⟨s, s, s⟩

/-- How an array or an object ends. -/
inductive Ending where
  | closed
  /-- By a fault in the place of a comma, a bracket, an item or a key. -/
  | severed (fault : Fault) (afterComma : Bool)
  deriving DecidableEq, Repr

/-- What is written at some place of a text. -/
inductive Node where
  | null
  | bool (b : Bool)
  /-- A number; none if it is too great for a double. -/
  | number (n : Option Number)
  /-- A string; none if its escapes do not make characters. -/
  | string (s : Option String)
  | array (items : List Node) (ending : Ending)
  /-- An object: members in order, each key a string as above. -/
  | object (members : List (Option String × Node)) (ending : Ending)
  /-- Where a value should stand the text is not JSON. -/
  | broken (fault : Fault)
  deriving Repr, Inhabited

/-- A text: its value, and whether anything but white space follows. -/
structure Document where
  root : Node
  trailing : Bool
  deriving Repr, Inhabited

/-! ## Values as documents -/

mutual

/-- A value, seen as a document that holds it. -/
def toNode : Json → Node
  | .null => .null
  | .bool b => .bool b
  | .number n => .number (some n)
  | .string s => .string (some s)
  | .array items => .array (toNodes items) .closed
  | .object members => .object (toMembers members) .closed

def toNodes : List Json → List Node
  | [] => []
  | v :: rest => toNode v :: toNodes rest

def toMembers : List (String × Json) → List (Option String × Node)
  | [] => []
  | (k, v) :: rest => (some k, toNode v) :: toMembers rest

end

end Exclusion.Json
