/-
# Exclusion.Json.Decode -- what is wrong with a text or a value that should hold a certain type

A decoder looks at a node and either makes a value of its type or says what is wrong.  It meets a
node in one of three ways (`Source`): in a text, where the text may stop being JSON and nesting is
limited; in a value, which is whole; or in a part of either that was set aside until the name of its
type was known.  Whatever comes first in the order of the text is reported.
-/
import Exclusion.Json.Scan
import Exclusion.Text.Quoted

namespace Exclusion.Json

set_option autoImplicit false

/-! ## Causes -/

/-- What stands where something else was expected. -/
inductive Found where
  | null
  | bool (b : Bool)
  | number (n : Number)
  | string (s : String)
  | sequence
  | map
  /-- A name alone, without a value. -/
  | unitVariant
  deriving DecidableEq, Repr

/-- Why a well-formed value is not of the type that was asked for. -/
inductive Mismatch where
  | missingField (name : String)
  | duplicateField (name : String)
  | unknownVariant (name : String) (expected : List String)
  | wrongType (found : Found) (expected : String)
  | wrongValue (found : Found) (expected : String)
  | wrongLength (count : Nat) (expected : String)
  | illegalTimestamp (milliseconds : Int)
  | illegalDate
  deriving DecidableEq, Repr

/-- Why nothing was decoded: the text is not JSON, or its value is of another type. -/
inductive DecodeError where
  | stopped (stop : Stop)
  | mismatch (cause : Mismatch)
  deriving DecidableEq, Repr

/-! ## Wording -/

def backquoted (s : String) : String :=
  .ofList ('\x60' :: s.toList ++ ['\x60'])

def Found.message : Found → String
  | .null => "null"
  | .bool b => "boolean " ++ backquoted (if b then "true" else "false")
  | .number (.int i) => "integer " ++ backquoted (Number.renderInt i)
  | .number (.float x) => "floating point " ++ backquoted (Number.renderFloat x)
  | .string s => "string " ++ Text.quoted s
  | .sequence => "sequence"
  | .map => "map"
  | .unitVariant => "unit variant"

/-- The names that would have been accepted, in words. -/
def alternatives : List String → String
  | [a, b] => backquoted a ++ " or " ++ backquoted b
  | [a] => backquoted a
  | names => "one of " ++ ", ".intercalate (names.map backquoted)

def Mismatch.message : Mismatch → String
  | .missingField name => "missing field " ++ backquoted name
  | .duplicateField name => "duplicate field " ++ backquoted name
  | .unknownVariant name [] => "unknown variant " ++ backquoted name ++ ", there are no variants"
  | .unknownVariant name expected =>
    "unknown variant " ++ backquoted name ++ ", expected " ++ alternatives expected
  | .wrongType found expected => "invalid type: " ++ found.message ++ ", expected " ++ expected
  | .wrongValue found expected => "invalid value: " ++ found.message ++ ", expected " ++ expected
  | .wrongLength count expected =>
    "invalid length " ++ Number.renderInt count ++ ", expected " ++ expected
  | .illegalTimestamp ms => "value is not a legal timestamp: " ++ Number.renderInt ms
  | .illegalDate => "invalid date"

/-! ## Sources -/

/-- How a decoder meets a node. -/
inductive Source where
  /-- In a text, with so many levels of arrays and objects left. -/
  | text (levels : Nat)
  | value
  | setAside
  deriving DecidableEq, Repr

/-- How deep the arrays and objects of a text may be nested. -/
def maxLevels : Nat := 127

def stopped {α : Type} (s : Stop) : Except DecodeError α :=
  .error (.stopped s)

def mismatched {α : Type} (m : Mismatch) : Except DecodeError α :=
  .error (.mismatch m)

def Source.enter : Source → Except DecodeError Source
  | .text 0 => stopped .malformed
  | .text (levels + 1) => .ok (.text levels)
  | source => .ok source

/-! ## Nodes -/

namespace Node

/-- What stands at a node, for a decoder that wanted something else. -/
def found : Node → Except DecodeError Found
  | .null => .ok .null
  | .bool b => .ok (.bool b)
  | .number (some n) => .ok (.number n)
  | .number none => stopped .malformed
  | .string (some s) => .ok (.string s)
  | .string none => stopped .malformed
  | .array _ _ => .ok .sequence
  | .object _ _ => .ok .map
  | .broken fault => stopped fault.reading

/-- The failure of a decoder that wanted something else than what stands here. -/
def wrongType {α : Type} (node : Node) (expected : String) : Except DecodeError α := do
  mismatched (.wrongType (← node.found) expected)

/-- The end of an array or an object, for a reader that has taken all of its content. -/
def finish : Ending → Except DecodeError Unit
  | .closed => .ok ()
  | .severed fault _ => stopped fault.reading

/-- The end of an array or an object, for a reader that passes over it. -/
def finishSkipping : Ending → Except DecodeError Unit
  | .closed => .ok ()
  | .severed fault _ => stopped fault.skipping

/-- The end of a text's array or object for a reader that has all it wants while `left` items or
members are not read: only the closing bracket may follow. -/
def finishEarly (left : Nat) : Ending → Except DecodeError Unit
  | .closed => if left = 0 then .ok () else stopped .malformed
  | .severed fault afterComma =>
    if left = 0 ∧ !afterComma then stopped fault.reading else stopped .malformed

mutual

/-- Passes over a value that nobody wants.  Only its form counts: neither depth nor great numbers nor
unpaired escapes matter. -/
def skip : Node → Except DecodeError Unit
  | .array items ending => do skipItems items; finishSkipping ending
  | .object members ending => do skipMembers members; finishSkipping ending
  | .broken fault => stopped fault.skipping
  | .null | .bool _ | .number _ | .string _ => .ok ()

def skipItems : List Node → Except DecodeError Unit
  | [] => .ok ()
  | item :: rest => do skip item; skipItems rest

def skipMembers : List (Option String × Node) → Except DecodeError Unit
  | [] => .ok ()
  | (_, item) :: rest => do skip item; skipMembers rest

end

mutual

/-- The value of a node of any type, the members of its objects sorted by key. -/
def toJson (source : Source) : Node → Except DecodeError Json
  | .null => .ok .null
  | .bool b => .ok (.bool b)
  | .number (some n) => .ok (.number n)
  | .string (some s) => .ok (.string s)
  | .number none | .string none => stopped .malformed
  | .array items ending => do
    let items ← toJsons (← source.enter) items
    finish ending
    return .array items
  | .object members ending => do
    let members ← toJsonMembers (← source.enter) members
    finish ending
    return .ofMembers members
  | .broken fault => stopped fault.reading

def toJsons (source : Source) : List Node → Except DecodeError (List Json)
  | [] => .ok []
  | item :: rest => do
    let v ← toJson source item
    let vs ← toJsons source rest
    return v :: vs

def toJsonMembers (source : Source) :
    List (Option String × Node) → Except DecodeError (List (String × Json))
  | [] => .ok []
  | (none, _) :: _ => stopped .malformed
  | (some k, item) :: rest => do
    let v ← toJson source item
    let vs ← toJsonMembers source rest
    return (k, v) :: vs

end

end Node

end Exclusion.Json
