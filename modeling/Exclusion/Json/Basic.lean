/-
# Exclusion.Json.Basic -- JSON values and their texts

A value keeps the members of an object in the order in which they are written.  `Json.chars` is the
compact text of a value, `Json.pretty` the indented one; both escape the same characters of a string.
`Json.ofMembers` builds an object whose members are sorted by key, the last of several members of
one key winning.
-/
import Exclusion.Json.Number

namespace Exclusion

set_option autoImplicit false

inductive Json where
  | null
  | bool (b : Bool)
  | number (n : Json.Number)
  | string (s : String)
  | array (items : List Json)
  | object (members : List (String × Json))
  deriving Repr, Inhabited

namespace Json

def int (i : Int) : Json :=
  .number (.int i)

/-! ## Strings -/

/-- A character of a string: quotes, backslashes and control characters are escaped. -/
def escapedChar (c : Char) : List Char :=
  if c = '"' ∨ c = '\\' then ['\\', c]
  else if c = '\x08' then ['\\', 'b']
  else if c = '\t' then ['\\', 't']
  else if c = '\n' then ['\\', 'n']
  else if c = '\x0c' then ['\\', 'f']
  else if c = '\r' then ['\\', 'r']
  else if c.toNat < 0x20 then
    ['\\', 'u', '0', '0', Nat.digitChar (c.toNat / 16), Nat.digitChar (c.toNat % 16)]
  else [c]

/-- A string between its quotes. -/
def stringChars (s : String) : List Char :=
  '"' :: s.toList.flatMap escapedChar ++ ['"']

/-! ## Compact text -/

mutual

/-- The compact text of a value. -/
def chars : Json → List Char
  | .null => "null".toList
  | .bool b => (if b then "true" else "false").toList
  | .number n => n.render.toList
  | .string s => stringChars s
  | .array items => '[' :: itemChars items ++ [']']
  | .object members => '\x7b' :: memberChars members ++ ['\x7d']

def itemChars : List Json → List Char
  | [] => []
  | [v] => chars v
  | v :: w :: rest => chars v ++ ',' :: itemChars (w :: rest)

def memberChars : List (String × Json) → List Char
  | [] => []
  | [(k, v)] => stringChars k ++ ':' :: chars v
  | (k, v) :: m :: rest => stringChars k ++ ':' :: chars v ++ ',' :: memberChars (m :: rest)

end

/-- The compact text of a value. -/
def render (v : Json) : String :=
  .ofList v.chars

/-! ## Indented text -/

/-- A line feed and two spaces for each level. -/
def lineBreak (level : Nat) : List Char :=
  '\n' :: List.replicate (2 * level) ' '

mutual

/-- The indented text of a value at a level. -/
def prettyChars (level : Nat) : Json → List Char
  | .array (v :: rest) =>
    '[' :: lineBreak (level + 1) ++ prettyItems (level + 1) (v :: rest) ++ lineBreak level ++ [']']
  | .object (m :: rest) =>
    '\x7b' :: lineBreak (level + 1) ++ prettyMembers (level + 1) (m :: rest) ++ lineBreak level ++
      ['\x7d']
  | .null => chars .null
  | .bool b => chars (.bool b)
  | .number n => chars (.number n)
  | .string s => chars (.string s)
  | .array [] => chars (.array [])
  | .object [] => chars (.object [])

def prettyItems (level : Nat) : List Json → List Char
  | [] => []
  | [v] => prettyChars level v
  | v :: w :: rest => prettyChars level v ++ ',' :: lineBreak level ++ prettyItems level (w :: rest)

def prettyMembers (level : Nat) : List (String × Json) → List Char
  | [] => []
  | [(k, v)] => stringChars k ++ ':' :: ' ' :: prettyChars level v
  | (k, v) :: m :: rest =>
    stringChars k ++ ':' :: ' ' :: prettyChars level v ++ ',' :: lineBreak level ++
      prettyMembers level (m :: rest)

end

def pretty (v : Json) : String :=
  .ofList (v.prettyChars 0)

/-! ## Members -/

/-- Puts a member into a list sorted by key; it takes the place of a member with the same key. -/
def insertMember (k : String) (v : Json) : List (String × Json) → List (String × Json)
  | [] => [(k, v)]
  | (k', v') :: rest =>
    if k < k' then (k, v) :: (k', v') :: rest
    else if k = k' then (k, v) :: rest
    else (k', v') :: insertMember k v rest

/-- Members sorted by key; of several with one key the last. -/
def sortMembers (members : List (String × Json)) : List (String × Json) :=
  members.foldl (fun sorted (k, v) => insertMember k v sorted) []

/-- The object with these members, sorted by key. -/
def ofMembers (members : List (String × Json)) : Json :=
  .object (sortMembers members)

/-- The member of an object with this key. -/
def member? (v : Json) (k : String) : Option Json :=
  match v with
  | .object members => members.lookup k
  | _ => none

end Json

end Exclusion
