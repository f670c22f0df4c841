/-
# Exclusion.Script.Compile -- the script that is published for a list of rules

A published script is a header with time and number of rules, the active rules as JSON on one line,
and the interpreter.  Without an active rule it is the placeholder.  `readPayload` finds the rules in
a script again.  The JSON is written so that it cannot end the script element that holds it, nor the
line on which it stands.
-/
import Exclusion.Script.Interpreter
import Exclusion.Script.Payload

namespace Exclusion.Script

set_option autoImplicit false

open Exclusion.Json

/-- What is served when no rule is live. -/
def placeholder : String :=
  "/* AdExclusion: No rules found */"

/-- The script is the placeholder, white space around it aside. -/
def isPlaceholder (script : String) : Bool :=
  Text.trim script == placeholder

/-! ## Writing -/

/-- A character of JSON as it stands in a script. -/
def safeChar (c : Char) : List Char :=
  if c = '<' then "\\u003c".toList
  else if c = '\u2028' then "\\u2028".toList
  else if c = '\u2029' then "\\u2029".toList
  else [c]

/-- JSON as it stands in a script. -/
def safeChars (json : List Char) : List Char :=
  json.flatMap safeChar

/-- What the header line begins with. -/
def headerStart : String :=
  "/** AdExclusion Live Engine | Generated: "

/-- What stands in the header line between time and count. -/
def headerMiddle : String :=
  " | Rules: "

/-- The header line of a script for so many rules. -/
def header (generatedAt : Instant) (count : Nat) : String :=
  headerStart ++ generatedAt.renderMillis ++ headerMiddle ++ Number.renderInt count ++ " */\n"

def opening : String :=
  "(function () \x7b\n  \"use strict\";\n"

/-- What the line with the rules begins with. -/
def payloadStart : String :=
  "  const rules = "

/-- The rules as they stand in a script. -/
def payloadData (published : List PublishedRule) : String :=
  .ofList (safeChars (PublishedRule.listCodec.encode published).chars)

/-- The line with the rules. -/
def payloadLine (published : List PublishedRule) : String :=
  payloadStart ++ payloadData published ++ ";\n"

def closing : String :=
  "\x7d)();\n"

/-- A script after its header. -/
def body (published : List PublishedRule) : String :=
  opening ++ payloadLine published ++ interpreter ++ closing

/-- A script as it was compiled. -/
structure Compiled where
  source : String
  ruleCount : Nat
  generatedAt : Instant
  deriving DecidableEq

/-- The script for a list of rules. -/
def compile (rules : List Rule) (generatedAt : Instant) : Compiled :=
  match payload rules with
  | [] => ⟨placeholder, 0, generatedAt⟩
  | published => ⟨header generatedAt published.length ++ body published, published.length, generatedAt⟩

def Compiled.isPlaceholder (compiled : Compiled) : Bool :=
  Script.isPlaceholder compiled.source

/-! ## Reading -/

/-- Why no rules can be read from a script. -/
inductive PayloadError where
  /-- No line carries rules. -/
  | missing
  /-- The line does not carry rules in the form in which they are written. -/
  | undecodable (cause : DecodeError)
  deriving DecidableEq, Repr

/-- What is said of a script without rules. -/
def missingMessage : String :=
  "script does not carry an embedded rule payload"

/-- The text between the payload's beginning and the semicolon at the end of its line; the first line
that begins so counts. -/
def payloadText? (script : String) : Option String := do
  let rest ← (Text.lineChars script.toList).findSome? (Text.dropLeading? payloadStart.toList)
  let line := Text.trimEnd rest
  if line.getLast? = some ';' then some (.ofList line.dropLast) else none

/-- The rules that a script carries. -/
def readPayload (script : String) : Except PayloadError (List PublishedRule) :=
  if isPlaceholder script then .ok []
  else
    match payloadText? script with
    | none => .error .missing
    | some text => (PublishedRule.listCodec.readText text).mapError .undecodable

end Exclusion.Script
