/-
# Exclusion.CommandLine.Option -- options among the words of a command line

An option begins with two dashes, or with one dash and its letter.  Its value is in the next word, or in
the same word after an equals sign.  A value in a word of its own does not begin with a dash, unless it
is only that.  No option may be given twice.
-/
import Exclusion.Json.Number
import Exclusion.Text.Digit
import Exclusion.Text.Split
import Exclusion.Time.Rfc3339

namespace Exclusion.CommandLine

set_option autoImplicit false

open Exclusion.Text

/-- What an option wants after it. -/
inductive ValueKind where
  | nothing
  | path
  | format
  | instant
  /-- A whole number of 64 bits without sign. -/
  | count
  deriving DecidableEq, Repr

/-- An option: its name, its letter if it has one, and its value. -/
structure OptionSpec where
  name : String
  kind : ValueKind
  letter : Option Char := none
  deriving DecidableEq, Repr

/-- Why a command line is not carried out. -/
inductive Refusal where
  | usage
  | help
  | version
  deriving DecidableEq, Repr

/-- An option that was given, with its value. -/
structure Given where
  name : String
  value : String
  deriving DecidableEq, Repr

/-! ## Values -/

/-- The number in a text of digits, perhaps after a plus sign. -/
def readCount? (text : String) : Option Nat :=
  let digits := match text.toList with
    | '+' :: rest => rest
    | cs => cs
  if digits.isEmpty || !digits.all isDigit then none
  else
    let n := digitsValue digits
    if n ≤ Json.Number.maxNatural then some n else none

def ValueKind.admits (kind : ValueKind) (value : String) : Bool :=
  match kind with
  | nothing => false
  | path => value != ""
  | format => value == "text" || value == "json"
  | instant => (Instant.parse? value).isSome
  | count => (readCount? value).isSome

/-! ## Options -/

def value? (given : List Given) (name : String) : Option String :=
  (given.find? (·.name == name)).map (·.value)

def isGiven (given : List Given) (name : String) : Bool :=
  (value? given name).isSome

def give (spec : OptionSpec) (value : String) (given : List Given) : Except Refusal (List Given) :=
  if isGiven given spec.name then .error .usage
  else .ok (given ++ [⟨spec.name, value⟩])

def giveValue (spec : OptionSpec) (value : String) (given : List Given) :
    Except Refusal (List Given) :=
  if spec.kind.admits value then give spec value given else .error .usage

/-- A word that can be the value of the option before it. -/
def isSeparateValue (word : String) : Bool :=
  word == "-" || word.toList.head? != some '-'

/-- A word after its dashes, cut at the first equals sign. -/
def cutAtEquals (cs : List Char) : String × Option String :=
  let name := cs.takeWhile (· != '=')
  match cs.drop name.length with
  | _ :: value => (.ofList name, some (.ofList value))
  | [] => (.ofList name, none)

/-- What a word of options comes to: options with their values, and perhaps one whose value is the
next word. -/
structure WordReading where
  given : List Given
  pending : Option OptionSpec := none

/-- Reads a word that begins with two dashes; `cs` is what follows these. -/
def readLong (specs : List OptionSpec) (hasVersion : Bool) (cs : List Char) (given : List Given) :
    Except Refusal WordReading := do
  let (name, value) := cutAtEquals cs
  if name == "help" || (hasVersion && name == "version") then
    if value.isSome then .error .usage
    else .error (if name == "help" then .help else .version)
  else
    match specs.find? (·.name == name), value with
    | none, _ => .error .usage
    | some spec, value =>
      match decide (spec.kind = .nothing), value with
      | true, none => return { given := ← give spec "" given }
      | true, some _ => .error .usage
      | false, some value => return { given := ← giveValue spec value given }
      | false, none => return { given, pending := some spec }

/-- Reads the letters of a word that begins with one dash. -/
def readLetters (specs : List OptionSpec) (hasVersion : Bool) (given : List Given) :
    List Char → Except Refusal WordReading
  | [] => .ok { given }
  | c :: rest =>
    if c = 'h' then .error .help
    else if c = 'V' ∧ hasVersion then .error .version
    else
      match specs.find? (·.letter == some c) with
      | none => .error .usage
      | some spec =>
        if spec.kind = .nothing then do
          readLetters specs hasVersion (← give spec "" given) rest
        else
          match rest with
          | [] => .ok { given, pending := some spec }
          | '=' :: value => (giveValue spec (.ofList value) given).map fun given => { given }
          | value => (giveValue spec (.ofList value) given).map fun given => { given }

/-- Reads options up to the first word that is none: what is given, and the words from there on.  Two
dashes alone end the options. -/
def readOptions (specs : List OptionSpec) (hasVersion : Bool) :
    List String → List Given → Except Refusal (List Given × List String)
  | [], given => .ok (given, [])
  | word :: rest, given =>
    match word.toList with
    | '-' :: '-' :: [] => if rest.isEmpty then .ok (given, []) else .error .usage
    | '-' :: c :: cs => do
      let reading ←
        if c = '-' then readLong specs hasVersion cs given
        else readLetters specs hasVersion given (c :: cs)
      match reading.pending, rest with
      | none, rest => readOptions specs hasVersion rest reading.given
      | some _, [] => .error .usage
      | some spec, value :: rest =>
        if isSeparateValue value then do
          readOptions specs hasVersion rest (← giveValue spec value reading.given)
        else .error .usage
    | _ => .ok (given, word :: rest)

end Exclusion.CommandLine
