/-
# Exclusion.CommandLine.Command -- what a command line asks for

A command line names one of five commands.  The configuration and the format of the output may be given
before or after the name; what comes after counts.  The configuration may also be named by a variable
of the environment.
-/
import Exclusion.CommandLine.Option

namespace Exclusion.CommandLine

set_option autoImplicit false

inductive Format where
  | text
  | json
  deriving DecidableEq, Repr

inductive Command where
  | eval (rules page : String) (at? : Option Instant) (all : Bool)
  | compile (rules : String) (output : Option String) (strict : Bool)
  | diff (old new : String) (publish : Bool)
  | sweep (rules : String) (at? : Option Instant) (window interval : Option Nat) (watch : Bool)
  | artifact (book : String) (headers : Bool)
  deriving DecidableEq

/-- A command line that is understood. -/
structure Invocation where
  command : Command
  config : Option String
  format : Format
  deriving DecidableEq

/-- The options that any command takes. -/
def commonOptions : List OptionSpec :=
  [{ name := "config", kind := .path }, { name := "format", kind := .format }]

/-- The options of a command, if there is such a command. -/
def optionsOf? : String → Option (List OptionSpec)
  | "eval" => some [
    { name := "rules", kind := .path }, { name := "context", kind := .path },
    { name := "at", kind := .instant }, { name := "all", kind := .nothing }]
  | "compile" => some [
    { name := "rules", kind := .path }, { name := "output", kind := .path, letter := some 'o' },
    { name := "strict", kind := .nothing }]
  | "diff" => some [
    { name := "old", kind := .path }, { name := "new", kind := .path },
    { name := "publish", kind := .nothing }]
  | "sweep" => some [
    { name := "rules", kind := .path }, { name := "at", kind := .instant },
    { name := "window-seconds", kind := .count }, { name := "watch", kind := .nothing },
    { name := "interval-seconds", kind := .count }]
  | "artifact" => some [
    { name := "envelope", kind := .path }, { name := "headers", kind := .nothing }]
  | _ => none

/-- The command of a name and the options given for it, if nothing is missing. -/
def commandOf? (name : String) (given : List Given) : Option Command :=
  let instant := (value? given "at").bind Instant.parse?
  let count (name : String) : Option Nat := (value? given name).bind readCount?
  match name with
  | "eval" => do
    return .eval (← value? given "rules") (← value? given "context") instant (isGiven given "all")
  | "compile" => do
    return .compile (← value? given "rules") (value? given "output") (isGiven given "strict")
  | "diff" => do
    return .diff (← value? given "old") (← value? given "new") (isGiven given "publish")
  | "sweep" => do
    return .sweep (← value? given "rules") instant (count "window-seconds")
      (count "interval-seconds") (isGiven given "watch")
  | "artifact" => do
    return .artifact (← value? given "envelope") (isGiven given "headers")
  | _ => none

/-- The value of a common option: the one after the command's name before the one ahead of it. -/
def commonValue? (before after : List Given) (name : String) : Option String :=
  value? after name <|> value? before name

/-- The configuration: from the options, else from the variable.  A variable that is empty is refused
where it would have been looked at. -/
def configPath (before after : List Given) (envConfig : Option String) :
    Except Refusal (Option String) :=
  if envConfig = some "" ∧ !(isGiven before "config" && isGiven after "config") then .error .usage
  else .ok (commonValue? before after "config" <|> envConfig)

def helpOn : List String → Refusal
  | [] => .help
  | [name] => if (optionsOf? name).isSome || name == "help" then .help else .usage
  | _ => .usage

/-- What the words of a command line ask for; `envConfig` is the variable that names the
configuration. -/
def read (words : List String) (envConfig : Option String) : Except Refusal Invocation := do
  let (before, rest) ← readOptions commonOptions true words []
  match rest with
  | [] => .error .usage
  | name :: rest =>
    match optionsOf? name with
    | none => .error (if name == "help" then helpOn rest else .usage)
    | some own =>
      let (after, left) ← readOptions (commonOptions ++ own) false rest []
      if !left.isEmpty then .error .usage
      else
        let config ← configPath before after envConfig
        let format := if commonValue? before after "format" = some "json" then .json else .text
        match commandOf? name after with
        | some command => return { command, config, format }
        | none => .error .usage

end Exclusion.CommandLine
