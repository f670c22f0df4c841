/-
# Exclusion.CommandLine.Run -- the commands

Every command reads its files, calls the library and tells what came of it, as a text for people or as
JSON for programs.
-/
import Exclusion.CommandLine.Command
import Exclusion.CommandLine.Dialogue
import Exclusion.Config.Toml
import Exclusion.Workspace.Scheduler

namespace Exclusion.CommandLine

set_option autoImplicit false

open Exclusion.Json

/-! ## Failures -/

inductive CommandError where
  | unreadableConfig (path : String) (cause : FileError)
  | config (cause : ConfigError)
  | unreadable (path : String) (cause : FileError)
  /-- The file is no JSON text, or not of the type that is read at once. -/
  | unparsable (path : String)
  /-- The JSON value of a file is no rule book. -/
  | undecodable (cause : DecodeError)
  | unwritable (path : String) (cause : FileError)
  | invalid (issues : List Issue)
  | setup (cause : SetupError)
  | workspace (cause : WorkspaceError)
  | endlessWindow
  deriving DecidableEq, Repr

/-- What is said of a value that cannot be decoded. -/
def decodeMessage : DecodeError → String
  | .stopped .malformed => "malformed JSON"
  | .stopped .truncated => "JSON ends too early"
  | .mismatch cause => cause.message

def workspaceMessage : WorkspaceError → String
  | .invalid issues => issuesMessage issues
  | .unreachable => unreachableMessage
  | .audit .noCapacity => "audit error: " ++ AuditLog.noCapacityMessage
  | .audit (.undecodable cause) => "audit error: serialization error: " ++ decodeMessage cause
  | .undecodable cause => "serialization error: " ++ decodeMessage cause
  | .unknownRule id => unknownRuleMessage id

def CommandError.message : CommandError → String
  | unreadableConfig path cause => "failed to read config " ++ path ++ ": " ++ cause.message
  | config .undecodable => "configuration error"
  | config (.flawed flaw) => (SetupError.flawed flaw).message
  | unreadable path cause => "failed to read " ++ path ++ ": " ++ cause.message
  | unparsable path => "failed to parse " ++ path
  | undecodable cause => decodeMessage cause
  | unwritable path cause => "failed to write " ++ path ++ ": " ++ cause.message
  | invalid issues => issuesMessage issues
  | setup cause => cause.message
  | workspace cause => workspaceMessage cause
  | endlessWindow => endlessWindowMessage

/-- The exit status of the program for an error. -/
def CommandError.exitCode : CommandError → Nat
  | endlessWindow => 101
  | _ => 1

/-- A command at work. -/
abbrev Task (α : Type) : Type :=
  ExceptT CommandError Dialogue α

namespace Task

variable {α : Type}

def fail (cause : CommandError) : Task α :=
  ExceptT.mk (.done (.error cause))

/-- A result that needs no files. -/
def ofExcept {ε : Type} (failure : ε → CommandError) (result : Except ε α) : Task α :=
  ExceptT.mk (.done (result.mapError failure))

def tryRead (path : String) : Task (Except FileError String) :=
  ExceptT.mk (.read path fun reply => .done (.ok reply))

def write (path text : String) : Task Unit :=
  ExceptT.mk (.write path text fun reply => .done (reply.mapError (.unwritable path)))

def read (path : String) (failure : FileError → CommandError) : Task String := do
  ofExcept failure (← tryRead path)

end Task

/-! ## Files -/

/-- The rule book of a text; `path` is where the text was read. -/
def bookOf (path text : String) : Task RuleBook := do
  let v ← .ofExcept (fun _ => .unparsable path) (Codec.json.readText text)
  .ofExcept .undecodable (RuleBook.ofJson v)

/-- Reads a rule book or a list of rules. -/
def readBook (path : String) : Task RuleBook := do
  bookOf path (← Task.read path (.unreadable path))

/-- Reads a rule book; none if there is no such file. -/
def readBook? (path : String) : Task (Option RuleBook) := do
  match ← Task.tryRead path with
  | .ok text => return some (← bookOf path text)
  | .error .notFound | .error .notDirectory | .error .nameTooLong => return none
  | .error cause => Task.fail (.unreadable path cause)

def readPage (path : String) : Task PageContext := do
  let text ← Task.read path (.unreadable path)
  .ofExcept (fun _ => .unparsable path) (PageContext.codec.readText text)

/-- Reads the configuration; the usual one if none is named. -/
def readConfig (path? : Option String) : Task Config := do
  match path? with
  | none => return {}
  | some path =>
    let text ← Task.read path (.unreadableConfig path)
    .ofExcept .config (Config.ofToml text)

/-! ## Commands -/

/-- What a run of the program is given beside its command line and files. -/
structure Circumstances where
  now : Instant
  stamp : Stamp
  /-- How long evaluating rules takes, in microseconds. -/
  duration : Nat

/-- What is left to do when a command has read its files. -/
inductive Outcome where
  | print (text : String)
  /-- To sweep again and again, and to print each report. -/
  | watch (scheduler : Scheduler) (world : World)

def lines (texts : List String) : String :=
  .join (texts.map (· ++ "\n"))

def prettyLine (v : Json) : String :=
  v.pretty ++ "\n"

/-- What is told of a rule: its outcome and the tokens found, and if all is to be told its
conditions. -/
def ruleLines (all : Bool) (t : RuleTrace) : List String :=
  let reason := match t.skipReason with
    | some reason => " (" ++ reason ++ ")"
    | none => ""
  let first := "  [" ++ t.outcome.name ++ "] " ++ t.ruleName ++ " -> " ++ t.effect ++ " " ++
    t.selector ++ reason
  let tokens :=
    if t.matchedTokens.isEmpty then [] else ["      matched: " ++ ", ".intercalate t.matchedTokens]
  let conditions := t.conditions.map fun c =>
    "      " ++ (if c.matched then "+" else "-") ++ " " ++ c.display
  first :: tokens ++ if all then conditions else []

/-- What is told of an evaluation: how many rules fired, and those rules or all. -/
def traceText (all : Bool) (trace : EvaluationTrace) : String :=
  let count (n : Nat) : String := Number.renderInt n
  let first := count trace.matchedRules.length ++ " of " ++ count trace.rules.length ++
    " rules fired (" ++ count trace.skipped ++ " skipped, " ++ count trace.duration ++ "us)"
  let told := trace.rules.filter fun t => all || t.outcome == .matched
  lines (first :: told.flatMap (ruleLines all))

def eval (rules page : String) (at? : Option Instant) (all : Bool) (format : Format)
    (given : Circumstances) : Task String := do
  let book ← readBook rules
  let page ← readPage page
  let trace := traceRules book.rules page (at?.getD given.now) given.duration
  return match format with
  | .json => prettyLine (EvaluationTrace.codec.encode trace)
  | .text => traceText all trace

/-- Compiles rules, into a file or for printing. -/
def compile (rules : String) (output : Option String) (strict : Bool) (format : Format)
    (given : Circumstances) : Task String := do
  let book ← readBook rules
  if strict && !isValidRuleSet book.rules then
    Task.fail (.invalid (ruleSetIssues book.rules))
  else
    let compiled := Script.compile book.rules given.now
    match output with
    | some path => Task.write path compiled.source
    | none => pure ()
    let size := compiled.source.utf8ByteSize
    return match format, output with
    | .json, output => prettyLine (.ofMembers [
        ("rule_count", .int compiled.ruleCount),
        ("placeholder", .bool compiled.isPlaceholder),
        ("generated_at", .string compiled.generatedAt.render),
        ("bytes", .int size),
        ("source", if output.isSome then .null else .string compiled.source)])
    | .text, none => compiled.source
    | .text, some path =>
      "Compiled " ++ Number.renderInt compiled.ruleCount ++ " active rule(s) into " ++ path ++
        " (" ++ Number.renderInt size ++ " bytes).\n"

/-- Describes the change from one list of rules to another, or the publication of the new one. -/
def diff (old new : String) (publish : Bool) (config : Config) (format : Format) : Task String := do
  let old := (← readBook old).rules
  let new := (← readBook new).rules
  let change :=
    if publish then Change.published config.environment (activeRules new).length
    else Change.ofEdit old new
  return match format with
  | .json => prettyLine (.ofMembers [
      ("action", .string change.action.name),
      ("details", .string change.details),
      ("rule_id", Codec.string.option.encode change.ruleId)])
  | .text => change.action.name ++ ": " ++ change.details ++ "\n"

/-- What is told of a sweep. -/
def reportText (format : Format) (report : SweepReport) : String :=
  match format, report with
  | .json, report => SweepReport.codec.text report ++ "\n"
  | .text, .noRules => "No rules stored.\n"
  | .text, .noTransitions checked =>
    "Checked " ++ Number.renderInt checked ++ " rule(s), none crossing a schedule boundary.\n"
  | .text, .purgeTriggered found purge =>
    lines (found.map (fun t =>
        t.ruleName ++ " (" ++ t.ruleId ++ ") " ++ t.boundary.name ++ " at " ++ t.date.renderOffset) ++
      ["Purge: " ++ PurgeStatus.codec.text purge])

/-- The configuration with the settings of the command line in place of its own. -/
def sweepConfig (config : Config) (window interval : Option Nat) : Config :=
  { config with
    sweep := { config.sweep with
      windowSeconds := window.getD config.sweep.windowSeconds
      intervalSeconds := interval.getD config.sweep.intervalSeconds } }

/-- The result of an action in a world, and the world after it. -/
def ofAction {α : Type} (action : Action α) (world : World) : Task (α × World) :=
  match action.run world with
  | (.ok a, world) => pure (a, world)
  | (.error (.error cause), _) => Task.fail (.workspace cause)
  | (.error .endlessWindow, _) => Task.fail .endlessWindow

/-- Finds the rules that start or end about now, once or again and again. -/
def sweep (rules : String) (at? : Option Instant) (watch : Bool) (config : Config) (format : Format)
    (given : Circumstances) : Task Outcome := do
  let workspace ← .ofExcept .setup (Workspace.ofConfig config false)
  let book ← readBook rules
  let (_, world) ← ofAction (workspace.edit given.stamp "cli" (.replaceAll book.rules)) {}
  if watch then
    return .watch (← .ofExcept .setup (Scheduler.ofParts (some workspace) none)) world
  else
    let (report, _) ← ofAction (workspace.sweep (at?.getD given.now)) world
    return .print (reportText format report)

/-- Shows what would be served for a stored rule book. -/
def artifact (book : String) (headers : Bool) (format : Format) : Task String := do
  let artifact := Artifact.ofStored (← readBook? book)
  return match format with
  | .json => prettyLine (.ofMembers [
      ("live", .bool artifact.isLive),
      ("content_type", .string Artifact.contentType),
      ("cache_control", .string Artifact.cacheControl),
      ("body", .string artifact.body)])
  | .text =>
    let head :=
      if headers then lines (Artifact.headers.map (fun (name, value) => name ++ ": " ++ value) ++ [""])
      else ""
    head ++ artifact.body ++ if artifact.body.toList.getLast? = some '\n' then "" else "\n"

/-- Carries out a command line that is understood. -/
def perform (invocation : Invocation) (given : Circumstances) : Task Outcome := do
  let config ← readConfig invocation.config
  let format := invocation.format
  match invocation.command with
  | .eval rules page at? all => .print <$> eval rules page at? all format given
  | .compile rules output strict => .print <$> compile rules output strict format given
  | .diff old new publish => .print <$> diff old new publish config format
  | .sweep rules at? window interval watch =>
    sweep rules at? watch (sweepConfig config window interval) format given
  | .artifact book headers => .print <$> artifact book headers format

/-! ## The program -/

/-- What the program is called, with its version. -/
def versionText : String :=
  "adex 0.1.0\n"

/-- What the program says of its use. -/
def usageText : String :=
  lines [
    "Usage: adex [--config <CONFIG>] [--format <text|json>] <COMMAND>",
    "",
    "Commands:",
    "  eval      --rules <RULES> --context <CONTEXT> [--at <AT>] [--all]",
    "  compile   --rules <RULES> [--output <OUTPUT>] [--strict]",
    "  diff      --old <OLD> --new <NEW> [--publish]",
    "  sweep     --rules <RULES> [--at <AT>] [--window-seconds <N>] [--interval-seconds <N>]",
    "            [--watch]",
    "  artifact  --envelope <ENVELOPE> [--headers]"]

/-- How a run of the program ends. -/
inductive Ending where
  | exit (code : Nat) (output errors : String)
  | watch (scheduler : Scheduler) (world : World) (format : Format)

/-- The end of a command line that is not carried out. -/
def Ending.ofRefusal : Refusal → Ending
  | .usage => exit 2 "" usageText
  | .help => exit 0 usageText ""
  | .version => exit 0 versionText ""

/-- A run of the program: the words of the command line, the variable that names the configuration, and
what else it is given. -/
def program (words : List String) (envConfig : Option String) (given : Circumstances) :
    Dialogue Ending :=
  match read words envConfig with
  | .error refusal => .done (.ofRefusal refusal)
  | .ok invocation => do
    match ← (perform invocation given).run with
    | .ok (.print text) => return .exit 0 text ""
    | .ok (.watch scheduler world) => return .watch scheduler world invocation.format
    | .error cause => return .exit cause.exitCode "" ("Error: " ++ cause.message ++ "\n")

end Exclusion.CommandLine
