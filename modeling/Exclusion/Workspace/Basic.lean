/-
# Exclusion.Workspace.Basic -- the rules of one environment, their audit log and their artifact

A workspace keeps a rule book, an audit log and a snapshot for each entry of the log.  Whatever would
store rules validates them first.  `Workspace.edit` stores the edited rules and leaves the script as it
is; `Workspace.publish` leaves the rules and stores the script compiled from them.  Both take a
snapshot and record an entry, and drop the snapshots of entries that give way.

Everything that comes from outside, identifiers and times, is in the `Stamp` of an action.
-/
import Exclusion.Artifact
import Exclusion.Audit.Change
import Exclusion.Config.Basic
import Exclusion.Rule.Edit
import Exclusion.Rule.Evaluate
import Exclusion.Workspace.Report
import Exclusion.Workspace.World

namespace Exclusion

set_option autoImplicit false

open Exclusion.Json

/-! ## Setting up -/

/-- A workspace with a configuration that has no flaw. -/
structure Workspace where
  config : Config
  config_sound : config.flaw? = none
  /-- Purges are requested of the world's cache; otherwise all that is said to be purged is. -/
  hasCache : Bool

/-- Why a workspace or its scheduler cannot be set up. -/
inductive SetupError where
  | noStore
  | noWorkspace
  | zeroInterval
  | flawed (flaw : ConfigFlaw)
  deriving DecidableEq, Repr

def SetupError.message : SetupError → String
  | noStore => "configuration error: state store is required"
  | noWorkspace => "configuration error: workspace is required"
  | zeroInterval => "configuration error: sweep interval must be positive"
  | flawed flaw => "configuration error: " ++ flaw.message

/-- What a workspace is made of. -/
structure WorkspaceParts where
  hasStore : Bool := false
  hasCache : Bool := false
  config : Config := {}
  /-- Takes the place of the environment that the configuration names. -/
  environment : Option Environment := none
  deriving DecidableEq, Repr

/-- What identifies an action: the times at which it is done, and fresh identifiers. -/
structure Stamp where
  snapshotId : String
  entryId : String
  compiledAt : Instant
  recordedAt : Instant
  deriving DecidableEq

namespace Workspace

/-- The workspace of a configuration. -/
def ofConfig (config : Config) (hasCache : Bool) : Except SetupError Workspace :=
  match h : config.flaw? with
  | none => .ok ⟨config, h, hasCache⟩
  | some flaw => .error (.flawed flaw)

/-- The workspace made of these parts. -/
def ofParts (parts : WorkspaceParts) : Except SetupError Workspace :=
  if parts.hasStore then
    let environment := parts.environment.getD parts.config.environment
    ofConfig { parts.config with environment } parts.hasCache
  else .error .noStore

variable (ws : Workspace)

/-! ## Keys -/

def rulesKey : StoreKey :=
  .rules ws.config.space ws.config.environment

def auditKey : StoreKey :=
  .auditLog ws.config.space ws.config.environment

def snapshotKey (id : String) : StoreKey :=
  .snapshot ws.config.space id

/-! ## Reading -/

/-- Reads a stored text, or fails as undecodable. -/
def decode {α : Type} (codec : Codec α) (text : String) : Action α :=
  .ofExcept (fun cause => .error (.undecodable cause)) (codec.readText text)

/-- The stored rule book, if there is one. -/
def loadStored : Action (Option RuleBook) := do
  match ← Action.get? ws.rulesKey with
  | some text => return some (← decode RuleBook.codec text)
  | none => return none

/-- The stored rule book, or an empty one. -/
def load : Action RuleBook := do
  return (← ws.loadStored).getD {}

def snapshot (id : String) : Action (Option (List Rule)) := do
  match ← Action.get? (ws.snapshotKey id) with
  | some text => return some (← decode Rule.listCodec text)
  | none => return none

/-- The audit log that a stored text holds; an empty one if nothing is stored. -/
def auditLogOf (text? : Option String) : Except AuditError AuditLog :=
  match text? with
  | some text => AuditLog.ofText text ws.config.audit.maxEntries
  | none => AuditLog.ofCapacity ws.config.audit.maxEntries

def auditLog : Action AuditLog := do
  .ofExcept (fun cause => .error (.audit cause)) (ws.auditLogOf (← Action.get? ws.auditKey))

def artifact : Action Artifact := do
  return .ofStored (← ws.loadStored)

/-- What comes of the stored rules on a page at an instant. -/
def preview (page : PageContext) (now : Instant) (duration : Nat) : Action EvaluationTrace := do
  return traceRules (← ws.load).rules page now duration

/-! ## Writing -/

def storeBook (book : RuleBook) : Action Unit :=
  Action.set ws.rulesKey (RuleBook.codec.text book)

def storeSnapshot (id : String) (rules : List Rule) : Action Unit :=
  Action.set (ws.snapshotKey id) (Rule.listCodec.text rules)

/-- Records an entry, and erases the snapshots of the entries that give way. -/
def recordEntry (entry : AuditEntry) : Action Unit := do
  let (log, evicted) := (← ws.auditLog).record entry
  Action.set ws.auditKey log.text
  Action.eraseAll ((evicted.filterMap (·.snapshotId)).map ws.snapshotKey)

/-- Goes on only with rules that may be stored. -/
def requireValid (rules : List Rule) : Action Unit :=
  if isValidRuleSet rules then pure ()
  else Action.fail (.error (.invalid (ruleSetIssues rules)))

/-- Stores rules in place of those of `old`, and records the change. -/
def commit (stamp : Stamp) (user : String) (old : RuleBook) (rules : List Rule) :
    Action AuditEntry := do
  requireValid rules
  ws.storeSnapshot stamp.snapshotId rules
  ws.storeBook { old with rules }
  let entry :=
    (Change.ofEdit old.rules rules).entry stamp.entryId stamp.recordedAt user stamp.snapshotId
  ws.recordEntry entry
  return entry

def edit (stamp : Stamp) (user : String) (edit : Edit) : Action AuditEntry := do
  let old ← ws.load
  let rules ← .ofExcept (fun unknown => .error (.unknownRule unknown.id)) (edit.apply old.rules)
  ws.commit stamp user old rules

/-! ## Publishing -/

/-- Asks for the artifact to be dropped from the cache. -/
def purge : Action PurgeStatus := do
  match ws.config.artifactUrl with
  | none => return .skipped
  | some url =>
    let dropped ← if ws.hasCache then Action.requestPurge url else pure true
    return if dropped then .purged url else .failed url (PurgeStatus.failureMessage url)

/-- Compiles the stored rules, stores the script and records the publication.  A purge that fails does
not undo it. -/
def publish (stamp : Stamp) (user : String) : Action PublishReport := do
  let book ← ws.load
  requireValid book.rules
  let compiled := Script.compile book.rules stamp.compiledAt
  ws.storeBook { book with script := compiled.source }
  ws.storeSnapshot stamp.snapshotId book.rules
  let entry :=
    (Change.published ws.config.environment compiled.ruleCount).entry stamp.entryId stamp.recordedAt
      user stamp.snapshotId
  ws.recordEntry entry
  let purge ← ws.purge
  return ⟨entry, compiled.ruleCount, compiled.isPlaceholder, purge⟩

/-! ## Sweeping -/

/-- The number of stored rules and the dates of active ones within the window around an instant, if
anything is stored. -/
def transitions (now : Instant) : Action (Option (Nat × List TransitionRecord)) := do
  match ← ws.loadStored with
  | none => return none
  | some book =>
    match ws.config.sweep.window? with
    | none => Action.fail .endlessWindow
    | some window =>
      let found := Exclusion.transitions book.rules window now
      return some (book.rules.length, found.map .ofTransition)

/-- Asks for a purge if there is a transition about now that is to be kept. -/
def sweepOnly (keep : TransitionRecord → Bool) (now : Instant) : Action SweepReport := do
  match ← ws.transitions now with
  | none => return .noRules
  | some (checked, found) =>
    match found.filter keep with
    | [] => return .noTransitions checked
    | kept => return .purgeTriggered kept (← ws.purge)

/-- Asks for a purge if there is a transition about now. -/
def sweep (now : Instant) : Action SweepReport :=
  ws.sweepOnly (fun _ => true) now

end Workspace

end Exclusion
