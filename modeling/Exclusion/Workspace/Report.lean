/-
# Exclusion.Workspace.Report -- what publishing and sweeping report

Reports have JSON forms.  A status names itself under `status`, a sweep's report under `action`.
-/
import Exclusion.Audit.Entry
import Exclusion.Json.Tagged
import Exclusion.Rule.Transition

namespace Exclusion

set_option autoImplicit false

open Exclusion.Json

/-! ## Purging -/

/-- What became of dropping the artifact from the cache. -/
inductive PurgeStatus where
  | purged (url : String)
  | skipped
  | failed (url : String) (error : String)
  deriving DecidableEq, Repr

namespace PurgeStatus

/-- The artifact is still in the cache though it should not be. -/
def isFailed : PurgeStatus → Bool
  | failed _ _ => true
  | purged _ | skipped => false

/-- What is said when the cache does not drop what it has under an address. -/
def failureMessage (url : String) : String :=
  "purge failed: " ++ url ++ ": simulated failure"

def encode : PurgeStatus → Json
  | purged url => .object [("status", .string "purged"), ("url", .string url)]
  | skipped => .object [("status", .string "skipped")]
  | failed url error =>
    .object [("status", .string "failed"), ("url", .string url), ("error", .string error)]

/-- What is read of a status that succeeded. -/
def purgedCodec : Codec String :=
  .record "struct variant PurgeStatus::Purged" (.cons (.required "url" id .string) .nil)
    fun (url, ()) => url

/-- What is read of a status that failed. -/
def failedCodec : Codec (String × String) :=
  .record "struct variant PurgeStatus::Failed"
    (.cons (.required "url" Prod.fst .string) <| .cons (.required "error" Prod.snd .string) .nil)
    fun (url, error, ()) => (url, error)

def codec : Codec PurgeStatus :=
  .tagged "PurgeStatus" "status" encode
    [.fields "purged" purgedCodec purged, .plain "skipped" skipped,
      .fields "failed" failedCodec fun (url, error) => failed url error]

end PurgeStatus

/-! ## Publishing -/

structure PublishReport where
  entry : AuditEntry
  ruleCount : Nat
  isPlaceholder : Bool
  purge : PurgeStatus
  deriving DecidableEq

namespace PublishReport

def fields : Fields PublishReport [AuditEntry, Nat, Bool, PurgeStatus] :=
  .cons (.required "entry" entry AuditEntry.codec) <|
  .cons (.required "rule_count" ruleCount .size) <|
  .cons (.required "placeholder" isPlaceholder .bool) <|
  .cons (.required "purge" purge PurgeStatus.codec) .nil

def codec : Codec PublishReport :=
  .record "struct PublishReport" fields fun (entry, ruleCount, isPlaceholder, purge, ()) =>
    { entry, ruleCount, isPlaceholder, purge }

end PublishReport

/-! ## Sweeping -/

/-- A date that a sweep found. -/
structure TransitionRecord where
  ruleId : String
  ruleName : String
  boundary : Boundary
  date : Instant
  deriving DecidableEq

namespace TransitionRecord

def ofTransition (t : Transition) : TransitionRecord :=
  ⟨t.rule.id, t.rule.name, t.boundary, t.date⟩

def fields : Fields TransitionRecord [String, String, Boundary, Instant] :=
  .cons (.required "rule_id" ruleId .string) <|
  .cons (.required "rule_name" ruleName .string) <|
  .cons (.required "boundary" boundary Boundary.codec) <|
  .cons (.required "at" date Instant.textCodec) .nil

def codec : Codec TransitionRecord :=
  .record "struct TransitionRecord" fields fun (ruleId, ruleName, boundary, date, ()) =>
    { ruleId, ruleName, boundary, date }

end TransitionRecord

inductive SweepReport where
  | noRules
  /-- None of so many stored rules starts or ends about now. -/
  | noTransitions (checked : Nat)
  /-- Some do, and a purge was requested. -/
  | purgeTriggered (transitions : List TransitionRecord) (purge : PurgeStatus)
  deriving DecidableEq

namespace SweepReport

def transitions : SweepReport → List TransitionRecord
  | purgeTriggered transitions _ => transitions
  | noRules | noTransitions _ => []

/-- The names of the rules that start or end, each once, in their order. -/
def ruleNames (report : SweepReport) : List String :=
  report.transitions.foldl
    (fun names t => if t.ruleName ∈ names then names else names ++ [t.ruleName]) []

def encode : SweepReport → Json
  | noRules => .object [("action", .string "no_rules")]
  | noTransitions checked => .object [("action", .string "no_transitions"), ("checked", .int checked)]
  | purgeTriggered transitions purge =>
    .object [
      ("action", .string "purge_triggered"),
      ("transitions", (Codec.list TransitionRecord.codec).encode transitions),
      ("purge", PurgeStatus.codec.encode purge)]

/-- What is read of a sweep that found nothing. -/
def noTransitionsCodec : Codec Nat :=
  .record "struct variant SweepReport::NoTransitions" (.cons (.required "checked" id .size) .nil)
    fun (checked, ()) => checked

/-- What is read of a sweep that found transitions. -/
def purgeTriggeredCodec : Codec (List TransitionRecord × PurgeStatus) :=
  .record "struct variant SweepReport::PurgeTriggered"
    (.cons (.required "transitions" Prod.fst (.list TransitionRecord.codec)) <|
      .cons (.required "purge" Prod.snd PurgeStatus.codec) .nil)
    fun (transitions, purge, ()) => (transitions, purge)

def codec : Codec SweepReport :=
  .tagged "SweepReport" "action" encode
    [.plain "no_rules" noRules, .fields "no_transitions" noTransitionsCodec noTransitions,
      .fields "purge_triggered" purgeTriggeredCodec fun (transitions, purge) =>
        purgeTriggered transitions purge]

end SweepReport

end Exclusion
