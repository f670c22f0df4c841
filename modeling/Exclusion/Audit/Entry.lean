/-
# Exclusion.Audit.Entry -- what the audit log says about one change

An entry says who did what and when, and names the snapshot of the rules that was taken with the
change.
-/
import Exclusion.Json.Record
import Exclusion.Json.Choice
import Exclusion.Time.Wire

namespace Exclusion

set_option autoImplicit false

open Exclusion.Json

/-- What was done. -/
inductive AuditAction where
  | create
  | delete
  | update
  | toggle
  | publishDev
  | publishProd
  deriving DecidableEq, Repr

namespace AuditAction

def all : List AuditAction :=
  [create, delete, update, toggle, publishDev, publishProd]

def name : AuditAction → String
  | create => "CREATE"
  | delete => "DELETE"
  | update => "UPDATE"
  | toggle => "TOGGLE"
  | publishDev => "PUBLISH_DEV"
  | publishProd => "PUBLISH_PROD"

/-- The action is a publication and no edit. -/
def isPublication : AuditAction → Bool
  | publishDev | publishProd => true
  | create | delete | update | toggle => false

def codec : Codec AuditAction :=
  .names name all none

end AuditAction

/-- An entry of the audit log. -/
structure AuditEntry where
  id : String
  recordedAt : Instant
  user : String
  action : AuditAction
  details : String
  /-- The snapshot of the rules taken with the change. -/
  snapshotId : Option String
  deriving DecidableEq

namespace AuditEntry

def fields : Fields AuditEntry
    [String, Instant, String, AuditAction, String, Option String] :=
  .cons (.required "id" id .string) <|
  .cons (.required "timestamp" recordedAt Instant.millisCodec) <|
  .cons (.required "user" user .string) <|
  .cons (.required "action" action AuditAction.codec) <|
  .cons (.required "details" details .string) <|
  .cons (.optional "snapshotId" snapshotId .string) .nil

def codec : Codec AuditEntry :=
  .record "struct AuditEntry" fields fun (id, recordedAt, user, action, details, snapshotId, ()) =>
    { id, recordedAt, user, action, details, snapshotId }

end AuditEntry

end Exclusion
