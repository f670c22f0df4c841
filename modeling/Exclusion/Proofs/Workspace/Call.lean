/-
# Exclusion.Proofs.Workspace.Call -- runs of calls of one workspace

A run is a list of calls, edits and publications with reads and sweeps between them, made one after
the other whether they succeed or not (`Workspace.play`).  A call that recorded an entry leaves a
receipt: the call, the rule book that was loaded right before it, and the entry that it returned.

As long as the audit log can be read, a call takes one of three courses (`follows_perform`): it writes
nothing and records nothing, or it is an edit or a publication that stores rules and records them.
-/
import Exclusion.Proofs.Rule.Edit
import Exclusion.Proofs.Workspace.Stored

namespace Exclusion

set_option autoImplicit false

open Exclusion.Json

/-! ## Calls -/

/-- A call of a workspace. -/
inductive Call where
  | edit (stamp : Stamp) (user : String) (edit : Edit)
  | publish (stamp : Stamp) (user : String)
  | load
  | auditLog
  | snapshot (id : String)
  | artifact
  | preview (page : PageContext) (now : Instant) (duration : Nat)
  | transitions (now : Instant)
  /-- A sweep that looks only at some of the transitions. -/
  | sweep (keep : TransitionRecord → Bool) (now : Instant)

namespace Call

/-- The identifiers and times of a call, if it may record something. -/
def stamp? : Call → Option Stamp
  | edit stamp _ _ => some stamp
  | publish stamp _ => some stamp
  | _ => none

/-- The rules that a call brings with it. -/
def rules : Call → List Rule
  | .edit _ _ change => change.rules
  | _ => []

/-- The call is a publication and no edit. -/
def isPublication : Call → Bool
  | publish _ _ => true
  | _ => false

/-- The identifiers of the snapshots that calls may take. -/
def snapshotIds (calls : List Call) : List String :=
  calls.flatMap fun call => call.stamp?.toList.map (·.snapshotId)

/-- The clock gives no leap second for when the call is recorded. -/
def IsTimely (call : Call) : Prop :=
  ∀ stamp ∈ call.stamp?, stamp.recordedAt.isLeap = false

instance (call : Call) : Decidable call.IsTimely :=
  inferInstanceAs (Decidable (∀ stamp ∈ call.stamp?, stamp.recordedAt.isLeap = false))

end Call

/-! ## Runs -/

/-- What is left of a call that recorded an entry. -/
structure Receipt where
  call : Call
  /-- What was loaded right before the call. -/
  before : Except Failure RuleBook
  entry : AuditEntry

/-- The call stored this list of rules: the one before as edited, or the one before as it was. -/
def Receipt.Stored (receipt : Receipt) (rules : List Rule) : Prop :=
  ∃ old, receipt.before = .ok old ∧
    match receipt.call with
    | .edit _ _ edit => edit.apply old.rules = .ok rules
    | _ => rules = old.rules

/-- A world, and the receipts of the calls that were made in it, newest first. -/
structure Session where
  world : World
  receipts : List Receipt := []

namespace Workspace

variable (ws : Workspace)

/-- Makes a call, and gives the entry that it recorded if it did. -/
def perform : Call → Action (Option AuditEntry)
  | .edit stamp user edit => do return some (← ws.edit stamp user edit)
  | .publish stamp user => do return some (← ws.publish stamp user).entry
  | .load => do let _ ← ws.load; return none
  | .auditLog => do let _ ← ws.auditLog; return none
  | .snapshot id => do let _ ← ws.snapshot id; return none
  | .artifact => do let _ ← ws.artifact; return none
  | .preview page now duration => do let _ ← ws.preview page now duration; return none
  | .transitions now => do let _ ← ws.transitions now; return none
  | .sweep keep now => do let _ ← ws.sweepOnly keep now; return none

/-- The session after one more call. -/
def step (session : Session) (call : Call) : Session :=
  let after := ((ws.perform call).run session.world).2
  match ((ws.perform call).run session.world).1 with
  | .ok (some entry) =>
    ⟨after, ⟨call, (ws.load.run session.world).1, entry⟩ :: session.receipts⟩
  | _ => ⟨after, session.receipts⟩

/-- The session after calls in a world, one after the other. -/
def play (world : World) (calls : List Call) : Session :=
  calls.foldl ws.step ⟨world, []⟩

variable {ws} {session : Session} {call : Call}

theorem step_of_entry {entry : AuditEntry}
    (recorded : ((ws.perform call).run session.world).1 = .ok (some entry)) :
    ws.step session call = ⟨((ws.perform call).run session.world).2,
      ⟨call, (ws.load.run session.world).1, entry⟩ :: session.receipts⟩ := by
  simp only [step, recorded]

theorem step_of_none (quiet : ∀ entry, ((ws.perform call).run session.world).1 ≠ .ok (some entry)) :
    ws.step session call = ⟨((ws.perform call).run session.world).2, session.receipts⟩ := by
  simp only [step]

theorem world_step (session : Session) (call : Call) :
    (ws.step session call).world = ((ws.perform call).run session.world).2 := by
  simp only [step]
  split <;> rfl

/-- A call leaves the receipts of the calls before it. -/
theorem receipts_subset_step (session : Session) (call : Call) :
    session.receipts ⊆ (ws.step session call).receipts := by
  rw [step]
  split
  · exact List.subset_cons_self _ _
  · exact List.Subset.refl _

/-- It may leave one of its own. -/
theorem mem_receipts_step {receipt : Receipt} (received : receipt ∈ (ws.step session call).receipts) :
    receipt ∈ session.receipts ∨ receipt.call = call := by
  rw [step] at received
  split at received
  · rcases List.mem_cons.1 received with rfl | old
    · exact .inr rfl
    · exact .inl old
  · exact .inl received

/-- **What every call preserves holds after a run.**  The property may depend on the snapshots that
were taken so far; no call takes one with an id that was used before. -/
theorem play_of_step (Fit : Call → Prop) (P : List String → Session → Prop)
    (preserved : ∀ {used session call}, P used session → Fit call →
      (∀ stamp ∈ call.stamp?, stamp.snapshotId ∉ used) →
      P (used ++ Call.snapshotIds [call]) (ws.step session call))
    {calls : List Call} (fit : ∀ call ∈ calls, Fit call) {world : World} (start : P [] ⟨world, []⟩)
    (distinct : (Call.snapshotIds calls).Nodup) :
    P (Call.snapshotIds calls) (ws.play world calls) := by
  have run : ∀ (calls : List Call) (used : List String) (session : Session), P used session →
      (∀ call ∈ calls, Fit call) → (used ++ Call.snapshotIds calls).Nodup →
      P (used ++ Call.snapshotIds calls) (calls.foldl ws.step session) := by
    intro calls
    induction calls with
    | nil =>
        intro used session holds _ _
        rw [Call.snapshotIds, List.flatMap_nil, List.append_nil]
        exact holds
    | cons call calls ih =>
        intro used session holds fit distinct
        obtain ⟨first, others⟩ := List.forall_mem_cons.1 fit
        have split : Call.snapshotIds (call :: calls) =
            Call.snapshotIds [call] ++ Call.snapshotIds calls := by
          simp [Call.snapshotIds]
        rw [split, ← List.append_assoc] at distinct ⊢
        refine ih _ _ (preserved holds first ?_) others distinct
        intro stamp given old
        have apart := (List.nodup_append.1 (List.nodup_append.1 distinct).1).2.2
        refine apart _ old stamp.snapshotId ?_ rfl
        simp only [Call.snapshotIds, List.flatMap_cons, List.flatMap_nil, List.append_nil]
        exact List.mem_map_of_mem (Option.mem_toList.2 given)
  exact run calls [] ⟨world, []⟩ start fit distinct

/-- What every call preserves, whatever ids it uses, holds after a run. -/
theorem play_of_each (Fit : Call → Prop) (P : Session → Prop)
    (preserved : ∀ {session call}, P session → Fit call → P (ws.step session call))
    {calls : List Call} (fit : ∀ call ∈ calls, Fit call) {world : World} (start : P ⟨world, []⟩) :
    P (ws.play world calls) :=
  List.foldlRecOn calls ws.step start fun _ holds call made => preserved holds (fit call made)

/-- The receipts of a run are of its calls. -/
theorem call_mem_of_receipt_mem {world : World} {calls : List Call} {receipt : Receipt}
    (received : receipt ∈ (ws.play world calls).receipts) : receipt.call ∈ calls := by
  have run : ∀ (calls : List Call) (session : Session),
      receipt ∈ (calls.foldl ws.step session).receipts →
        receipt ∈ session.receipts ∨ receipt.call ∈ calls := by
    intro calls
    induction calls with
    | nil => exact fun _ old => .inl old
    | cons call calls ih =>
        intro session received
        rcases ih (ws.step session call) received with before | later
        · rcases mem_receipts_step before with old | rfl
          · exact .inl old
          · exact .inr List.mem_cons_self
        · exact .inr (List.mem_cons_of_mem call later)
  rcases run calls ⟨world, []⟩ received with impossible | made
  · cases impossible
  · exact made

/-! ## The courses of a call -/

/-- The call records no entry. -/
def IsQuiet (result : Except Failure (Option AuditEntry)) : Prop :=
  ∀ entry, result ≠ .ok (some entry)

variable (ws)

/-- What a call can come to in a store with this audit log. -/
inductive Course (call : Call) (store : Store) (log : AuditLog) : Prop where
  /-- Nothing is written or recorded. -/
  | quiet (follows : (ws.perform call).Follows store [] IsQuiet)
  /-- Edited rules are stored and recorded. -/
  | edited (stamp : Stamp) (user : String) (edit : Edit) (old : RuleBook) (rules : List Rule)
      (same : call = .edit stamp user edit) (loaded : ws.bookIn store = .ok old)
      (applied : edit.apply old.rules = .ok rules) (valid : isValidRuleSet rules = true)
      (follows : (ws.perform call).Follows store
        (ws.storeWrites stamp old rules ++
          ws.recordWrites log (editEntry stamp user old.rules rules))
        (· = .ok (some (editEntry stamp user old.rules rules))))
  /-- The script of the stored rules is stored and recorded. -/
  | published (stamp : Stamp) (user : String) (book : RuleBook)
      (same : call = .publish stamp user) (loaded : ws.bookIn store = .ok book)
      (valid : isValidRuleSet book.rules = true)
      (follows : (ws.perform call).Follows store
        (ws.scriptWrites stamp book ++ ws.recordWrites log (ws.publishEntry stamp user book))
        (· = .ok (some (ws.publishEntry stamp user book))))

variable {ws} {store : Store}

/-- A call that gives nothing but what it read records nothing. -/
theorem quiet_of_reads {α : Type} {action : Action α} (reads : action.Reads) (store : Store) :
    (do let _ ← action; return none : Action (Option AuditEntry)).Follows store [] IsQuiet := by
  refine (Action.Follows.map (fun _ => none) (reads store)).imp ?_
  rintro result ⟨inner, -, rfl⟩ entry same
  cases inner <;> cases same

/-- A call that is refused records nothing. -/
theorem quiet_of_refused {α : Type} {action : Action α} {f : α → Option AuditEntry}
    {failure : Failure} (follows : action.Follows store [] (· = .error failure)) :
    (do return f (← action)).Follows store [] IsQuiet := by
  refine (Action.Follows.map f follows).imp ?_
  rintro result ⟨inner, rfl, rfl⟩ entry same
  cases same

/-- A call without a stamp is one that only reads. -/
theorem exists_reads_of_stamp?_eq_none (ws : Workspace) (idle : call.stamp? = none) :
    ∃ (α : Type) (action : Action α), action.Reads ∧
      ws.perform call = (do let _ ← action; return none) := by
  cases call with
  | edit stamp user edit => cases idle
  | publish stamp user => cases idle
  | load => exact ⟨_, _, ws.reads_load, rfl⟩
  | auditLog => exact ⟨_, _, Action.reads_of_follows ws.follows_auditLog, rfl⟩
  | snapshot id => exact ⟨_, _, Action.reads_of_follows (ws.follows_snapshot id), rfl⟩
  | artifact => exact ⟨_, _, Action.reads_of_follows ws.follows_artifact, rfl⟩
  | preview page now duration =>
      exact ⟨_, _, ws.reads_load.bind fun _ => Action.reads_pure _, rfl⟩
  | transitions now => exact ⟨_, _, ws.reads_transitions now, rfl⟩
  | sweep keep now => exact ⟨_, _, ws.reads_sweepOnly keep now, rfl⟩

theorem course_edit {log : AuditLog} (read : ws.logIn store = .ok log) (stamp : Stamp)
    (user : String) (edit : Edit) : ws.Course (.edit stamp user edit) store log := by
  cases ws.edit_course stamp user edit store with
  | unread failure loaded takes => exact .quiet (quiet_of_refused takes.follows)
  | unknown old unknown loaded refused takes => exact .quiet (quiet_of_refused takes.follows)
  | invalid old rules loaded edited invalid takes => exact .quiet (quiet_of_refused takes.follows)
  | unrecorded old rules failure loaded edited valid unread takes => cases read.symm.trans unread
  | recorded old rules log' loaded edited valid read' takes =>
      cases read.symm.trans read'
      refine .edited stamp user edit old rules rfl loaded edited valid
        ((Action.Follows.map some takes.follows_readThen).imp ?_)
      rintro result ⟨inner, rfl, rfl⟩
      rfl

theorem course_publish {log : AuditLog} (read : ws.logIn store = .ok log) (stamp : Stamp)
    (user : String) : ws.Course (.publish stamp user) store log := by
  cases ws.publish_course stamp user store with
  | unread failure loaded takes => exact .quiet (quiet_of_refused takes.follows)
  | invalid book loaded invalid takes => exact .quiet (quiet_of_refused takes.follows)
  | unrecorded book failure loaded valid unread takes => cases read.symm.trans unread
  | recorded book log' loaded valid read' takes =>
      cases read.symm.trans read'
      refine .published stamp user book rfl loaded valid
        ((Action.Follows.map (fun report : PublishReport => some report.entry)
          takes.follows_readThen).imp ?_)
      rintro result ⟨inner, ⟨purge, rfl⟩, rfl⟩
      rfl

theorem follows_perform {log : AuditLog} (read : ws.logIn store = .ok log) (call : Call) :
    ws.Course call store log := by
  cases stamped : call.stamp? with
  | none =>
      obtain ⟨_, action, reads, same⟩ := ws.exists_reads_of_stamp?_eq_none stamped
      refine .quiet ?_
      rw [same]
      exact quiet_of_reads reads store
  | some _ =>
      cases call with
      | edit stamp user edit => exact course_edit read stamp user edit
      | publish stamp user => exact course_publish read stamp user
      | _ => cases stamped

/-! ## The calls about one banner -/

/-- The workspace of the usual configuration. -/
def usual : Workspace :=
  ⟨{}, rfl, false⟩

/-- A rule that hides a banner on pages about sport. -/
def hideBanner : Rule :=
  (Rule.new "r1" "Banner" "#banner" .epoch).addCondition
    { signal := .keywords, operator := .equals, value := "sport", caseSensitive := false }

/-- The rule is made, published, switched off and published again.  One call is refused. -/
def bannerCalls : List Call := [
  .edit ⟨"s1", "e1", .epoch, .epoch⟩ "ann" (.replaceAll [hideBanner]),
  .publish ⟨"s2", "e2", .epoch, .epoch⟩ "ann",
  .load,
  .edit ⟨"s3", "e3", .epoch, .epoch⟩ "bob" (.toggle "r1"),
  .edit ⟨"s4", "e4", .epoch, .epoch⟩ "bob" (.delete "r2"),
  .publish ⟨"s5", "e5", .epoch, .epoch⟩ "bob"]

end Workspace

end Exclusion
