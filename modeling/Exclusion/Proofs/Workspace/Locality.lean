/-
# Exclusion.Proofs.Workspace.Locality -- what a workspace looks at

An action is local to some keys if it does not look at what is stored under others: in two worlds that
differ only there it gives the same, and the worlds that it leaves differ only there again
(`Action.LocalTo`).  The law goes through sequences of actions, and only reading has to keep to the
keys: what is written is the same in both worlds, wherever it is.

All that a workspace does is local to the keys that it owns, those of its rules, of its audit log and of
the snapshots with its ids (`Workspace.localTo_answer`).
-/
import Exclusion.Proofs.Workspace.Call

namespace Exclusion

set_option autoImplicit false

open Exclusion.Json

/-! ## Worlds that agree on some keys -/

/-- The worlds differ at most in what is stored under other keys. -/
structure World.AgreesOn (keys : StoreKey → Prop) (a b : World) : Prop where
  stored : ∀ key, keys key → a.store.get? key = b.store.get? key
  storeCalls : a.storeCalls = b.storeCalls
  storeFails : a.storeFails = b.storeFails
  purges : a.purges = b.purges
  purgeFails : a.purgeFails = b.purgeFails

/-- A key that has one text in two stores has one text after the same write to both. -/
theorem Store.get?_write_congr {a b : Store} {key : StoreKey} (same : a.get? key = b.get? key)
    (w : Write) : (a.write w).get? key = (b.write w).get? key := by
  by_cases written : key.text = w.key.text
  · rw [get?_congr written, get?_congr written]
    cases w with
    | set k value => exact (get?_set_self a k value).trans (get?_set_self b k value).symm
    | erase k => exact (get?_erase_self a k).trans (get?_erase_self b k).symm
  · rw [get?_write_of_ne written, get?_write_of_ne written, same]

/-! ## The law -/

/-- The action does not look at what is stored under other keys. -/
def Action.LocalTo {α : Type} (keys : StoreKey → Prop) (action : Action α) : Prop :=
  ∀ a b : World, a.AgreesOn keys b →
    (action.run a).1 = (action.run b).1 ∧ (action.run a).2.AgreesOn keys (action.run b).2

namespace Action

variable {α β : Type} {keys : StoreKey → Prop}

theorem localTo_pure (a : α) : (pure a : Action α).LocalTo keys :=
  fun _ _ agree => ⟨rfl, agree⟩

theorem localTo_fail (failure : Failure) : (fail failure : Action α).LocalTo keys :=
  fun _ _ agree => ⟨rfl, agree⟩

theorem localTo_ofExcept {ε : Type} (failure : ε → Failure) (result : Except ε α) :
    (ofExcept failure result).LocalTo keys :=
  fun _ _ agree => ⟨rfl, agree⟩

theorem LocalTo.bind {first : Action α} {next : α → Action β} (begun : first.LocalTo keys)
    (continued : ∀ a, (next a).LocalTo keys) : (first >>= next).LocalTo keys := by
  intro a b agree
  obtain ⟨same, after⟩ := begun a b agree
  cases result : (first.run a).1 with
  | ok value =>
      rw [run_bind_ok result, run_bind_ok (same.symm.trans result)]
      exact continued value _ _ after
  | error failure =>
      rw [run_bind_error result, run_bind_error (same.symm.trans result)]
      exact ⟨rfl, after⟩

theorem LocalTo.map {action : Action α} (f : α → β) (isLocal : action.LocalTo keys) :
    (do return f (← action)).LocalTo keys :=
  isLocal.bind fun _ => localTo_pure _

/-- A call of the store is local if its result and what it leaves under the keys are. -/
theorem localTo_callStore {call : Store → α × Store}
    (results : ∀ a b : Store, (∀ key, keys key → a.get? key = b.get? key) →
      (call a).1 = (call b).1 ∧ ∀ key, keys key → (call a).2.get? key = (call b).2.get? key) :
    (callStore call).LocalTo keys := by
  intro a b agree
  obtain ⟨same, after⟩ := results a.store b.store agree.stored
  have fails : a.storeFails a.storeCalls = b.storeFails b.storeCalls := by
    rw [agree.storeFails, agree.storeCalls]
  have counted : a.storeCalls + 1 = b.storeCalls + 1 := congrArg (· + 1) agree.storeCalls
  simp only [run, callStore, fails]
  split
  · exact ⟨rfl, agree.stored, counted, agree.storeFails, agree.purges, agree.purgeFails⟩
  · exact ⟨congrArg Except.ok same, after, counted, agree.storeFails, agree.purges,
      agree.purgeFails⟩

theorem localTo_get? {key : StoreKey} (own : keys key) : (get? key).LocalTo keys :=
  localTo_callStore fun _ _ agree => ⟨agree key own, agree⟩

theorem localTo_set (key : StoreKey) (value : String) : (set key value).LocalTo keys :=
  localTo_callStore fun _ _ agree =>
    ⟨rfl, fun other own => Store.get?_write_congr (agree other own) (.set key value)⟩

theorem localTo_erase (key : StoreKey) : (erase key).LocalTo keys :=
  localTo_callStore fun _ _ agree =>
    ⟨rfl, fun other own => Store.get?_write_congr (agree other own) (.erase key)⟩

theorem localTo_eraseAll (erased : List StoreKey) : (eraseAll erased).LocalTo keys := by
  induction erased with
  | nil => exact localTo_pure ()
  | cons key erased ih => exact (localTo_erase key).bind fun _ => ih

theorem localTo_requestPurge (url : String) : (requestPurge url).LocalTo keys := by
  intro a b agree
  have dropped : a.purgeFails a.purges.length = b.purgeFails b.purges.length := by
    rw [agree.purges, agree.purgeFails]
  refine ⟨congrArg (fun failed : Bool => Except.ok !failed) dropped, agree.stored, agree.storeCalls,
    agree.storeFails, ?_, agree.purgeFails⟩
  exact congrArg (· ++ [url]) agree.purges

end Action

/-! ## Answers -/

/-- What a call gives when it succeeds. -/
inductive Reply where
  | recorded (entry : AuditEntry)
  | published (report : PublishReport)
  | book (book : RuleBook)
  | log (log : AuditLog)
  | snapshot (rules : Option (List Rule))
  | artifact (artifact : Artifact)
  | trace (trace : EvaluationTrace)
  | transitions (found : Option (Nat × List TransitionRecord))
  | swept (report : SweepReport)

namespace Workspace

variable (ws : Workspace)

/-- Makes a call, and gives all that it gives. -/
def answer : Call → Action Reply
  | .edit stamp user edit => do return .recorded (← ws.edit stamp user edit)
  | .publish stamp user => do return .published (← ws.publish stamp user)
  | .load => do return .book (← ws.load)
  | .auditLog => do return .log (← ws.auditLog)
  | .snapshot id => do return .snapshot (← ws.snapshot id)
  | .artifact => do return .artifact (← ws.artifact)
  | .preview page now duration => do return .trace (← ws.preview page now duration)
  | .transitions now => do return .transitions (← ws.transitions now)
  | .sweep keep now => do return .swept (← ws.sweepOnly keep now)

/-- The key is that of the rules, of the audit log, or of a snapshot with one of these ids. -/
def Owns (ids : List String) (key : StoreKey) : Prop :=
  key = ws.rulesKey ∨ key = ws.auditKey ∨ ∃ id ∈ ids, key = ws.snapshotKey id

variable {ws} {ids : List String}

theorem localTo_loadStored : ws.loadStored.LocalTo (ws.Owns ids) := by
  refine (Action.localTo_get? (.inl rfl)).bind fun text? => ?_
  cases text? with
  | none => exact Action.localTo_pure _
  | some text => exact (Action.localTo_ofExcept _ _).map some

theorem localTo_load : ws.load.LocalTo (ws.Owns ids) :=
  localTo_loadStored.map (·.getD {})

theorem localTo_snapshot {id : String} (own : id ∈ ids) :
    (ws.snapshot id).LocalTo (ws.Owns ids) := by
  refine (Action.localTo_get? (.inr (.inr ⟨id, own, rfl⟩))).bind fun text? => ?_
  cases text? with
  | none => exact Action.localTo_pure _
  | some text => exact (Action.localTo_ofExcept _ _).map some

theorem localTo_auditLog : ws.auditLog.LocalTo (ws.Owns ids) :=
  (Action.localTo_get? (.inr (.inl rfl))).bind fun _ => Action.localTo_ofExcept _ _

theorem localTo_recordEntry (entry : AuditEntry) :
    (ws.recordEntry entry).LocalTo (ws.Owns ids) :=
  localTo_auditLog.bind fun _ => (Action.localTo_set _ _).bind fun _ => Action.localTo_eraseAll _

theorem localTo_requireValid (rules : List Rule) :
    (requireValid rules).LocalTo (ws.Owns ids) := by
  rw [requireValid]
  split
  · exact Action.localTo_pure ()
  · exact Action.localTo_fail _

theorem localTo_edit (stamp : Stamp) (user : String) (edit : Edit) :
    (ws.edit stamp user edit).LocalTo (ws.Owns ids) := by
  refine localTo_load.bind fun old => (Action.localTo_ofExcept _ _).bind fun rules => ?_
  refine (localTo_requireValid rules).bind fun _ => ?_
  refine (Action.localTo_set _ _).bind fun _ => (Action.localTo_set _ _).bind fun _ => ?_
  exact (localTo_recordEntry _).bind fun _ => Action.localTo_pure _

theorem localTo_purge : ws.purge.LocalTo (ws.Owns ids) := by
  unfold purge
  cases ws.config.artifactUrl with
  | none => exact Action.localTo_pure _
  | some url =>
      cases ws.hasCache with
      | false => exact Action.localTo_pure _
      | true => exact (Action.localTo_requestPurge url).bind fun _ => Action.localTo_pure _

theorem localTo_publish (stamp : Stamp) (user : String) :
    (ws.publish stamp user).LocalTo (ws.Owns ids) := by
  refine localTo_load.bind fun book => (localTo_requireValid book.rules).bind fun _ => ?_
  refine (Action.localTo_set _ _).bind fun _ => (Action.localTo_set _ _).bind fun _ => ?_
  exact (localTo_recordEntry _).bind fun _ => localTo_purge.bind fun _ => Action.localTo_pure _

theorem localTo_transitions (now : Instant) : (ws.transitions now).LocalTo (ws.Owns ids) := by
  refine localTo_loadStored.bind fun stored => ?_
  cases stored with
  | none => exact Action.localTo_pure _
  | some book =>
      dsimp only
      split
      · exact Action.localTo_fail _
      · exact Action.localTo_pure _

theorem localTo_sweepOnly (keep : TransitionRecord → Bool) (now : Instant) :
    (ws.sweepOnly keep now).LocalTo (ws.Owns ids) := by
  refine (localTo_transitions now).bind fun found => ?_
  cases found with
  | none => exact Action.localTo_pure _
  | some counted =>
      dsimp only
      split
      · exact Action.localTo_pure _
      · exact localTo_purge.bind fun _ => Action.localTo_pure _

/-- **A call is local to what the workspace owns**, if it asks for no snapshot of others. -/
theorem localTo_answer {call : Call} (asks : ∀ id, call = .snapshot id → id ∈ ids) :
    (ws.answer call).LocalTo (ws.Owns ids) := by
  cases call with
  | edit stamp user edit => exact (localTo_edit stamp user edit).map Reply.recorded
  | publish stamp user => exact (localTo_publish stamp user).map Reply.published
  | load => exact localTo_load.map Reply.book
  | auditLog => exact localTo_auditLog.map Reply.log
  | snapshot id => exact (localTo_snapshot (asks id rfl)).map Reply.snapshot
  | artifact => exact (localTo_loadStored.map Artifact.ofStored).map Reply.artifact
  | preview page now duration =>
      exact (localTo_load.map fun book => traceRules book.rules page now duration).map Reply.trace
  | transitions now => exact (localTo_transitions now).map Reply.transitions
  | sweep keep now => exact (localTo_sweepOnly keep now).map Reply.swept

end Workspace

end Exclusion
