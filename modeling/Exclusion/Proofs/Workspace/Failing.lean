/-
# Exclusion.Proofs.Workspace.Failing -- the stored rules after a call that failed

An edit and a publication store the rules before they record what was done, and nothing takes the rules
back.  So a call may fail with the rules stored: the audit log cannot be read, or a call of the store
fails later than the one that stores the rules.

`Workspace.Attempt` cuts the calls of the store at the one that stores the rules.  Up to there a failure
leaves the stored rules as they are, and from there on it leaves the new ones
(`Action.Takes.text_of_error`).  Which of the two it is depends on the store before the call and on which
of its calls fail (`rules_after_failure`).
-/
import Exclusion.Proofs.Workspace.Call

namespace Exclusion

set_option autoImplicit false

open Exclusion.Json

/-! ## One write among the calls of an action -/

/-- A text under a key after an action that failed, if the action writes it once.  It is there if the
store answered up to that write; otherwise what was there before is. -/
theorem Action.Takes.text_of_error {α : Type} {action : Action α} {world after : World}
    {earlier later : List (Option Write)} {key : StoreKey} {text : String}
    {ends : Except Failure α → Prop} {failure : Failure}
    (takes : action.Takes world.store (earlier ++ some (.set key text) :: later) ends)
    (apart : ∀ w, some w ∈ earlier ++ later → key.text ≠ w.key.text)
    (failed : action.run world = (.error failure, after)) :
    (world.Answers (earlier.length + 1) ∧ after.store.get? key = some text ∧
      (ends (.error failure) ∨ failure = .error .unreachable ∧
        ∃ n, earlier.length + 1 ≤ n ∧ world.storeFails (world.storeCalls + n) = true)) ∨
    (¬ world.Answers (earlier.length + 1) ∧
      after.store.get? key = world.store.get? key) := by
  have kept : ∀ calls : List (Option Write), (∀ call ∈ calls, call ∈ later) →
      ∀ w ∈ calls.reduceOption, key.text ≠ w.key.text := by
    intro calls among w member
    have listed := among _ (List.reduceOption_mem_iff.1 member)
    exact apart w (List.mem_append_right earlier listed)
  have alternatives := takes world rfl
  rw [failed] at alternatives
  rcases alternatives with ⟨answers, ended, made⟩ | ⟨n, -, answers, fails, broken, made⟩
  · refine .inl ⟨answers.mono ?_, ?_, .inl ended⟩
    · rw [List.length_append, List.length_cons]
      omega
    · rw [made.store, List.reduceOption_append, List.reduceOption_cons_of_some]
      exact Store.get?_writeAll_set _ _ (kept later fun _ member => member)
  · by_cases early : n ≤ earlier.length
    · -- the call that failed is the write itself or comes before it
      refine .inr ⟨fun answered => ?_, ?_⟩
      · rw [answered n (Nat.lt_succ_of_le early)] at fails
        cases fails
      · rw [made.store, List.take_append_of_le_length early]
        refine Store.get?_writeAll_of_ne fun w member => ?_
        have listed := List.mem_of_mem_take (List.reduceOption_mem_iff.1 member)
        exact apart w (List.mem_append_left later listed)
    · -- the write was made, and what was made of the later calls is about other keys
      obtain ⟨m, rfl⟩ : ∃ m, n = earlier.length + (m + 1) := ⟨n - earlier.length - 1, by omega⟩
      refine .inl ⟨answers.mono (by omega), ?_, .inr ⟨Except.error.inj broken, _, ?_, fails⟩⟩
      · rw [made.store, List.take_length_add_append, List.take_succ_cons, List.reduceOption_append,
          List.reduceOption_cons_of_some]
        exact Store.get?_writeAll_set _ _ (kept _ fun _ member => List.mem_of_mem_take member)
      · omega

/-! ## Calls that store a rule book -/

/-- The number of calls of the store up to the one that stores the rules.  An edit stores a snapshot
first. -/
def Call.callsToBook : Call → Nat
  | .edit .. => 3
  | .publish .. => 2
  | _ => 0

namespace Workspace

/-- The rule book that a call is to store: there is none if the call does not store rules, if it cannot
read the ones that are there, or if it refuses to store what comes of them. -/
def bookAfter? (ws : Workspace) (call : Call) (store : Store) : Option RuleBook :=
  match call, ws.bookIn store with
  | .edit _ _ edit, .ok old =>
    match edit.apply old.rules with
    | .ok rules => if isValidRuleSet rules then some { old with rules } else none
    | .error _ => none
  | .publish stamp _, .ok book =>
    if isValidRuleSet book.rules then
      some { book with script := (Script.compile book.rules stamp.compiledAt).source }
    else none
  | _, _ => none

/-- What a call does to the stored rules. -/
inductive Attempt (ws : Workspace) (call : Call) (store : Store) : Prop where
  /-- It does not write them. -/
  | idle (nothing : ws.bookAfter? call store = none)
      (follows : (ws.perform call).Follows store [] fun _ => True)
  /-- It writes them once.  If it ends with a failure of its own after that, the audit log cannot be
  read. -/
  | storing (book : RuleBook) (earlier later : List (Option Write))
      (ends : Except Failure (Option AuditEntry) → Prop)
      (stores : ws.bookAfter? call store = some book)
      (place : earlier.length + 1 = call.callsToBook)
      (apart : ∀ w, some w ∈ earlier ++ later → ws.rulesKey.text ≠ w.key.text)
      (takes : (ws.perform call).Takes store
        (earlier ++ some (.set ws.rulesKey (RuleBook.codec.text book)) :: later) ends)
      (unrecorded : ∀ failure, ends (.error failure) → ws.logIn store = .error failure)

variable {ws : Workspace} {store : Store} {stamp : Stamp} {user : String}

section Recorded

variable {α : Type} {call : Call} {action : Action α} {f : α → AuditEntry}
  (performs : ws.perform call = do return some (f (← action)))
include performs

/-- A call that is refused does not write the rules. -/
theorem Attempt.of_refused {failure : Failure} (nothing : ws.bookAfter? call store = none)
    (takes : action.Takes store [none] (· = .error failure)) : ws.Attempt call store := by
  refine .idle nothing ?_
  rw [performs]
  exact (Action.Follows.map (fun a => some (f a)) takes.follows).imp fun _ _ => trivial

theorem Attempt.of_stores {book : RuleBook} (earlier later : List (Option Write))
    {ends : Except Failure α → Prop} (stores : ws.bookAfter? call store = some book)
    (place : earlier.length + 1 = call.callsToBook)
    (apart : ∀ w, some w ∈ earlier ++ later → ws.rulesKey.text ≠ w.key.text)
    (takes : action.Takes store
      (earlier ++ some (.set ws.rulesKey (RuleBook.codec.text book)) :: later) ends)
    (unrecorded : ∀ failure, ends (.error failure) → ws.logIn store = .error failure) :
    ws.Attempt call store := by
  have performed := Action.Takes.map (fun a => some (f a)) takes
  rw [← performs] at performed
  refine .storing book earlier later _ stores place apart performed ?_
  rintro failure ⟨inner, ended, same⟩
  cases inner with
  | ok a => cases same
  | error cause =>
      cases same
      exact unrecorded failure ended

end Recorded

/-- What is recorded is not among the rules. -/
theorem rulesKey_ne_of_mem_readThen {log : AuditLog} {entry : AuditEntry} (w : Write)
    (member : some w ∈ Action.readThen (ws.recordWrites log entry)) :
    ws.rulesKey.text ≠ w.key.text := by
  rw [← List.reduceOption_mem_iff, Action.reduceOption_readThen] at member
  exact ws.rulesKey_ne_of_mem_recordWrites member

/-- An edit writes the rules after a snapshot of them. -/
theorem Attempt.of_edit {edit : Edit} {old : RuleBook} {rules : List Rule}
    (loaded : ws.bookIn store = .ok old) (edited : edit.apply old.rules = .ok rules)
    (valid : isValidRuleSet rules = true) {later : List (Option Write)}
    {ends : Except Failure AuditEntry → Prop}
    (takes : (ws.edit stamp user edit).Takes store
      (Action.readThen (ws.storeWrites stamp old rules) ++ later) ends)
    (others : ∀ w, some w ∈ later → ws.rulesKey.text ≠ w.key.text)
    (unrecorded : ∀ failure, ends (.error failure) → ws.logIn store = .error failure) :
    ws.Attempt (.edit stamp user edit) store := by
  have stores : ws.bookAfter? (.edit stamp user edit) store = some { old with rules } := by
    simp [bookAfter?, loaded, edited, valid]
  refine .of_stores (f := id) rfl
    [none, some (.set (ws.snapshotKey stamp.snapshotId) (Rule.listCodec.text rules))] later stores rfl
    (fun w member => ?_) takes unrecorded
  rcases List.mem_append.1 member with earlier | member
  · simp only [List.mem_cons, List.not_mem_nil, or_false, reduceCtorEq, false_or,
      Option.some.injEq] at earlier
    subst earlier
    exact ws.rulesKey_ne_snapshotKey _
  · exact others w member

/-- A publication writes the rules first, with their script. -/
theorem Attempt.of_publication {book : RuleBook} (loaded : ws.bookIn store = .ok book)
    (valid : isValidRuleSet book.rules = true) {later : List (Option Write)}
    {ends : Except Failure PublishReport → Prop}
    (takes : (ws.publish stamp user).Takes store
      (Action.readThen (ws.scriptWrites stamp book) ++ later) ends)
    (others : ∀ w, some w ∈ later → ws.rulesKey.text ≠ w.key.text)
    (unrecorded : ∀ failure, ends (.error failure) → ws.logIn store = .error failure) :
    ws.Attempt (.publish stamp user) store := by
  have stores : ws.bookAfter? (.publish stamp user) store =
      some { book with script := (Script.compile book.rules stamp.compiledAt).source } := by
    simp [bookAfter?, loaded, valid]
  refine .of_stores (f := PublishReport.entry) rfl [none]
    (some (.set (ws.snapshotKey stamp.snapshotId) (Rule.listCodec.text book.rules)) :: later) stores rfl
    (fun w member => ?_) takes unrecorded
  simp only [List.cons_append, List.nil_append, List.mem_cons, reduceCtorEq, false_or,
    Option.some.injEq] at member
  rcases member with rfl | member
  · exact ws.rulesKey_ne_snapshotKey _
  · exact others w member

theorem attempt_edit (ws : Workspace) (stamp : Stamp) (user : String) (edit : Edit) (store : Store) :
    ws.Attempt (.edit stamp user edit) store := by
  cases ws.edit_course stamp user edit store with
  | unread failure loaded takes =>
      exact .of_refused rfl (by simp only [bookAfter?, loaded]) takes
  | unknown old unknown loaded refused takes =>
      exact .of_refused rfl (by simp only [bookAfter?, loaded, refused]) takes
  | invalid old rules loaded edited invalid takes =>
      exact .of_refused rfl (by simp [bookAfter?, loaded, edited, invalid]) takes
  | unrecorded old rules failure loaded edited valid unread takes =>
      refine .of_edit loaded edited valid takes (fun w member => ?_) fun failure' ended => ?_
      · cases List.mem_singleton.1 member
      · cases ended
        exact unread
  | recorded old rules log loaded edited valid read takes =>
      refine .of_edit loaded edited valid takes rulesKey_ne_of_mem_readThen fun failure ended => ?_
      cases ended

theorem attempt_publish (ws : Workspace) (stamp : Stamp) (user : String) (store : Store) :
    ws.Attempt (.publish stamp user) store := by
  cases ws.publish_course stamp user store with
  | unread failure loaded takes =>
      exact .of_refused rfl (by simp only [bookAfter?, loaded]) takes
  | invalid book loaded invalid takes =>
      exact .of_refused rfl (by simp [bookAfter?, loaded, invalid]) takes
  | unrecorded book failure loaded valid unread takes =>
      refine .of_publication loaded valid takes (fun w member => ?_) fun failure' ended => ?_
      · cases List.mem_singleton.1 member
      · cases ended
        exact unread
  | recorded book log loaded valid read takes =>
      refine .of_publication loaded valid takes rulesKey_ne_of_mem_readThen ?_
      rintro failure ⟨purge, ended⟩
      cases ended

theorem bookAfter?_of_stamp?_eq_none {call : Call} (idle : call.stamp? = none) :
    ws.bookAfter? call store = none := by
  cases call with
  | edit stamp user edit => cases idle
  | publish stamp user => cases idle
  | _ => rfl

theorem attempt (ws : Workspace) (call : Call) (store : Store) : ws.Attempt call store := by
  cases stamped : call.stamp? with
  | none =>
      obtain ⟨_, action, reads, same⟩ := ws.exists_reads_of_stamp?_eq_none stamped
      refine .idle (bookAfter?_of_stamp?_eq_none stamped) ?_
      rw [same]
      exact (reads.bind fun _ => Action.reads_pure _) store
  | some _ =>
      cases call with
      | edit stamp user edit => exact ws.attempt_edit stamp user edit store
      | publish stamp user => exact ws.attempt_publish stamp user store
      | _ => cases stamped

/-! ## After a failure -/

theorem exists_cause_of_logIn_eq_error {failure : Failure}
    (unread : ws.logIn store = .error failure) :
    ∃ cause, failure = .error (.audit cause) ∧
      ws.auditLogOf (store.get? ws.auditKey) = .error cause := by
  unfold logIn at unread
  cases read : ws.auditLogOf (store.get? ws.auditKey) with
  | ok log =>
      rw [read] at unread
      cases unread
  | error cause =>
      rw [read] at unread
      cases unread
      exact ⟨cause, rfl, rfl⟩

/-- **What a call that failed leaves of the stored rules.**  If there is a book that it is to store and
the store answered up to the call that stores it, that book is stored, and the failure is one of
recording: the audit log cannot be read, or a later call of the store failed.  Otherwise the stored
rules are as they were. -/
theorem rules_after_failure {call : Call} {world after : World} {failure : Failure}
    (failed : (ws.perform call).run world = (.error failure, after)) :
    (∀ book, ws.bookAfter? call world.store = some book → world.Answers call.callsToBook →
      after.store.get? ws.rulesKey = some (RuleBook.codec.text book) ∧
      ((∃ cause, failure = .error (.audit cause) ∧
          ws.auditLogOf (world.store.get? ws.auditKey) = .error cause) ∨
        (failure = .error .unreachable ∧ ∃ n, call.callsToBook ≤ n ∧
          world.storeFails (world.storeCalls + n) = true))) ∧
    (ws.bookAfter? call world.store = none ∨ ¬ world.Answers call.callsToBook →
      after.store.get? ws.rulesKey = world.store.get? ws.rulesKey) := by
  cases ws.attempt call world.store with
  | idle nothing follows =>
      refine ⟨fun book stores => ?_, fun _ => ?_⟩
      · cases nothing.symm.trans stores
      · obtain ⟨made, before, wrote⟩ := follows.made rfl
        rw [failed] at wrote
        rw [wrote.store, List.prefix_nil.1 before, Store.writeAll_nil]
  | storing book earlier later ends stores place apart takes unrecorded =>
      rw [← place]
      rcases takes.text_of_error apart failed with ⟨answers, stored, why⟩ | ⟨unanswered, kept⟩
      · refine ⟨fun book' stores' _ => ?_, fun otherwise => ?_⟩
        · cases stores.symm.trans stores'
          refine ⟨stored, why.imp_left fun ended => ?_⟩
          exact exists_cause_of_logIn_eq_error (unrecorded failure ended)
        · rcases otherwise with nothing | unanswered
          · cases nothing.symm.trans stores
          · exact absurd answers unanswered
      · exact ⟨fun _ _ answers => absurd answers unanswered, fun _ => kept⟩

/-! ## An audit log that cannot be read -/

/-- Nothing is stored but a text that is no audit log. -/
def garbledLog : World :=
  { store := Store.empty.set usual.auditKey "oops" }

/-- The rule about the banner is saved. -/
def saveBanner : Call :=
  .edit ⟨"s1", "e1", .epoch, .epoch⟩ "ann" (.replaceAll [hideBanner])

theorem bookIn_garbledLog : usual.bookIn garbledLog.store = .ok {} :=
  rfl

/-- A rule is saved there, and only then it turns out that this cannot be recorded. -/
theorem run_edit_garbledLog (stamp : Stamp) (user : String) :
    ∃ failure after, (usual.edit stamp user (.replaceAll [hideBanner])).run garbledLog =
        (.error failure, after) ∧
      after.store.get? usual.rulesKey = some (RuleBook.codec.text { rules := [hideBanner] }) := by
  have garbled : (usual.logIn garbledLog.store).isOk = false := by decide +kernel
  cases unread : usual.logIn garbledLog.store with
  | ok log =>
      rw [unread] at garbled
      cases garbled
  | error failure =>
      have unrecorded := usual.logIn_storeWrites stamp {} [hideBanner] garbledLog.store
      rw [unread] at unrecorded
      have edited : Edit.apply (.replaceAll [hideBanner]) ({} : RuleBook).rules =
          .ok [hideBanner] := rfl
      have takes := usual.takes_edit_of_valid bookIn_garbledLog edited stamp user (by decide)
        (usual.takes_recordEntry_error unrecorded _).bind_error
      obtain ⟨failed, wrote⟩ := takes.follows.of_reliable rfl fun _ => rfl
      refine ⟨failure, _, Prod.ext failed rfl, ?_⟩
      rw [wrote.store]
      exact Store.get?_set_self _ _ _

/-- A failure does not tell that the stored rules are as they were. -/
theorem not_kept_by_every_failure :
    ¬ ∀ (world after : World) (stamp : Stamp) (user : String) (edit : Edit) (failure : Failure),
      (usual.edit stamp user edit).run world = (.error failure, after) →
        after.store.get? usual.rulesKey = world.store.get? usual.rulesKey := by
  intro kept
  obtain ⟨failure, after, failed, stored⟩ :=
    run_edit_garbledLog ⟨"s1", "e1", .epoch, .epoch⟩ "ann"
  rw [kept _ _ _ _ _ _ failed] at stored
  cases stored

/-- The saved rule stays. -/
theorem rules_after_failure_garbledLog :
    ∃ failure after, (usual.perform saveBanner).run garbledLog = (.error failure, after) ∧
      after.store.get? usual.rulesKey = some (RuleBook.codec.text { rules := [hideBanner] }) ∧
      ∃ cause, failure = .error (.audit cause) := by
  obtain ⟨failure, after, ran, -⟩ := run_edit_garbledLog ⟨"s1", "e1", .epoch, .epoch⟩ "ann"
  have failed : (usual.perform saveBanner).run garbledLog = (.error failure, after) := by
    rw [saveBanner, perform, Action.run_map, ran]
    rfl
  have stores : usual.bookAfter? saveBanner garbledLog.store = some { rules := [hideBanner] } := by
    simp only [bookAfter?, saveBanner, bookIn_garbledLog, Edit.apply]
    decide
  obtain ⟨stored, why⟩ := (rules_after_failure failed).1 _ stores fun _ _ => rfl
  refine ⟨failure, after, failed, stored, ?_⟩
  rcases why with ⟨cause, same, -⟩ | ⟨-, n, -, fails⟩
  · exact ⟨cause, same⟩
  · cases fails

end Workspace

end Exclusion
