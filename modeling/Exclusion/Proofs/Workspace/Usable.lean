/-
# Exclusion.Proofs.Workspace.Usable -- a workspace stays usable

Runs of calls on a workspace whose store is empty at first and never fails.  Whatever calls are made,
refused ones among them, what is stored afterwards can be read, and the stored rules may be stored
again (`Usable.step`).  So no run leads into a state that blocks the workspace: everything can be read
and published, and an edit succeeds exactly if it is acceptable to the stored rules (`stays_usable`).

The ids of snapshots may be used again, and dates may be finer than a millisecond.  Leap seconds are
left out: they are stored as the next second, and there the end of a rule may come before its start.
-/
import Exclusion.Proofs.Rule.Validity
import Exclusion.Proofs.Workspace.Recording

namespace Exclusion.Workspace

set_option autoImplicit false

open Exclusion.Json

variable (ws : Workspace)

/-- The store of the session does not fail, and what it has can be read and edited. -/
structure Usable (session : Session) : Prop where
  reliable : ∀ n, session.world.storeFails n = false
  log : ∃ log, ws.logIn session.world.store = .ok log
  book : ∃ stored, readIn RuleBook.codec ws.rulesKey session.world.store = .ok stored ∧
    isValidRuleSet (stored.getD {}).rules = true

theorem usable_empty {world : World} (empty : world.store = .empty)
    (reliable : ∀ n, world.storeFails n = false) : ws.Usable ⟨world, []⟩ where
  reliable := reliable
  log := by
    rw [empty]
    exact ⟨_, ws.logIn_of_none rfl⟩
  book := by
    rw [empty]
    exact ⟨none, readIn_of_none rfl, rfl⟩

variable {ws} {session : Session} {call : Call}

/-! ## Runs -/

theorem Usable.quiet (usable : ws.Usable session)
    (follows : (ws.perform call).Follows session.world.store [] IsQuiet) :
    ws.Usable (ws.step session call) := by
  have wrote := (follows.of_reliable rfl usable.reliable).2
  have same := store_step_of_quiet usable.reliable follows
  exact {
    reliable := by
      rw [world_step, wrote.fails]
      exact usable.reliable
    log := same ▸ usable.log
    book := same ▸ usable.book }

theorem Usable.record (usable : ws.Usable session) {log : AuditLog} {stamp : Stamp} {book : RuleBook}
    {entry : AuditEntry} {writes : List Write}
    (read : ws.logIn session.world.store = .ok log)
    (recording : ws.Recording call session.world.store log stamp book entry writes)
    (avoid : ∀ r ∈ call.rules, r.AvoidsLeapSeconds) (timely : call.IsTimely) :
    ws.Usable (ws.step session call) := by
  have wrote := (recording.follows.of_reliable rfl usable.reliable).2
  obtain ⟨mid, stores, records⟩ := recording.step usable.reliable
  have plain := ws.isLeap_of_mem_record read (recording.isLeap_eq_false timely)
  have logged := ws.logIn_of_get? records.logged plain
  have stored := ws.readIn_rulesKey_of_get? (records.rules.trans stores.stored)
    (recording.avoidsLeapSeconds avoid)
  exact {
    reliable := by
      rw [world_step, wrote.fails]
      exact usable.reliable
    log := ⟨_, logged⟩
    book := ⟨_, stored, isValidRuleSet_floorMilli recording.valid⟩ }

/-- **Every call preserves that the workspace is usable.** -/
theorem Usable.step (usable : ws.Usable session) (avoid : ∀ r ∈ call.rules, r.AvoidsLeapSeconds)
    (timely : call.IsTimely) : ws.Usable (ws.step session call) := by
  obtain ⟨log, read⟩ := usable.log
  rcases quiet_or_recording read call with quiet | ⟨stamp, book, entry, writes, recording⟩
  · exact usable.quiet quiet
  · exact usable.record read recording avoid timely

/-! ## What succeeds -/

/-- Where everything can be read, an edit succeeds exactly if it is acceptable. -/
theorem edit_ok_iff {world : World} (reliable : ∀ n, world.storeFails n = false) {book : RuleBook}
    (loaded : ws.bookIn world.store = .ok book) (valid : isValidRuleSet book.rules = true)
    {log : AuditLog} (read : ws.logIn world.store = .ok log) (stamp : Stamp) (user : String)
    (edit : Edit) :
    (∃ entry, ((ws.edit stamp user edit).run world).1 = .ok entry) ↔ edit.IsAcceptable book.rules := by
  rw [Edit.isAcceptable_iff valid]
  cases ws.edit_course stamp user edit world.store with
  | unread failure loaded' takes => cases loaded.symm.trans loaded'
  | unknown old unknown loaded' refused takes =>
      cases loaded.symm.trans loaded'
      have failed := (takes.follows.of_reliable rfl reliable).1
      simp [failed, refused]
  | invalid old rules loaded' edited invalid takes =>
      cases loaded.symm.trans loaded'
      have failed := (takes.follows.of_reliable rfl reliable).1
      simp [failed, edited, invalid]
  | unrecorded old rules failure loaded' edited valid' unread takes => cases read.symm.trans unread
  | recorded old rules log' loaded' edited valid' read' takes =>
      cases loaded.symm.trans loaded'
      have recorded := (takes.follows.of_reliable rfl reliable).1
      simp [recorded, edited, valid']

/-- **A workspace stays usable.**  After every run the rule book, the audit log and the artifact can be
read, pages can be previewed and the rules can be published.  A list of rules can be saved exactly if
it is valid, a rule can be put in if it has no issues, and toggled or deleted if it is there. -/
theorem stays_usable (ws : Workspace) {world : World} (empty : world.store = .empty)
    (reliable : ∀ n, world.storeFails n = false) {calls : List Call}
    (avoid : ∀ call ∈ calls, ∀ r ∈ call.rules, r.AvoidsLeapSeconds)
    (timely : ∀ call ∈ calls, call.IsTimely) :
    ∃ book log artifact,
      (ws.load.run (ws.play world calls).world).1 = .ok book ∧
      (ws.auditLog.run (ws.play world calls).world).1 = .ok log ∧
      (ws.artifact.run (ws.play world calls).world).1 = .ok artifact ∧
      (∀ page now duration, ∃ trace,
        ((ws.preview page now duration).run (ws.play world calls).world).1 = .ok trace) ∧
      (∀ stamp user, ∃ report,
        ((ws.publish stamp user).run (ws.play world calls).world).1 = .ok report) ∧
      ∀ stamp user edit,
        (∃ entry, ((ws.edit stamp user edit).run (ws.play world calls).world).1 = .ok entry) ↔
          edit.IsAcceptable book.rules := by
  have usable : ws.Usable (ws.play world calls) :=
    play_of_each (fun call => (∀ r ∈ call.rules, r.AvoidsLeapSeconds) ∧ call.IsTimely) ws.Usable
      (fun usable fit => usable.step fit.1 fit.2)
      (fun call made => ⟨avoid call made, timely call made⟩) (ws.usable_empty empty reliable)
  obtain ⟨log, read⟩ := usable.log
  obtain ⟨stored, found, valid⟩ := usable.book
  have inStore : ws.bookIn (ws.play world calls).world.store = .ok (stored.getD {}) := by
    rw [bookIn, found]
    rfl
  have loaded : (ws.load.run (ws.play world calls).world).1 = .ok (stored.getD {}) :=
    ((ws.follows_load _).of_reliable rfl usable.reliable).1.trans inStore
  have logged := ((ws.follows_auditLog _).of_reliable rfl usable.reliable).1.trans read
  have shown := ((ws.follows_artifact _).of_reliable rfl usable.reliable).1
  rw [found] at shown
  refine ⟨_, log, _, loaded, logged, shown, ?_, ?_, ?_⟩
  · intro page now duration
    rw [preview, Action.run_map, loaded]
    exact ⟨_, rfl⟩
  · intro stamp user
    obtain ⟨purge, after, published⟩ := ws.publish_ok usable.reliable inStore valid read stamp user
    exact ⟨_, congrArg Prod.fst published⟩
  · intro stamp user edit
    exact edit_ok_iff usable.reliable inStore valid read stamp user edit

/-- The banner is published, switched off and published again, and one call is refused. -/
theorem stays_usable_bannerCalls :
    ∃ book log artifact,
      (usual.load.run (usual.play {} bannerCalls).world).1 = .ok book ∧
      (usual.auditLog.run (usual.play {} bannerCalls).world).1 = .ok log ∧
      (usual.artifact.run (usual.play {} bannerCalls).world).1 = .ok artifact ∧
      (∀ page now duration, ∃ trace,
        ((usual.preview page now duration).run (usual.play {} bannerCalls).world).1 = .ok trace) ∧
      (∀ stamp user, ∃ report,
        ((usual.publish stamp user).run (usual.play {} bannerCalls).world).1 = .ok report) ∧
      ∀ stamp user edit,
        (∃ entry, ((usual.edit stamp user edit).run (usual.play {} bannerCalls).world).1 =
            .ok entry) ↔
          edit.IsAcceptable book.rules :=
  stays_usable usual rfl (fun _ => rfl) (by decide) (by decide)

end Exclusion.Workspace
