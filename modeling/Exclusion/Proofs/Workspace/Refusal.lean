/-
# Exclusion.Proofs.Workspace.Refusal -- a call that is refused has no effect

An edit and a publication first load the rule book, then find out whether they may go on, and only then
write.  They are refused if the book cannot be read, if no rule has the id that is named, or if the
rules may not be stored.  A call that is refused has made one call of the store, which was to read, and
nothing else has changed, neither in the store nor in the cache; and the same is so if that one call
failed (`refused_without_effect`).

What can fail after the first write is never a refusal (`Opening.proceeds`): the audit log cannot be
read, or the store cannot be reached.
-/
import Exclusion.Proofs.Scheduler.Tick
import Exclusion.Proofs.Workspace.Failing

namespace Exclusion

set_option autoImplicit false

open Exclusion.Json

/-- The call was refused: it found that it may not go on. -/
def WorkspaceError.IsRefusal : WorkspaceError → Prop
  | .invalid _ | .unknownRule _ | .undecodable _ => True
  | .unreachable | .audit _ => False

/-- How an action that loads the rule book first can go on from there. -/
inductive Action.Opening {α : Type} (action : Action α) (world : World) : Prop where
  /-- It fails right after its first call of the store. -/
  | stops (failure : Failure) (ran : action.run world = (.error failure, world.called))
  /-- The first call was answered, and the action is not refused. -/
  | proceeds (answered : world.storeFails world.storeCalls = false)
      (fails : ∀ cause, (action.run world).1 = .error (.error cause) → ¬ cause.IsRefusal)

namespace Action

variable {α : Type} {action : Action α} {world after : World}

/-- An action that is refused, or whose first call of the store fails, does nothing else. -/
theorem Opening.eq_called {cause : WorkspaceError} (opening : action.Opening world)
    (failed : action.run world = (.error (.error cause), after))
    (early : cause.IsRefusal ∨ world.storeFails world.storeCalls = true) : after = world.called := by
  cases opening with
  | stops failure ran => exact congrArg Prod.snd (failed.symm.trans ran)
  | proceeds answered fails =>
      rcases early with refused | unanswered
      · exact absurd refused (fails cause (congrArg Prod.fst failed))
      · cases answered.symm.trans unanswered

/-- An action that gives a result or cannot read the audit log is not refused. -/
theorem Takes.not_refused {calls : List (Option Write)} {ends : Except Failure α → Prop}
    (takes : action.Takes world.store calls ends)
    (unrefused : ∀ cause, ends (.error (.error cause)) → ¬ cause.IsRefusal) :
    ∀ cause, (action.run world).1 = .error (.error cause) → ¬ cause.IsRefusal := by
  intro cause failed
  rcases takes.ends_or_unreachable with ended | broken
  · exact unrefused cause (failed ▸ ended)
  · cases failed.symm.trans broken
    exact id

end Action

namespace Workspace

variable {ws : Workspace} {world : World} {store : Store}

/-! ## Loading -/

/-- Loading takes one call of the store. -/
theorem run_load_snd (ws : Workspace) (world : World) : (ws.load.run world).2 = world.called := by
  rw [load, Action.run_map, run_loadStored]

/-- What is loaded is what is in the store, and the store answered. -/
theorem bookIn_of_run_load {book : RuleBook} (loaded : (ws.load.run world).1 = .ok book) :
    ws.bookIn world.store = .ok book ∧ world.storeFails world.storeCalls = false := by
  rcases ws.takes_load world.store world rfl with ⟨answers, read, -⟩ | ⟨n, -, -, -, broken, -⟩
  · exact ⟨read.symm.trans loaded, answers 0 Nat.one_pos⟩
  · cases loaded.symm.trans broken

/-- Whatever goes on from the loaded book opens if it ends at once or is not refused. -/
theorem opening_of_load {α : Type} {next : RuleBook → Action α}
    (goesOn : ∀ book, ws.bookIn world.store = .ok book →
      (∃ failure, (next book).run world.called = (.error failure, world.called)) ∨
      ∀ cause, ((ws.load >>= next).run world).1 = .error (.error cause) → ¬ cause.IsRefusal) :
    (ws.load >>= next).Opening world := by
  cases loaded : (ws.load.run world).1 with
  | error failure =>
      refine .stops failure ?_
      rw [Action.run_bind_error loaded, run_load_snd]
  | ok book =>
      obtain ⟨inStore, answered⟩ := bookIn_of_run_load loaded
      rcases goesOn book inStore with ⟨failure, stopped⟩ | unrefused
      · refine .stops failure ?_
        rw [Action.run_bind_ok loaded, run_load_snd, stopped]
      · exact .proceeds answered unrefused

/-! ## Openings -/

theorem requireValid_eq_fail {rules : List Rule} (invalid : isValidRuleSet rules = false) :
    requireValid rules = Action.fail (.error (.invalid (ruleSetIssues rules))) := by
  simp [requireValid, invalid]

/-- That the audit log cannot be read is no refusal. -/
theorem not_refused_of_unrecorded {α : Type} {action : Action α} {calls : List (Option Write)}
    {failure : Failure} (unread : ws.logIn world.store = .error failure)
    (takes : action.Takes world.store calls (· = .error failure)) :
    ∀ cause, (action.run world).1 = .error (.error cause) → ¬ cause.IsRefusal := by
  refine takes.not_refused fun cause ended => ?_
  cases ended
  obtain ⟨audit, same, -⟩ := exists_cause_of_logIn_eq_error unread
  cases same
  exact id

theorem opening_edit (ws : Workspace) (stamp : Stamp) (user : String) (edit : Edit) (world : World) :
    (ws.edit stamp user edit).Opening world := by
  refine opening_of_load fun old inStore => ?_
  cases edited : edit.apply old.rules with
  | error unknown => exact .inl ⟨.error (.unknownRule unknown.id), rfl⟩
  | ok rules =>
      cases valid : isValidRuleSet rules with
      | false =>
          refine .inl ⟨.error (.invalid (ruleSetIssues rules)), ?_⟩
          show (ws.commit stamp user old rules).run world.called = _
          rw [commit, requireValid_eq_fail valid]
          rfl
      | true =>
          right
          show ∀ cause, ((ws.edit stamp user edit).run world).1 = .error (.error cause) → _
          cases ws.edit_course stamp user edit world.store with
          | unread failure loaded takes => cases inStore.symm.trans loaded
          | unknown old' unknown loaded refused takes =>
              cases inStore.symm.trans loaded
              cases edited.symm.trans refused
          | invalid old' rules' loaded edited' invalid takes =>
              cases inStore.symm.trans loaded
              cases edited.symm.trans edited'
              cases valid.symm.trans invalid
          | unrecorded old' rules' failure loaded edited' valid' unread takes =>
              exact not_refused_of_unrecorded unread takes
          | recorded old' rules' log loaded edited' valid' read takes =>
              exact takes.not_refused fun cause ended => nomatch ended

theorem opening_publish (ws : Workspace) (stamp : Stamp) (user : String) (world : World) :
    (ws.publish stamp user).Opening world := by
  refine opening_of_load fun book inStore => ?_
  cases valid : isValidRuleSet book.rules with
  | false =>
      refine .inl ⟨.error (.invalid (ruleSetIssues book.rules)), ?_⟩
      rw [requireValid_eq_fail valid]
      rfl
  | true =>
      right
      show ∀ cause, ((ws.publish stamp user).run world).1 = .error (.error cause) → _
      cases ws.publish_course stamp user world.store with
      | unread failure loaded takes => cases inStore.symm.trans loaded
      | invalid book' loaded invalid takes =>
          cases inStore.symm.trans loaded
          cases valid.symm.trans invalid
      | unrecorded book' failure loaded valid' unread takes =>
          exact not_refused_of_unrecorded unread takes
      | recorded book' log loaded valid' read takes =>
          exact takes.not_refused fun cause ended => nomatch ended

/-! ## Refusals -/

/-- **A call that is refused has no effect.**  Whatever is stored and whatever calls of the store fail:
after an edit or a publication that is refused, or whose first call of the store fails, the world is as
it was but for that one call. -/
theorem refused_without_effect (ws : Workspace) {world after : World} {cause : WorkspaceError}
    (early : cause.IsRefusal ∨ world.storeFails world.storeCalls = true) (stamp : Stamp)
    (user : String) :
    (∀ edit, (ws.edit stamp user edit).run world = (.error (.error cause), after) →
      after = { world with storeCalls := world.storeCalls + 1 }) ∧
    ((ws.publish stamp user).run world = (.error (.error cause), after) →
      after = { world with storeCalls := world.storeCalls + 1 }) := by
  refine ⟨fun edit failed => ?_, fun failed => ?_⟩
  · exact (ws.opening_edit stamp user edit world).eq_called failed early
  · exact (ws.opening_publish stamp user world).eq_called failed early

/-- A list that has the rule about the banner twice is refused where the audit log cannot be read. -/
theorem refused_without_effect_bannerTwice :
    ∃ after, (usual.edit ⟨"s1", "e1", .epoch, .epoch⟩ "ann" (.replaceAll [hideBanner, hideBanner])).run
        garbledLog = (.error (.error (.invalid [⟨"r1", .duplicateId⟩])), after) ∧
      after = { garbledLog with storeCalls := 1 } := by
  have refused : (usual.edit ⟨"s1", "e1", .epoch, .epoch⟩ "ann"
      (.replaceAll [hideBanner, hideBanner])).run garbledLog =
        (.error (.error (.invalid [⟨"r1", .duplicateId⟩])), garbledLog.called) := rfl
  have isRefusal : (WorkspaceError.invalid [⟨"r1", .duplicateId⟩]).IsRefusal := trivial
  exact ⟨_, refused, (refused_without_effect usual (.inl isRefusal) _ _).1 _ refused⟩

end Workspace

end Exclusion
