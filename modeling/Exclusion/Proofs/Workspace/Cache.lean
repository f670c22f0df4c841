/-
# Exclusion.Proofs.Workspace.Cache -- what a workspace does whatever its cache does

The cache is asked to drop the artifact, and says whether it did.  An action ignores the cache if it
does the same with any cache and leaves the cache as it is (`Action.IgnoresCache`).  The law goes through
sequences of actions, and whatever reads or edits obeys it.

A publication and a sweep ignore the cache up to their last step, in which they may ask it.  So whether
they ask, what they leave in the store and what they report does not depend on the cache, but for the
status of the purge in the report (`CacheCourse`).
-/
import Exclusion.Proofs.Scheduler.Tick
import Exclusion.Proofs.Workspace.Locality

namespace Exclusion

set_option autoImplicit false

/-! ## Caches -/

namespace World

/-- The world with the cache of another. -/
def withCache (world cache : World) : World :=
  { world with purges := cache.purges, purgeFails := cache.purgeFails }

/-- The world after requests to its cache. -/
def asked (world : World) (urls : List String) : World :=
  { world with purges := world.purges ++ urls }

/-- The worlds differ at most in their caches. -/
def SameButCache (a b : World) : Prop :=
  a.withCache b = b

theorem sameButCache_withCache (world a b : World) :
    (world.withCache a).SameButCache (world.withCache b) :=
  rfl

theorem SameButCache.store {a b : World} (same : a.SameButCache b) : a.store = b.store :=
  (congrArg World.store same : (a.withCache b).store = b.store)

theorem SameButCache.exists_cache {a b : World} (same : a.SameButCache b) :
    ∃ cache, b = a.withCache cache :=
  ⟨b, Eq.symm same⟩

end World

/-! ## Actions that ignore the cache -/

/-- The action does the same with any cache, and leaves the cache as it is. -/
def Action.IgnoresCache {α : Type} (action : Action α) : Prop :=
  ∀ world cache : World, action.run (world.withCache cache) =
    ((action.run world).1, (action.run world).2.withCache cache)

namespace Action

variable {α β : Type}

theorem ignoresCache_pure (a : α) : (pure a : Action α).IgnoresCache :=
  fun _ _ => rfl

theorem ignoresCache_fail (failure : Failure) : (fail failure : Action α).IgnoresCache :=
  fun _ _ => rfl

theorem ignoresCache_ofExcept {ε : Type} (failure : ε → Failure) (result : Except ε α) :
    (ofExcept failure result).IgnoresCache :=
  fun _ _ => rfl

theorem ignoresCache_callStore (call : Store → α × Store) : (callStore call).IgnoresCache := by
  intro world cache
  by_cases fails : world.storeFails world.storeCalls = true <;>
    simp [run, callStore, World.withCache, fails]

theorem ignoresCache_get? (key : StoreKey) : (get? key).IgnoresCache :=
  ignoresCache_callStore _

theorem ignoresCache_set (key : StoreKey) (value : String) : (set key value).IgnoresCache :=
  ignoresCache_callStore _

theorem ignoresCache_erase (key : StoreKey) : (erase key).IgnoresCache :=
  ignoresCache_callStore _

theorem IgnoresCache.bind {first : Action α} {next : α → Action β} (begun : first.IgnoresCache)
    (continued : ∀ a, (next a).IgnoresCache) : (first >>= next).IgnoresCache := by
  intro world cache
  have ran := begun world cache
  cases result : (first.run world).1 with
  | ok a =>
      rw [run_bind_ok result, run_bind_ok (congrArg Prod.fst ran |>.trans result), ran]
      exact continued a (first.run world).2 cache
  | error failure =>
      rw [run_bind_error result, run_bind_error (congrArg Prod.fst ran |>.trans result), ran]

theorem IgnoresCache.map {action : Action α} (f : α → β) (ignores : action.IgnoresCache) :
    (do return f (← action)).IgnoresCache :=
  ignores.bind fun _ => ignoresCache_pure _

theorem ignoresCache_eraseAll (keys : List StoreKey) : (eraseAll keys).IgnoresCache := by
  induction keys with
  | nil => exact ignoresCache_pure ()
  | cons key keys ih => exact (ignoresCache_erase key).bind fun _ => ih

end Action

/-! ## Actions that may ask the cache -/

/-- What an action comes to with any cache.  It fails, or it gives something that tells of no purge, or
it asks at its end, and what it gives tells how the purge went. -/
inductive CacheCourse {α : Type} (ws : Workspace) (purge? : α → Option PurgeStatus)
    (withPurge : PurgeStatus → α → α) (action : Action α) (world : World) : Prop where
  | failed (failure : Failure) (after : World)
      (ran : ∀ cache, action.run (world.withCache cache) = (.error failure, after.withCache cache))
  | silent (a : α) (after : World) (silent : purge? a = none)
      (ran : ∀ cache, action.run (world.withCache cache) = (.ok a, after.withCache cache))
  | asked (a : α) (after : World) (tells : ∀ purge, purge? (withPurge purge a) = some purge)
      (ran : ∀ cache, action.run (world.withCache cache) =
        (.ok (withPurge (ws.purgeStatus cache) a), after.withCache (cache.asked ws.purgeRequests)))

namespace CacheCourse

variable {α β : Type} {ws : Workspace} {purge? : α → Option PurgeStatus}
  {withPurge : PurgeStatus → α → α} {action : Action α} {world : World}

theorem of_ignores (ignores : action.IgnoresCache) (silent : ∀ a, purge? a = none) :
    CacheCourse ws purge? withPurge action world := by
  have ran := ignores world
  cases result : (action.run world).1 with
  | error failure => exact .failed failure _ (result ▸ ran)
  | ok a => exact .silent a _ (silent a) (result ▸ ran)

/-- What ignores the cache may come before. -/
theorem bind {first : Action β} {next : β → Action α} (begun : first.IgnoresCache)
    (continued : ∀ b world, CacheCourse ws purge? withPurge (next b) world) :
    CacheCourse ws purge? withPurge (first >>= next) world := by
  have ran := begun world
  cases result : (first.run world).1 with
  | error failure =>
      refine .failed failure (first.run world).2 fun cache => ?_
      rw [Action.run_bind_error (congrArg Prod.fst (ran cache) |>.trans result), ran]
  | ok b =>
      have step : ∀ cache, (first >>= next).run (world.withCache cache) =
          (next b).run ((first.run world).2.withCache cache) := by
        intro cache
        rw [Action.run_bind_ok (congrArg Prod.fst (ran cache) |>.trans result), ran]
      cases continued b (first.run world).2 with
      | failed failure after rest =>
          exact .failed failure after fun cache => (step cache).trans (rest cache)
      | silent a after silent rest =>
          exact .silent a after silent fun cache => (step cache).trans (rest cache)
      | asked a after tells rest =>
          exact .asked a after tells fun cache => (step cache).trans (rest cache)

theorem map {f : α → β} {purge?' : β → Option PurgeStatus} {withPurge' : PurgeStatus → β → β}
    (same : ∀ a, purge?' (f a) = purge? a)
    (commutes : ∀ purge a, f (withPurge purge a) = withPurge' purge (f a))
    (course : CacheCourse ws purge? withPurge action world) :
    CacheCourse ws purge?' withPurge' (do return f (← action)) world := by
  cases course with
  | failed failure after ran =>
      refine .failed failure after fun cache => ?_
      rw [Action.run_map, ran, Except.map]
  | silent a after silent ran =>
      refine .silent (f a) after ((same a).trans silent) fun cache => ?_
      rw [Action.run_map, ran, Except.map]
  | asked a after tells ran =>
      refine .asked (f a) after (fun purge => ?_) fun cache => ?_
      · rw [← commutes, same, tells]
      · rw [Action.run_map, ran, Except.map, commutes]

end CacheCourse

/-! ## Reports of purges -/

namespace SweepReport

/-- How the purge went, if there was one. -/
def purge? : SweepReport → Option PurgeStatus
  | purgeTriggered _ purge => some purge
  | noRules | noTransitions _ => none

/-- The report with another status of the purge. -/
def withPurge (purge : PurgeStatus) : SweepReport → SweepReport
  | purgeTriggered found _ => purgeTriggered found purge
  | noRules => noRules
  | noTransitions checked => noTransitions checked

end SweepReport

namespace Reply

/-- How the purge went, if the reply tells of one. -/
def purge? : Reply → Option PurgeStatus
  | published report => some report.purge
  | swept report => report.purge?
  | _ => none

/-- The reply with another status of the purge. -/
def withPurge (purge : PurgeStatus) : Reply → Reply
  | published report => published { report with purge }
  | swept report => swept (report.withPurge purge)
  | reply => reply

/-- The reply but for how the purge went. -/
def apartFromPurge (reply : Reply) : Reply :=
  reply.withPurge .skipped

theorem apartFromPurge_withPurge (purge : PurgeStatus) (reply : Reply) :
    (reply.withPurge purge).apartFromPurge = reply.apartFromPurge := by
  cases reply with
  | swept report => cases report <;> rfl
  | _ => rfl

theorem withPurge_of_silent {reply : Reply} (silent : reply.purge? = none) (purge : PurgeStatus) :
    reply.withPurge purge = reply := by
  cases reply with
  | published report => cases silent
  | swept report => cases report <;> first | rfl | cases silent
  | _ => rfl

end Reply

/-- The call may ask the cache. -/
def Call.mayAsk : Call → Bool
  | .publish .. | .sweep .. => true
  | _ => false

namespace Workspace

variable {ws : Workspace}

theorem ignoresCache_loadStored : ws.loadStored.IgnoresCache := by
  refine (Action.ignoresCache_get? _).bind fun text? => ?_
  cases text? with
  | none => exact Action.ignoresCache_pure _
  | some text => exact (Action.ignoresCache_ofExcept _ _).map some

theorem ignoresCache_load : ws.load.IgnoresCache :=
  ignoresCache_loadStored.map fun stored : Option RuleBook => stored.getD {}

theorem ignoresCache_snapshot (id : String) : (ws.snapshot id).IgnoresCache := by
  refine (Action.ignoresCache_get? _).bind fun text? => ?_
  cases text? with
  | none => exact Action.ignoresCache_pure _
  | some text => exact (Action.ignoresCache_ofExcept _ _).map some

theorem ignoresCache_auditLog : ws.auditLog.IgnoresCache :=
  (Action.ignoresCache_get? _).bind fun _ => Action.ignoresCache_ofExcept _ _

theorem ignoresCache_recordEntry (entry : AuditEntry) : (ws.recordEntry entry).IgnoresCache :=
  ignoresCache_auditLog.bind fun _ =>
    (Action.ignoresCache_set _ _).bind fun _ => Action.ignoresCache_eraseAll _

theorem ignoresCache_requireValid (rules : List Rule) : (requireValid rules).IgnoresCache := by
  rw [requireValid]
  split
  · exact Action.ignoresCache_pure ()
  · exact Action.ignoresCache_fail _

theorem ignoresCache_edit (stamp : Stamp) (user : String) (edit : Edit) :
    (ws.edit stamp user edit).IgnoresCache := by
  refine ignoresCache_load.bind fun old => (Action.ignoresCache_ofExcept _ _).bind fun rules => ?_
  refine (ignoresCache_requireValid rules).bind fun _ => ?_
  refine (Action.ignoresCache_set _ _).bind fun _ => (Action.ignoresCache_set _ _).bind fun _ => ?_
  exact (ignoresCache_recordEntry _).bind fun _ => Action.ignoresCache_pure _

theorem ignoresCache_transitions (now : Instant) : (ws.transitions now).IgnoresCache := by
  refine ignoresCache_loadStored.bind fun stored => ?_
  cases stored with
  | none => exact Action.ignoresCache_pure _
  | some book =>
      dsimp only
      split
      · exact Action.ignoresCache_fail _
      · exact Action.ignoresCache_pure _

theorem cacheCourse_purge (world : World) :
    CacheCourse ws some (fun purge _ => purge) ws.purge world :=
  .asked .skipped world (fun _ => rfl) fun cache => ws.run_purge (world.withCache cache)

theorem cacheCourse_publish (stamp : Stamp) (user : String) (world : World) :
    CacheCourse ws (fun report => some report.purge) (fun purge report => { report with purge })
      (ws.publish stamp user) world := by
  refine .bind ignoresCache_load fun book _ => .bind (ignoresCache_requireValid _) fun _ _ => ?_
  refine .bind (Action.ignoresCache_set _ _) fun _ _ => ?_
  refine .bind (Action.ignoresCache_set _ _) fun _ _ => ?_
  refine .bind (ignoresCache_recordEntry _) fun _ world => ?_
  exact (cacheCourse_purge world).map (fun _ => rfl) fun _ _ => rfl

theorem cacheCourse_sweepOnly (keep : TransitionRecord → Bool) (now : Instant) (world : World) :
    CacheCourse ws SweepReport.purge? SweepReport.withPurge (ws.sweepOnly keep now) world := by
  refine .bind (ignoresCache_transitions now) fun found world => ?_
  cases found with
  | none => exact .silent .noRules world rfl fun _ => rfl
  | some counted =>
      dsimp only
      split
      · exact .silent (.noTransitions counted.1) world rfl fun _ => rfl
      · exact (cacheCourse_purge world).map (fun _ => rfl) fun _ _ => rfl

/-- A call that does not ask the cache, as an action that ignores it. -/
theorem exists_ignoresCache (ws : Workspace) {call : Call} (silent : call.mayAsk = false) :
    ∃ (α : Type) (action : Action α) (reply : α → Reply), action.IgnoresCache ∧
      (∀ a, (reply a).purge? = none) ∧ ws.answer call = do return reply (← action) := by
  cases call with
  | edit stamp user edit => exact ⟨_, _, .recorded, ignoresCache_edit stamp user edit, fun _ => rfl, rfl⟩
  | publish stamp user => cases silent
  | load => exact ⟨_, _, .book, ignoresCache_load, fun _ => rfl, rfl⟩
  | auditLog => exact ⟨_, _, .log, ignoresCache_auditLog, fun _ => rfl, rfl⟩
  | snapshot id => exact ⟨_, _, .snapshot, ignoresCache_snapshot id, fun _ => rfl, rfl⟩
  | artifact => exact ⟨_, _, .artifact, ignoresCache_loadStored.map _, fun _ => rfl, rfl⟩
  | preview page now duration => exact ⟨_, _, .trace, ignoresCache_load.map _, fun _ => rfl, rfl⟩
  | transitions now => exact ⟨_, _, .transitions, ignoresCache_transitions now, fun _ => rfl, rfl⟩
  | sweep keep now => cases silent

theorem ignoresCache_answer (ws : Workspace) {call : Call} (silent : call.mayAsk = false) :
    (ws.answer call).IgnoresCache := by
  obtain ⟨_, action, reply, ignores, -, same⟩ := ws.exists_ignoresCache silent
  rw [same]
  exact ignores.map reply

/-- **Of what the cache does, a call tells only how the purge went.** -/
theorem cacheCourse_answer (ws : Workspace) (call : Call) (world : World) :
    CacheCourse ws Reply.purge? Reply.withPurge (ws.answer call) world := by
  cases asks : call.mayAsk with
  | false =>
      obtain ⟨_, action, reply, ignores, silent, same⟩ := ws.exists_ignoresCache asks
      have course : CacheCourse ws (fun _ => none) (fun _ a => a) action world :=
        .of_ignores ignores fun _ => rfl
      rw [same]
      exact course.map silent fun purge a => ((reply a).withPurge_of_silent (silent a) purge).symm
  | true =>
      cases call with
      | publish stamp user =>
          exact (cacheCourse_publish stamp user world).map (fun _ => rfl) fun _ _ => rfl
      | sweep keep now =>
          exact (cacheCourse_sweepOnly keep now world).map (fun _ => rfl) fun _ _ => rfl
      | _ => cases asks

/-- In two worlds that differ only in their caches a call gives the same but for how the purge went, and
leaves two worlds that differ only in their caches. -/
theorem answer_apartFromPurge (ws : Workspace) (call : Call) {a b : World}
    (same : a.SameButCache b) :
    ((ws.answer call).run a).1.map Reply.apartFromPurge =
        ((ws.answer call).run b).1.map Reply.apartFromPurge ∧
      ((ws.answer call).run a).2.SameButCache ((ws.answer call).run b).2 := by
  obtain ⟨cache, rfl⟩ := same.exists_cache
  cases ws.cacheCourse_answer call a with
  | failed failure after ran =>
      rw [show (ws.answer call).run a = _ from ran a, ran cache]
      exact ⟨rfl, after.sameButCache_withCache a cache⟩
  | silent reply after silent ran =>
      rw [show (ws.answer call).run a = _ from ran a, ran cache]
      exact ⟨rfl, after.sameButCache_withCache a cache⟩
  | asked reply after tells ran =>
      rw [show (ws.answer call).run a = _ from ran a, ran cache]
      refine ⟨?_, after.sameButCache_withCache _ _⟩
      simp only [Except.map, Reply.apartFromPurge_withPurge]

end Workspace

end Exclusion
