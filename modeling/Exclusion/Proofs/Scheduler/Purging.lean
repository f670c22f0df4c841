/-
# Exclusion.Proofs.Scheduler.Purging -- two runs with caches that differ

A run is made of calls of a workspace and of ticks of its scheduler.  Take two runs of the same moves in
worlds that differ only in which requests to the cache fail.  What the schedulers remember comes apart,
since a purge that failed is not remembered, and so a tick may ask the cache in one run and not in the
other.  What is stored does not: after every move the stores are equal, whatever calls of the store
fail, and every call gives the same in both runs but for how a purge went (`store_ignores_cache`).

How a purge went is told as it was: as failed if a request was made that failed, and as skipped if there
is no address to ask for.
-/
import Exclusion.Proofs.Workspace.Cache

namespace Exclusion

set_option autoImplicit false

/-! ## Runs of moves -/

/-- What is done next: the workspace is called, or its scheduler ticks. -/
inductive Move where
  | call (call : Call)
  | tick (now : Instant)

/-- The move may ask the cache. -/
def Move.mayAsk : Move → Bool
  | call made => made.mayAsk
  | tick _ => true

/-- A move that was made, with what it gave and the worlds around it. -/
structure Event where
  move : Move
  before : World
  result : Except Failure Reply
  after : World

namespace Event

/-- The events of two runs are of one move, and leave equal stores. -/
structure AgreesWith (a b : Event) : Prop where
  move : a.move = b.move
  store : a.after.store = b.after.store
  /-- What does not ask the cache gives the same. -/
  silent : a.move.mayAsk = false → a.result = b.result
  /-- A call gives the same but for how the purge went. -/
  called : ∀ call, a.move = .call call →
    a.result.map Reply.apartFromPurge = b.result.map Reply.apartFromPurge
  failed : ∀ failure, a.result = .error failure ↔ b.result = .error failure

/-- What the event tells of a purge is so: it failed if a request was made and failed, and it was skipped
if there is no address. -/
def TellsPurge (ws : Workspace) (purgeFails : Nat → Bool) (e : Event) : Prop :=
  ∀ reply purge, e.result = .ok reply → reply.purge? = some purge →
    (purge.isFailed = true ↔ (∃ url, e.after.purges = e.before.purges ++ [url]) ∧
      purgeFails e.before.purges.length = true) ∧
    (purge = .skipped ↔ ws.config.artifactUrl = none)

end Event

namespace Scheduler

/-- Makes a move, and gives the scheduler after it. -/
def make (s : Scheduler) (world : World) : Move → Event × Scheduler
  | .call call =>
    let ran := (s.workspace.answer call).run world
    (⟨.call call, world, ran.1, ran.2⟩, s)
  | .tick now =>
    let ticked := s.tick now world
    (⟨.tick now, world, ticked.1.map .swept, ticked.2.2⟩, ticked.2.1)

/-- The moves as they are made, one after the other. -/
def events (s : Scheduler) (world : World) : List Move → List Event
  | [] => []
  | move :: moves =>
    let made := s.make world move
    made.1 :: made.2.events made.1.after moves

end Scheduler

/-! ## How a purge went -/

namespace Workspace

variable {ws : Workspace} {world : World}

theorem isFailed_purgeStatus_iff : (ws.purgeStatus world).isFailed = true ↔
    (∃ url, ws.purgeRequests = [url]) ∧ world.purgeFails world.purges.length = true := by
  unfold purgeStatus purgeRequests
  cases ws.config.artifactUrl with
  | none => simp [PurgeStatus.isFailed]
  | some url =>
      cases ws.hasCache with
      | false => simp [PurgeStatus.isFailed]
      | true => cases fails : world.purgeFails world.purges.length <;> simp [PurgeStatus.isFailed]

theorem purgeStatus_eq_skipped_iff :
    ws.purgeStatus world = .skipped ↔ ws.config.artifactUrl = none := by
  unfold purgeStatus
  cases ws.config.artifactUrl with
  | none => simp
  | some url =>
      dsimp only
      split <;> simp

/-- The world that a tick leaves, up to its cache: the rules are read if there is a window. -/
def afterTick (ws : Workspace) (world : World) : World :=
  if ws.config.sweep.window?.isSome then world.called else world

theorem afterTick_withCache (ws : Workspace) (world cache : World) :
    ws.afterTick (world.withCache cache) = (ws.afterTick world).withCache cache := by
  unfold afterTick
  split <;> rfl

end Workspace

/-- What is told of a purge is so if it is the status of the purge in the world before, and the requests
were made. -/
theorem Event.tellsPurge_of_status {ws : Workspace} {e : Event}
    (status : ∀ reply purge, e.result = .ok reply → reply.purge? = some purge →
      purge = ws.purgeStatus e.before ∧ e.after.purges = e.before.purges ++ ws.purgeRequests) :
    e.TellsPurge ws e.before.purgeFails := by
  intro reply purge ok tells
  obtain ⟨rfl, made⟩ := status reply purge ok tells
  rw [Workspace.isFailed_purgeStatus_iff, made]
  simp only [List.append_cancel_left_eq, Workspace.purgeStatus_eq_skipped_iff, and_self]

namespace Scheduler

variable {s s' : Scheduler} {now : Instant} {world : World} {move : Move}

/-! ## Ticks -/

theorem exists_cache_tick (s : Scheduler) (now : Instant) (world : World) :
    ∃ cache, (s.tick now world).2.2 = (s.workspace.afterTick world).withCache cache ∧
      cache.purgeFails = world.purgeFails := by
  cases s.course now world with
  | endless endless ticked =>
      refine ⟨world, ?_, rfl⟩
      simp [ticked, Workspace.afterTick, endless, World.withCache]
  | unread window failure representable unread ticked =>
      refine ⟨world, ?_, rfl⟩
      simp [ticked, Workspace.afterTick, representable, World.called, World.withCache]
  | nothing window representable nothing ticked =>
      refine ⟨world, ?_, rfl⟩
      simp [ticked, Workspace.afterTick, representable, World.called, World.withCache]
  | idle window book representable loaded idle ticked =>
      refine ⟨world, ?_, rfl⟩
      simp [ticked, Workspace.afterTick, representable, World.called, World.withCache]
  | due window book representable loaded due ticked =>
      refine ⟨world.asked s.workspace.purgeRequests, ?_, rfl⟩
      simp [ticked, Workspace.afterTick, representable, World.called, World.withCache, World.asked]

/-- A tick fails as loading the rules does, or for want of a window. -/
theorem tick_eq_error_iff {failure : Failure} : (s.tick now world).1 = .error failure ↔
    (s.workspace.config.sweep.window? = none ∧ failure = .endlessWindow) ∨
      ∃ window, s.workspace.config.sweep.window? = some window ∧
        (s.workspace.loadStored.run world).1 = .error failure := by
  cases s.course now world with
  | endless endless ticked => simp [ticked, endless, eq_comm]
  | unread window failure representable unread ticked => simp [ticked, representable, unread]
  | nothing window representable nothing ticked => simp [ticked, representable, nothing]
  | idle window book representable loaded idle ticked => simp [ticked, representable, loaded]
  | due window book representable loaded due ticked => simp [ticked, representable, loaded]

/-! ## One move -/

theorem workspace_make (s : Scheduler) (world : World) (move : Move) :
    (s.make world move).2.workspace = s.workspace := by
  cases move with
  | call call => rfl
  | tick now => exact s.workspace_tick now world

theorem before_make (s : Scheduler) (world : World) (move : Move) :
    (s.make world move).1.before = world := by
  cases move <;> rfl

section Agrees

variable {a b : World} (sameWorkspace : s.workspace = s'.workspace) (same : a.SameButCache b)
include sameWorkspace same

theorem agrees_make_call (call : Call) :
    (s.make a (.call call)).1.AgreesWith (s'.make b (.call call)).1 ∧
      (s.make a (.call call)).1.after.SameButCache (s'.make b (.call call)).1.after := by
  obtain ⟨apart, left⟩ := s.workspace.answer_apartFromPurge call same
  simp only [make, ← sameWorkspace]
  refine ⟨⟨rfl, left.store, fun silent => ?_, fun _ _ => apart, fun failure => ?_⟩, left⟩
  · obtain ⟨cache, rfl⟩ := same.exists_cache
    exact (congrArg Prod.fst (s.workspace.ignoresCache_answer silent a cache)).symm
  · rw [← Json.except_map_eq_error, apart, Json.except_map_eq_error]

theorem agrees_make_tick (now : Instant) :
    (s.make a (.tick now)).1.AgreesWith (s'.make b (.tick now)).1 ∧
      (s.make a (.tick now)).1.after.SameButCache (s'.make b (.tick now)).1.after := by
  obtain ⟨cache, rfl⟩ := same.exists_cache
  have left : (s.tick now a).2.2.SameButCache (s'.tick now (a.withCache cache)).2.2 := by
    obtain ⟨cacheA, leftA, -⟩ := s.exists_cache_tick now a
    obtain ⟨cacheB, leftB, -⟩ := s'.exists_cache_tick now (a.withCache cache)
    rw [leftA, leftB, ← sameWorkspace, Workspace.afterTick_withCache]
    exact (s.workspace.afterTick a).sameButCache_withCache cacheA cacheB
  refine ⟨⟨rfl, left.store, fun silent => ?_, fun _ called => ?_, fun failure => ?_⟩, left⟩
  · cases silent
  · cases called
  · -- both fail as loading the rules does, and loading ignores the cache
    have loads := s.workspace.ignoresCache_loadStored a cache
    show Except.map _ _ = _ ↔ Except.map _ _ = _
    rw [Json.except_map_eq_error, Json.except_map_eq_error, tick_eq_error_iff, tick_eq_error_iff,
      ← sameWorkspace, loads]

/-- **One move in two worlds that differ in their caches.**  The events agree, and the worlds that they
leave differ again in their caches at most.  The schedulers may remember different crossings. -/
theorem agrees_make (move : Move) : (s.make a move).1.AgreesWith (s'.make b move).1 ∧
    (s.make a move).1.after.SameButCache (s'.make b move).1.after := by
  cases move with
  | call call => exact agrees_make_call sameWorkspace same call
  | tick now => exact agrees_make_tick sameWorkspace same now

end Agrees

/-- What a move tells of a purge is so. -/
theorem tellsPurge_make (s : Scheduler) (world : World) (move : Move) :
    (s.make world move).1.TellsPurge s.workspace world.purgeFails := by
  have told := @Event.tellsPurge_of_status s.workspace (s.make world move).1
  rw [before_make] at told
  refine told fun reply purge ok tells => ?_
  cases move with
  | tick now =>
      obtain ⟨requested, status⟩ := s.purges_tick now world
      obtain ⟨report, reported, rfl⟩ := Json.except_map_eq_ok.1 ok
      cases report with
      | noRules => cases tells
      | noTransitions checked => cases tells
      | purgeTriggered found purge' =>
          cases tells
          rw [reported] at requested
          exact ⟨status found purge reported, requested⟩
  | call call =>
      cases s.workspace.cacheCourse_answer call world with
      | failed failure after ran =>
          cases (congrArg Prod.fst (ran world)).symm.trans ok
      | silent given after silent ran =>
          cases (congrArg Prod.fst (ran world)).symm.trans ok
          cases silent.symm.trans tells
      | asked given after asked ran =>
          cases (congrArg Prod.fst (ran world)).symm.trans ok
          cases (asked _).symm.trans tells
          exact ⟨rfl, congrArg (·.2.purges) (ran world)⟩

/-- The requests to the cache that fail are given beforehand. -/
theorem purgeFails_make (s : Scheduler) (world : World) (move : Move) :
    (s.make world move).1.after.purgeFails = world.purgeFails := by
  cases move with
  | tick now =>
      obtain ⟨cache, left, same⟩ := s.exists_cache_tick now world
      exact (congrArg World.purgeFails left).trans same
  | call call =>
      cases s.workspace.cacheCourse_answer call world with
      | failed failure after ran => exact congrArg (·.2.purgeFails) (ran world)
      | silent given after silent ran => exact congrArg (·.2.purgeFails) (ran world)
      | asked given after asked ran => exact congrArg (·.2.purgeFails) (ran world)

/-! ## Runs -/

theorem agrees_events (sameWorkspace : s.workspace = s'.workspace) {a b : World}
    (same : a.SameButCache b) (moves : List Move) :
    List.Forall₂ Event.AgreesWith (s.events a moves) (s'.events b moves) := by
  induction moves generalizing s s' a b with
  | nil => exact .nil
  | cons move moves ih =>
      obtain ⟨agrees, left⟩ := agrees_make sameWorkspace same move
      refine .cons agrees (ih ?_ left)
      rw [workspace_make, workspace_make, sameWorkspace]

theorem tellsPurge_events (s : Scheduler) (world : World) (moves : List Move) :
    ∀ e ∈ s.events world moves, e.TellsPurge s.workspace world.purgeFails := by
  induction moves generalizing s world with
  | nil => exact fun _ listed => absurd listed List.not_mem_nil
  | cons move moves ih =>
      refine List.forall_mem_cons.2 ⟨s.tellsPurge_make world move, ?_⟩
      have rest := ih (s.make world move).2 (s.make world move).1.after
      rwa [workspace_make, purgeFails_make] at rest

/-- **The cache has no part in what is stored.**  Two runs of the same moves, in worlds that differ only
in which requests to the cache fail, leave equal stores after every move and give the same, but for
ticks and but for how a purge went; and in both, what is told of a purge is so. -/
theorem store_ignores_cache (s : Scheduler) (world : World) (moves : List Move)
    (purgeFails : Nat → Bool) :
    List.Forall₂ Event.AgreesWith (s.events world moves) (s.events { world with purgeFails } moves) ∧
    (∀ e ∈ s.events world moves, e.TellsPurge s.workspace world.purgeFails) ∧
    ∀ e ∈ s.events { world with purgeFails } moves, e.TellsPurge s.workspace purgeFails := by
  have same : world.SameButCache { world with purgeFails } := rfl
  exact ⟨agrees_events rfl same moves, s.tellsPurge_events world moves,
    s.tellsPurge_events { world with purgeFails } moves⟩

end Scheduler

end Exclusion
