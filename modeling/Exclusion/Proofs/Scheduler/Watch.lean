/-
# Exclusion.Proofs.Scheduler.Watch -- what a scheduler remembers is what it has purged for

A watch is a scheduler with the ticks that it made.  Every tick finds a world of its own, since anything
may have happened since the tick before: rules were edited, the store fails, the cache fails.  A tick
lists the crossings that an active rule has, that lie within the window, and that are not settled.  The
scheduler takes for settled what it remembers, and it forgets what has left the window: it remembers a
crossing that an earlier tick had the artifact purged for as long as every tick since had it within its
window (`Kept`, `Scheduler.mem_remembered_watch`).

Still it never purges for a crossing again that it has forgotten: when time goes forward, a date that was
within the window and is not any more does not come back.  Here the order of the ticks is needed
(`Scheduler.kept_iff_purgedFor`), and that none of them is in a leap second.  In one a date may be
further away than before it and after it, so that a tick there forgets what the next tick lists again
(`Watch.lists_again`, `Scheduler.purges_twice_around_leap_second`).  The main statement says what a tick
lists in any case and what it lists outside leap seconds (`tick_tells_what_is_due`).
-/
import Exclusion.Proofs.Scheduler.Tick
import Exclusion.Proofs.Time.Distance
import Exclusion.Proofs.Workspace.Call

namespace Exclusion

set_option autoImplicit false

/-! ## Runs of ticks -/

/-- When a scheduler ticks, and the world that it finds then. -/
structure Turn where
  now : Instant
  world : World

/-- A tick that was made, with what came of it and the world after it. -/
structure Tick extends Turn where
  result : Except Failure SweepReport
  after : World

namespace Tick

/-- The crossings that the tick lists. -/
def crossings (tick : Tick) : List Crossing :=
  match tick.result with
  | .ok report => report.crossings
  | .error _ => []

/-- The crossings for which the tick had the artifact purged. -/
def purgedFor (tick : Tick) : List Crossing :=
  match tick.result with
  | .ok report => report.purgedFor
  | .error _ => []

variable {tick : Tick} {crossing : Crossing}

theorem mem_crossings :
    crossing ∈ tick.crossings ↔ ∃ report, tick.result = .ok report ∧ crossing ∈ report.crossings := by
  rw [crossings]
  cases tick.result <;> simp

theorem mem_purgedFor :
    crossing ∈ tick.purgedFor ↔ ∃ report, tick.result = .ok report ∧ crossing ∈ report.purgedFor := by
  rw [purgedFor]
  cases tick.result <;> simp

theorem purgedFor_subset (tick : Tick) : tick.purgedFor ⊆ tick.crossings := by
  intro crossing purged
  obtain ⟨report, ok, purged⟩ := mem_purgedFor.1 purged
  exact mem_crossings.2 ⟨report, ok, report.purgedFor_subset purged⟩

end Tick

/-- A scheduler with the ticks that it made, newest first. -/
structure Watch where
  scheduler : Scheduler
  ticks : List Tick := []

namespace Watch

/-- The tick that the scheduler makes next. -/
def tick (watch : Watch) (turn : Turn) : Tick where
  toTurn := turn
  result := (watch.scheduler.tick turn.now turn.world).1
  after := (watch.scheduler.tick turn.now turn.world).2.2

/-- The watch after one more tick. -/
def step (watch : Watch) (turn : Turn) : Watch :=
  ⟨(watch.scheduler.tick turn.now turn.world).2.1, watch.tick turn :: watch.ticks⟩

end Watch

/-- The watch of a scheduler after ticks, one after the other. -/
def Scheduler.watch (s : Scheduler) (turns : List Turn) : Watch :=
  turns.foldl Watch.step ⟨s, []⟩

theorem Scheduler.watch_append (s : Scheduler) (turns : List Turn) (turn : Turn) :
    s.watch (turns ++ [turn]) = (s.watch turns).step turn := by
  rw [watch, List.foldl_append]
  rfl

/-- The ticks are those of the turns, newest first. -/
theorem Scheduler.turns_watch (s : Scheduler) (turns : List Turn) :
    (s.watch turns).ticks.map Tick.toTurn = turns.reverse := by
  induction turns using List.reverseRecOn with
  | nil => rfl
  | append_singleton turns turn ih =>
      rw [watch_append, List.reverse_append, List.reverse_singleton, List.singleton_append, ← ih]
      rfl

theorem Scheduler.workspace_watch (s : Scheduler) (turns : List Turn) :
    (s.watch turns).scheduler.workspace = s.workspace := by
  induction turns using List.reverseRecOn with
  | nil => rfl
  | append_singleton turns turn ih =>
      rw [watch_append]
      exact (workspace_tick _ turn.now turn.world).trans ih

/-- The ticks of a watch happen at its turns. -/
theorem Scheduler.toTurn_mem_of_watch {s : Scheduler} {turns : List Turn} {tick : Tick}
    (made : tick ∈ (s.watch turns).ticks) : tick.toTurn ∈ turns := by
  rw [← List.mem_reverse, ← s.turns_watch]
  exact List.mem_map_of_mem made

/-- Each tick of a watch was made by the scheduler as it was after the ticks before it. -/
theorem Scheduler.exists_of_watch {s : Scheduler} {turns : List Turn} {tick : Tick}
    {later earlier : List Tick} (split : (s.watch turns).ticks = later ++ tick :: earlier) :
    ∃ before turn, tick = (s.watch before).tick turn ∧ earlier = (s.watch before).ticks := by
  induction turns using List.reverseRecOn generalizing later with
  | nil =>
      exact absurd split.symm
        (List.append_ne_nil_of_right_ne_nil later (List.cons_ne_nil tick earlier))
  | append_singleton turns turn ih =>
      rw [watch_append] at split
      cases later with
      | nil =>
          obtain ⟨rfl, rfl⟩ := List.cons.inj split
          exact ⟨turns, turn, rfl, rfl⟩
      | cons newest later => exact ih (List.cons.inj split).2

/-- When the turns are in order, so are the ticks, newest first. -/
theorem Scheduler.pairwise_ticks {s : Scheduler} {turns : List Turn}
    (ordered : turns.Pairwise fun a b => a.now ≤ b.now) :
    (s.watch turns).ticks.Pairwise fun later earlier => earlier.now ≤ later.now := by
  have reversed := List.pairwise_reverse.2 ordered
  rw [← s.turns_watch, List.pairwise_map] at reversed
  exact reversed

/-! ## What is due -/

/-- The rules that are stored in a world, if its store can be read. -/
def Workspace.storedIn (ws : Workspace) (world : World) : Except Failure (Option RuleBook) :=
  readIn RuleBook.codec ws.rulesKey world.store

theorem Workspace.storedIn_of_loadStored {ws : Workspace} {world : World} {stored : Option RuleBook}
    (loaded : (ws.loadStored.run world).1 = .ok stored) : ws.storedIn world = .ok stored :=
  ((ws.follows_loadStored world.store).of_ok rfl (Prod.ext loaded rfl)).1.symm

theorem Workspace.storedIn_eq_none {ws : Workspace} {world : World} {stored : Option RuleBook}
    (read : ws.storedIn world = .ok stored) :
    stored = none ↔ world.store.get? ws.rulesKey = none := by
  constructor
  · rintro rfl
    cases found : world.store.get? ws.rulesKey with
    | none => rfl
    | some text =>
        rw [storedIn, readIn, found] at read
        dsimp only at read
        cases decoded : RuleBook.codec.readText text <;> rw [decoded] at read <;> cases read
  · intro absent
    cases (readIn_of_none absent).symm.trans read
    rfl

/-- An active rule of the stored ones starts or ends there. -/
def Crossing.IsScheduledIn (crossing : Crossing) (stored : Option RuleBook) : Prop :=
  ∃ book ∈ stored, ∃ r ∈ book.rules, r.isActive = true ∧ crossing.IsOf r

/-- The dates of stored rules are outside leap seconds. -/
theorem Crossing.isLeap_of_stored {ws : Workspace} {world : World} {stored : Option RuleBook}
    {crossing : Crossing} (read : ws.storedIn world = .ok stored)
    (scheduled : crossing.IsScheduledIn stored) : crossing.date.isLeap = false := by
  obtain ⟨book, rfl, r, listed, -, -, date⟩ := scheduled
  have loaded : ws.bookIn world.store = .ok book := by
    rw [Workspace.storedIn] at read
    rw [Workspace.bookIn, read]
    rfl
  obtain ⟨-, starts, ends⟩ := Rule.isWholeMilli_iff.1 (ws.isWholeMilli_of_bookIn loaded r listed)
  obtain ⟨ruleId, boundary, day⟩ := crossing
  cases boundary with
  | starts => exact Instant.isLeap_of_isWholeMilli (starts day date)
  | ends => exact Instant.isLeap_of_isWholeMilli (ends day date)

/-- Some of the ticks had the artifact purged for the crossing. -/
def PurgedFor (ticks : List Tick) (crossing : Crossing) : Prop :=
  ∃ tick ∈ ticks, crossing ∈ tick.purgedFor

theorem purgedFor_cons {tick : Tick} {earlier : List Tick} {crossing : Crossing} :
    PurgedFor (tick :: earlier) crossing ↔
      crossing ∈ tick.purgedFor ∨ PurgedFor earlier crossing := by
  simp only [PurgedFor, List.mem_cons, exists_eq_or_imp]

/-- The crossing is to be listed, where these crossings are settled. -/
structure Due (settled : Crossing → Prop) (stored : Option RuleBook) (window : Span) (now : Instant)
    (crossing : Crossing) : Prop where
  scheduled : crossing.IsScheduledIn stored
  within : isWithin window now crossing.date = true
  fresh : ¬ settled crossing

theorem due_iff {settled : Crossing → Prop} {stored : Option RuleBook} {window : Span} {now : Instant}
    {crossing : Crossing} : Due settled stored window now crossing ↔
      crossing.IsScheduledIn stored ∧ isWithin window now crossing.date = true ∧ ¬ settled crossing where
  mp due := ⟨due.scheduled, due.within, due.fresh⟩
  mpr := fun ⟨scheduled, within, fresh⟩ => ⟨scheduled, within, fresh⟩

/-- What a tick reports is about the rules that are stored then: there are none, or it lists what is
due, where these crossings are settled. -/
structure Tick.Tells (ws : Workspace) (settled : Crossing → Prop) (tick : Tick) (report : SweepReport)
    (window : Span) (stored : Option RuleBook) : Prop where
  representable : ws.config.sweep.window? = some window
  read : ws.storedIn tick.world = .ok stored
  crossings : ∀ crossing, crossing ∈ report.crossings ↔ Due settled stored window tick.now crossing
  noRules : report = .noRules ↔ tick.world.store.get? ws.rulesKey = none
  noTransitions : (∃ checked, report = .noTransitions checked) ↔
    tick.world.store.get? ws.rulesKey ≠ none ∧
      ∀ crossing, ¬ Due settled stored window tick.now crossing

/-- It matters only which of the crossings within the window are settled. -/
theorem Tick.Tells.congr {ws : Workspace} {settled settled' : Crossing → Prop} {tick : Tick}
    {report : SweepReport} {window : Span} {stored : Option RuleBook}
    (tells : tick.Tells ws settled report window stored)
    (same : ∀ crossing, isWithin window tick.now crossing.date = true →
      (settled crossing ↔ settled' crossing)) :
    tick.Tells ws settled' report window stored := by
  have due : ∀ crossing, Due settled stored window tick.now crossing ↔
      Due settled' stored window tick.now crossing := by
    intro crossing
    rw [due_iff, due_iff]
    exact and_congr_right fun _ => and_congr_right fun within => not_congr (same crossing within)
  exact {
    representable := tells.representable
    read := tells.read
    crossings := fun crossing => (tells.crossings crossing).trans (due crossing)
    noRules := tells.noRules
    noTransitions := tells.noTransitions.trans <|
      and_congr_right fun _ => forall_congr' fun crossing => not_congr (due crossing) }

/-! ## What is remembered -/

/-- Some of the ticks had the artifact purged for the crossing, and its date was within the window of
every tick since. -/
def Kept (window : Span) (ticks : List Tick) (crossing : Crossing) : Prop :=
  ∃ later tick earlier, ticks = later ++ tick :: earlier ∧ crossing ∈ tick.purgedFor ∧
    ∀ t ∈ later, isWithin window t.now crossing.date = true

section Kept

variable {window : Span} {tick : Tick} {ticks later earlier : List Tick} {crossing : Crossing}

theorem not_kept_nil : ¬ Kept window [] crossing := by
  rintro ⟨later, tick, earlier, split, -, -⟩
  exact List.append_ne_nil_of_right_ne_nil later (List.cons_ne_nil tick earlier) split.symm

theorem kept_cons : Kept window (tick :: earlier) crossing ↔
    crossing ∈ tick.purgedFor ∨
      (Kept window earlier crossing ∧ isWithin window tick.now crossing.date = true) := by
  constructor
  · rintro ⟨later, first, rest, split, purged, within⟩
    cases later with
    | nil =>
        cases split
        exact .inl purged
    | cons newest later =>
        cases split
        obtain ⟨near, within⟩ := List.forall_mem_cons.1 within
        exact .inr ⟨⟨later, first, rest, rfl, purged, within⟩, near⟩
  · rintro (purged | ⟨⟨later, first, rest, rfl, purged, within⟩, near⟩)
    · exact ⟨[], tick, earlier, rfl, purged, List.forall_mem_nil _⟩
    · exact ⟨tick :: later, first, rest, rfl, purged, List.forall_mem_cons.2 ⟨near, within⟩⟩

theorem Kept.purgedFor (kept : Kept window ticks crossing) : PurgedFor ticks crossing := by
  obtain ⟨later, tick, earlier, rfl, purged, -⟩ := kept
  exact ⟨tick, List.mem_append_right later List.mem_cons_self, purged⟩

/-- What the later ticks have not purged for was kept before them. -/
theorem Kept.of_append (kept : Kept window (later ++ earlier) crossing)
    (since : ¬ PurgedFor later crossing) : Kept window earlier crossing := by
  induction later with
  | nil => exact kept
  | cons newest later ih =>
      rw [purgedFor_cons, not_or] at since
      rcases kept_cons.1 kept with purged | ⟨kept, -⟩
      · exact absurd purged since.1
      · exact ih kept since.2

end Kept

namespace Scheduler

variable {ws : Workspace} {interval : Option Nat} {s : Scheduler} {turns : List Turn} {turn : Turn}
  {window : Span} {tick : Tick} {later earlier : List Tick} {crossing : Crossing}

theorem workspace_of_parts (built : ofParts (some ws) interval = .ok s) : s.workspace = ws := by
  rw [ofParts] at built
  split at built <;> cases built
  rfl

theorem remembered_of_parts (built : ofParts (some ws) interval = .ok s) : s.remembered = [] := by
  rw [ofParts] at built
  split at built <;> cases built
  rfl

section Built

variable (built : ofParts (some ws) interval = .ok s)
include built

/-- **A scheduler remembers what it has purged for as long as the date stays within the window.** -/
theorem mem_remembered_watch (representable : ws.config.sweep.window? = some window) :
    crossing ∈ (s.watch turns).scheduler.remembered ↔ Kept window (s.watch turns).ticks crossing := by
  induction turns using List.reverseRecOn with
  | nil =>
      have nothing : (s.watch []).scheduler.remembered = [] := remembered_of_parts built
      rw [nothing]
      exact iff_of_false List.not_mem_nil not_kept_nil
  | append_singleton turns turn ih =>
      have swept : (s.watch turns).scheduler.workspace.config.sweep.window? = some window := by
        rw [workspace_watch, workspace_of_parts built, representable]
      rw [watch_append, Watch.step, mem_remembered_tick swept, ih, kept_cons, Tick.mem_purgedFor]
      exact or_comm

/-- A tick lists what is due, where what was kept is settled. -/
theorem tells_watch {report : SweepReport} (ok : ((s.watch turns).tick turn).result = .ok report) :
    ∃ window stored, ((s.watch turns).tick turn).Tells ws (Kept window (s.watch turns).ticks) report
      window stored := by
  obtain ⟨window, stored, reports⟩ := reports_of_tick ok
  have representable := reports.representable
  have loaded := reports.loaded
  rw [workspace_watch, workspace_of_parts built] at representable loaded
  have crossings : ∀ crossing, crossing ∈ report.crossings ↔
      Due (Kept window (s.watch turns).ticks) stored window turn.now crossing := by
    intro crossing
    rw [reports.crossings, mem_remembered_watch built representable]
    exact due_iff.symm
  have read := Workspace.storedIn_of_loadStored loaded
  have nothing := Workspace.storedIn_eq_none read
  exact ⟨window, stored, {
    representable
    read
    crossings
    noRules := reports.noRules.trans nothing
    noTransitions := reports.noTransitions.trans <|
      and_congr (not_congr nothing) (forall_congr' fun crossing => not_congr (crossings crossing)) }⟩

/-- What a tick of a watch lists was due. -/
theorem due_of_watch (split : (s.watch turns).ticks = later ++ tick :: earlier)
    (listed : crossing ∈ tick.crossings) :
    ∃ window stored, ws.config.sweep.window? = some window ∧ ws.storedIn tick.world = .ok stored ∧
      Due (Kept window earlier) stored window tick.now crossing := by
  obtain ⟨before, turn, rfl, rfl⟩ := exists_of_watch split
  obtain ⟨report, ok, listed⟩ := Tick.mem_crossings.1 listed
  obtain ⟨window, stored, tells⟩ := tells_watch built ok
  exact ⟨window, stored, tells.representable, tells.read, (tells.crossings crossing).1 listed⟩

/-- What a tick lists whose purge fails is not kept, if no later tick had the artifact purged for
it. -/
theorem not_kept_of_failed (split : (s.watch turns).ticks = later ++ tick :: earlier)
    (failed : tick.purgedFor = []) (listed : crossing ∈ tick.crossings)
    (since : ¬ PurgedFor later crossing) (representable : ws.config.sweep.window? = some window) :
    ¬ Kept window (s.watch turns).ticks crossing := by
  obtain ⟨window', stored, representable', -, due⟩ := due_of_watch built split listed
  cases representable.symm.trans representable'
  rw [split]
  intro kept
  rcases kept_cons.1 (kept.of_append since) with purged | ⟨kept, -⟩
  · rw [failed] at purged
    cases purged
  · exact due.fresh kept

end Built

end Scheduler

/-! ## Outside leap seconds -/

/-- Neither the ticks that were made nor the one to be made next are in a leap second. -/
def Watch.AvoidsLeapSeconds (watch : Watch) (turn : Turn) : Prop :=
  (∀ tick ∈ watch.ticks, tick.now.isLeap = false) ∧ turn.now.isLeap = false

namespace Scheduler

variable {ws : Workspace} {interval : Option Nat} {s : Scheduler} {turns : List Turn} {turn : Turn}
  {window : Span} {crossing : Crossing}

theorem avoidsLeapSeconds_watch (plain : ∀ t ∈ turns ++ [turn], t.now.isLeap = false) :
    (s.watch turns).AvoidsLeapSeconds turn where
  left tick made := plain tick.toTurn (List.mem_append_left _ (toTurn_mem_of_watch made))
  right := plain turn (List.mem_append_right turns (List.mem_singleton_self turn))

section Ordered

variable (built : ofParts (some ws) interval = .ok s)
  (ordered : (turns ++ [turn]).Pairwise fun a b => a.now ≤ b.now)
  (plain : (s.watch turns).AvoidsLeapSeconds turn)
include built ordered plain

/-- What was purged for and is within the window has been there ever since. -/
theorem kept_iff_purgedFor (representable : ws.config.sweep.window? = some window)
    (within : isWithin window turn.now crossing.date = true) :
    Kept window (s.watch turns).ticks crossing ↔ PurgedFor (s.watch turns).ticks crossing := by
  refine ⟨Kept.purgedFor, ?_⟩
  rintro ⟨tick, made, purged⟩
  obtain ⟨later, earlier, split⟩ := List.append_of_mem made
  obtain ⟨window', stored, representable', read, due⟩ :=
    due_of_watch built split (tick.purgedFor_subset purged)
  cases representable.symm.trans representable'
  refine ⟨later, tick, earlier, split, purged, fun t since => ?_⟩
  -- `t` lies between the tick that purged for the date and the turn, which both have it within reach
  obtain ⟨ordered, -, last⟩ := List.pairwise_append.1 ordered
  have latestFirst := pairwise_ticks (s := s) ordered
  rw [split] at latestFirst
  have early : tick.now ≤ t.now :=
    (List.pairwise_append.1 latestFirst).2.2 t since tick List.mem_cons_self
  have madeToo : t ∈ (s.watch turns).ticks := split ▸ List.mem_append_left _ since
  have late : t.now ≤ turn.now :=
    last t.toTurn (toTurn_mem_of_watch madeToo) turn (List.mem_singleton_self turn)
  exact isWithin_of_between (plain.1 tick made) (plain.1 t madeToo) plain.2
    (Crossing.isLeap_of_stored read due.scheduled) (SweepConfig.window_nonneg representable) early late
    due.within within

/-- A tick lists what is due, where what was purged for is settled. -/
theorem tells_due {report : SweepReport} (ok : ((s.watch turns).tick turn).result = .ok report) :
    ∃ window stored, ((s.watch turns).tick turn).Tells ws (PurgedFor (s.watch turns).ticks) report
      window stored := by
  obtain ⟨window, stored, tells⟩ := tells_watch built ok
  exact ⟨window, stored, tells.congr fun crossing within =>
    kept_iff_purgedFor built ordered plain tells.representable within⟩

end Ordered

end Scheduler

/-! ## Forgetting -/

namespace Watch

variable {ws : Workspace} {watch : Watch} {turn : Turn} {window : Span} {stored : Option RuleBook}
  {crossing : Crossing}

/-- A tick lists a date of the rules that it finds if the date is within the window and the scheduler
does not remember it. -/
theorem mem_crossings_tick (workspace : watch.scheduler.workspace = ws)
    (representable : ws.config.sweep.window? = some window)
    (loaded : (ws.loadStored.run turn.world).1 = .ok stored)
    (scheduled : crossing.IsScheduledIn stored) :
    crossing ∈ (watch.tick turn).crossings ↔
      isWithin window turn.now crossing.date = true ∧ crossing ∉ watch.scheduler.remembered := by
  subst workspace
  obtain ⟨report, ok⟩ := Scheduler.exists_report_iff.2 ⟨⟨window, representable⟩, stored, loaded⟩
  obtain ⟨window', stored', reports⟩ := Scheduler.reports_of_tick ok
  cases representable.symm.trans reports.representable
  cases loaded.symm.trans reports.loaded
  have result : (watch.tick turn).result = .ok report := ok
  rw [Tick.crossings, result]
  exact (reports.crossings crossing).trans ⟨And.right, And.intro scheduled⟩

/-- **A date is listed again after a tick that does not have it within its window**, whatever the
artifact was purged for before. -/
theorem lists_again {far near : Turn} (workspace : watch.scheduler.workspace = ws)
    (representable : ws.config.sweep.window? = some window)
    (gone : isWithin window far.now crossing.date = false)
    (loaded : (ws.loadStored.run near.world).1 = .ok stored)
    (scheduled : crossing.IsScheduledIn stored)
    (back : isWithin window near.now crossing.date = true) :
    crossing ∈ ((watch.step far).tick near).crossings := by
  have same : (watch.step far).scheduler.workspace = ws :=
    (watch.scheduler.workspace_tick far.now far.world).trans workspace
  have forgotten : crossing ∉ (watch.step far).scheduler.remembered := by
    intro known
    have within := Scheduler.isWithin_of_mem_remembered_tick (workspace ▸ representable) known
    rw [gone] at within
    cases within
  exact (mem_crossings_tick same representable loaded scheduled).2 ⟨back, forgotten⟩

/-- When no request to the cache fails, the artifact is purged for all that is listed. -/
theorem purgedFor_tick (reliable : ∀ n, turn.world.purgeFails n = false) :
    (watch.tick turn).purgedFor = (watch.tick turn).crossings := by
  rw [Tick.purgedFor, Tick.crossings]
  cases result : (watch.tick turn).result with
  | error failure => rfl
  | ok report => exact Scheduler.purgedFor_of_tick result reliable

end Watch

/-! ## Whole runs -/

namespace Scheduler

variable {ws : Workspace} {interval : Option Nat} {s : Scheduler}

/-- What is said of the tick at a turn that comes after the ticks of a watch. -/
structure TicksExactly (ws : Workspace) (watch : Watch) (turn : Turn) : Prop where
  /-- The tick reports if the window is a span of time and the rules can be read. -/
  reports : (∃ report, (watch.tick turn).result = .ok report) ↔
    (∃ window, ws.config.sweep.window? = some window) ∧
      ∃ stored, (ws.loadStored.run turn.world).1 = .ok stored
  /-- It lists all dates within the window but those that were purged for and have been within the
  window since. -/
  tells : ∀ report, (watch.tick turn).result = .ok report →
    ∃ window stored, (watch.tick turn).Tells ws (Kept window watch.ticks) report window stored
  /-- Outside leap seconds it lists all but those that were ever purged for. -/
  tellsPlain : watch.AvoidsLeapSeconds turn → ∀ report, (watch.tick turn).result = .ok report →
    ∃ window stored, (watch.tick turn).Tells ws (PurgedFor watch.ticks) report window stored
  /-- Outside leap seconds what was purged for is not listed again. -/
  once : watch.AvoidsLeapSeconds turn →
    ∀ crossing ∈ (watch.tick turn).crossings, ¬ PurgedFor watch.ticks crossing
  /-- What was listed in a tick whose purge failed, and was not purged for since, is listed again as
  long as it is scheduled and within the window. -/
  retried : ∀ later failed earlier, watch.ticks = later ++ failed :: earlier → failed.purgedFor = [] →
    ∀ crossing ∈ failed.crossings, ¬ PurgedFor later crossing →
      ∀ report window stored, (watch.tick turn).result = .ok report →
        ws.config.sweep.window? = some window → ws.storedIn turn.world = .ok stored →
        crossing.IsScheduledIn stored → isWithin window turn.now crossing.date = true →
        crossing ∈ report.crossings
  /-- The cache is asked at most once; if there is one, it is asked in the ticks that report a purge
  while there is an address to drop, and in no others. -/
  asks : ∃ asked, (watch.tick turn).after.purges = turn.world.purges ++ asked ∧ asked.length ≤ 1 ∧
    (ws.hasCache = true → (asked.length = 1 ↔
      (∃ found purge, (watch.tick turn).result = .ok (.purgeTriggered found purge)) ∧
        ws.config.artifactUrl ≠ none))
  /-- The report says what came of the purge. -/
  status : ∀ found purge, (watch.tick turn).result = .ok (.purgeTriggered found purge) →
    purge = ws.purgeStatus turn.world
  /-- What is remembered afterwards lies within the window. -/
  remembers : ∀ window, ws.config.sweep.window? = some window →
    ∀ crossing ∈ (watch.step turn).scheduler.remembered,
      isWithin window turn.now crossing.date = true

/-- **Each tick of a scheduler tells what is due then, and outside leap seconds it purges for nothing
twice.**  Before every tick anything may have happened to the rules, the store and the cache. -/
theorem tick_tells_what_is_due (built : ofParts (some ws) interval = .ok s) {turns : List Turn}
    {turn : Turn} (ordered : (turns ++ [turn]).Pairwise fun a b => a.now ≤ b.now) :
    TicksExactly ws (s.watch turns) turn := by
  have workspace : (s.watch turns).scheduler.workspace = ws :=
    (s.workspace_watch turns).trans (workspace_of_parts built)
  obtain ⟨asked, status⟩ := (s.watch turns).scheduler.purges_tick turn.now turn.world
  rw [workspace] at asked status
  exact {
    reports := by
      rw [← workspace]
      exact exists_report_iff
    tells := fun _ ok => tells_watch built ok
    tellsPlain := fun plain _ ok => tells_due built ordered plain ok
    once := by
      intro plain crossing listed
      obtain ⟨report, ok, listed⟩ := Tick.mem_crossings.1 listed
      obtain ⟨_, _, tells⟩ := tells_due built ordered plain ok
      exact ((tells.crossings crossing).1 listed).fresh
    retried := by
      intro later failed earlier split lost crossing listed since
        report window stored ok representable read scheduled within
      have fresh := not_kept_of_failed built split lost listed since representable
      obtain ⟨window', stored', tells⟩ := tells_watch built ok
      cases representable.symm.trans tells.representable
      cases read.symm.trans tells.read
      exact (tells.crossings crossing).2 ⟨scheduled, within, fresh⟩
    asks := ⟨_, asked, ws.length_requestsFor_le _, ws.length_requestsFor_eq_one⟩
    status
    remembers := by
      intro window representable crossing known
      have swept : (s.watch turns).scheduler.workspace.config.sweep.window? = some window := by
        rw [workspace, representable]
      exact isWithin_of_mem_remembered_tick swept known }

end Scheduler

/-! ## The ticks about one banner -/

/-- The instant so many seconds after the first one of 1970. -/
def Instant.ofSecond (second : Int) (covered : minSecond ≤ second ∧ second ≤ maxSecond) : Instant :=
  { epoch with second, minSecond_le := covered.1, le_maxSecond := covered.2 }

/-- The workspace of the usual configuration with an address to drop from a cache. -/
def Workspace.cached : Workspace :=
  ⟨{ artifactUrl := some "https://cdn.example.com/a.js" }, rfl, true⟩

/-- A scheduler of this workspace that was just built. -/
def Scheduler.cached : Scheduler :=
  ⟨.cached, 60000, by decide, []⟩

theorem Scheduler.ofParts_cached : ofParts (some .cached) none = .ok cached :=
  rfl

/-- The banner is hidden from second 80 on. -/
def hideBannerLater : Rule :=
  { Workspace.hideBanner with startsAt := some (.ofSecond 80 (by decide)) }

def bannerStart : Crossing :=
  ⟨"r1", .starts, .ofSecond 80 (by decide)⟩

/-- A tick at which nothing is stored but the rule. -/
def bannerTurn (now : Instant) (purgeFails : Nat → Bool := fun _ => false) : Turn where
  now
  world := {
    store := Store.empty.set Workspace.cached.rulesKey
      (RuleBook.codec.text { rules := [hideBannerLater] })
    purgeFails }

theorem loadStored_bannerTurn (now : Instant) (purgeFails : Nat → Bool) :
    (Workspace.cached.loadStored.run (bannerTurn now purgeFails).world).1 =
      .ok (some ⟨[hideBannerLater], ""⟩) :=
  Workspace.cached.loadStored_of_get? (fun _ => rfl) (Store.get?_set_self _ _ _) (by decide)

/-- The first purge fails, and the next tick lists the date again. -/
theorem Scheduler.tick_tells_bannerStart :
    TicksExactly .cached (cached.watch [bannerTurn .epoch fun _ => true])
        (bannerTurn (.ofSecond 60 (by decide))) ∧
      bannerStart ∈ ((cached.watch [bannerTurn .epoch fun _ => true]).tick
        (bannerTurn (.ofSecond 60 (by decide)))).crossings := by
  have first : TicksExactly .cached (cached.watch []) (bannerTurn .epoch fun _ => true) :=
    tick_tells_what_is_due ofParts_cached (by decide)
  have second : TicksExactly .cached (cached.watch [bannerTurn .epoch fun _ => true])
      (bannerTurn (.ofSecond 60 (by decide))) :=
    tick_tells_what_is_due ofParts_cached (by decide)
  have lost : ¬ PurgedFor [(cached.watch []).tick (bannerTurn .epoch fun _ => true)] bannerStart := by
    rintro ⟨tick, made, purged⟩
    obtain rfl := List.mem_singleton.1 made
    obtain ⟨report, ok, purged⟩ := Tick.mem_purgedFor.1 purged
    cases report with
    | noRules => cases purged
    | noTransitions checked => cases purged
    | purgeTriggered found purge =>
        obtain rfl := first.status found purge ok
        cases purged
  have read := loadStored_bannerTurn (.ofSecond 60 (by decide)) fun _ => false
  obtain ⟨report, ok⟩ := second.reports.2 ⟨⟨.ofMillis 90000, by decide⟩, _, read⟩
  obtain ⟨window, stored, tells⟩ := second.tellsPlain (avoidsLeapSeconds_watch (by decide)) report ok
  cases tells.representable
  cases (Workspace.storedIn_of_loadStored read).symm.trans tells.read
  refine ⟨second, Tick.mem_crossings.2 ⟨report, ok, (tells.crossings bannerStart).2 ?_⟩⟩
  exact ⟨⟨_, rfl, _, List.mem_singleton_self _, rfl, rfl, rfl⟩, by decide, lost⟩

/-! ## Around a leap second -/

/-- The banner is hidden from this instant on. -/
def hideBannerFrom (start : Instant) : Rule :=
  { Workspace.hideBanner with startsAt := some start }

def startOf (start : Instant) : Crossing :=
  ⟨"r1", .starts, start⟩

/-- A tick at which nothing is stored but this rule, and nothing fails. -/
def startTurn (start now : Instant) : Turn where
  now
  world := {
    store := Store.empty.set Workspace.cached.rulesKey
      (RuleBook.codec.text { rules := [hideBannerFrom start] }) }

theorem loadStored_startTurn {start : Instant} (whole : start.IsWholeMilli) (now : Instant) :
    (Workspace.cached.loadStored.run (startTurn start now).world).1 =
      .ok (some ⟨[hideBannerFrom start], ""⟩) := by
  have dates : (hideBannerFrom start).IsWholeMilli := by
    refine Rule.isWholeMilli_iff.2 ⟨Instant.isWholeMilli_epoch, ?_, by rintro t ⟨⟩⟩
    rintro t ⟨⟩
    exact whole
  have stored : (startTurn start now).world.store.get? Workspace.cached.rulesKey =
      some (RuleBook.codec.text { rules := [hideBannerFrom start] }) :=
    Store.get?_set_self _ _ _
  exact Workspace.cached.loadStored_of_get? (fun _ => rfl) stored (List.forall_mem_singleton.2 dates)

theorem isScheduledIn_startOf (start : Instant) :
    (startOf start).IsScheduledIn (some ⟨[hideBannerFrom start], ""⟩) :=
  ⟨_, rfl, hideBannerFrom start, List.mem_singleton_self _, rfl, rfl, rfl⟩

/-- A date one minute and a half before the end of the first four minutes. -/
def soon : Instant :=
  .ofSecond 150 (by decide)

def beforeLeapSecond : Instant :=
  .ofSecond 200 (by decide)

/-- Near the end of a leap second that is added after these minutes. -/
def lateInLeapSecond : Instant :=
  ⟨239, 1900000000, by decide, by decide, by decide⟩

def afterLeapSecond : Instant :=
  .ofSecond 240 (by decide)

namespace Scheduler

/-- The scheduler has ticked before the leap second, and late in it. -/
def soonWatch : Watch :=
  cached.watch [startTurn soon beforeLeapSecond, startTurn soon lateInLeapSecond]

/-- The first tick has the artifact purged for the start of the rule. -/
theorem purgedFor_soon : PurgedFor soonWatch.ticks (startOf soon) := by
  refine ⟨(cached.watch []).tick (startTurn soon beforeLeapSecond),
    List.mem_cons_of_mem _ (List.mem_singleton_self _), ?_⟩
  rw [Watch.purgedFor_tick fun _ => rfl]
  exact (Watch.mem_crossings_tick (cached.workspace_watch []) rfl (loadStored_startTurn (by decide) _)
    (isScheduledIn_startOf soon)).2 ⟨by decide, List.not_mem_nil⟩

/-- The start is more than 90 seconds away late in the leap second, and just 90 seconds after it. -/
theorem lists_soon_again :
    startOf soon ∈ (soonWatch.tick (startTurn soon afterLeapSecond)).crossings := by
  have last : soonWatch =
      (cached.watch [startTurn soon beforeLeapSecond]).step (startTurn soon lateInLeapSecond) :=
    cached.watch_append [startTurn soon beforeLeapSecond] (startTurn soon lateInLeapSecond)
  rw [last]
  exact Watch.lists_again (cached.workspace_watch _) rfl (by decide)
    (loadStored_startTurn (by decide) _) (isScheduledIn_startOf soon) (by decide)

/-- With a tick in a leap second it is not so that nothing is listed that the artifact was purged
for. -/
theorem purges_twice_around_leap_second :
    ¬ ∀ (ws : Workspace) (interval : Option Nat) (s : Scheduler) (turns : List Turn) (turn : Turn),
      ofParts (some ws) interval = .ok s →
      (turns ++ [turn]).Pairwise (fun a b => a.now ≤ b.now) →
      ∀ crossing ∈ ((s.watch turns).tick turn).crossings,
        ¬ PurgedFor (s.watch turns).ticks crossing := by
  intro never
  have ordered : ([startTurn soon beforeLeapSecond, startTurn soon lateInLeapSecond] ++
      [startTurn soon afterLeapSecond]).Pairwise fun a b => a.now ≤ b.now := by
    decide
  exact never .cached none cached _ _ ofParts_cached ordered (startOf soon) lists_soon_again
    purgedFor_soon

end Scheduler

end Exclusion
