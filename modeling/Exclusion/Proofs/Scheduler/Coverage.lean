/-
# Exclusion.Proofs.Scheduler.Coverage -- which tick purges for a date

While the rules stay as they are and neither the store nor the cache fails, the tick that lists a date
is the first one that has it within its window (`AllTell.purgedFor_iff`), and no other does
(`AllTell.countP_crossings`).  So when ticks follow each other closely enough, each date is listed by
exactly one of them (`Scheduler.lists_each_date_once`).

The window reaches as far ahead as it reaches back.  When ticks are a window apart at most, the tick
that lists a date therefore comes before it, unless the first tick of all falls on the date; the cache
is asked before anything has changed, and not again (`Scheduler.purges_ahead_of_the_date`).

Ticks in leap seconds are left out here too.  With a tick in one a date may be listed before it and
after it (`Scheduler.lists_twice_around_leap_second`), or by no tick at all, since the times from the
tick to the date and from there to the next tick may add up to more than the time between the two
(`Scheduler.misses_date_after_leap_second`).
-/
import Exclusion.Proofs.Scheduler.Watch

namespace Exclusion

set_option autoImplicit false

/-! ## Ticks of a workspace -/

/-- The tick was made by a scheduler of the workspace. -/
def Tick.IsMadeFor (tick : Tick) (ws : Workspace) : Prop :=
  ∃ s : Scheduler, s.workspace = ws ∧ tick.result = (s.tick tick.now tick.world).1 ∧
    tick.after = (s.tick tick.now tick.world).2.2

theorem Scheduler.isMadeFor_of_watch {s : Scheduler} {turns : List Turn} {tick : Tick}
    (made : tick ∈ (s.watch turns).ticks) : tick.IsMadeFor s.workspace := by
  obtain ⟨later, earlier, split⟩ := List.append_of_mem made
  obtain ⟨before, turn, rfl, -⟩ := exists_of_watch split
  exact ⟨_, s.workspace_watch before, rfl, rfl⟩

namespace Tick

variable {ws : Workspace} {tick : Tick}

/-- A tick asks the cache what its result calls for. -/
theorem IsMadeFor.purges (made : tick.IsMadeFor ws) :
    tick.after.purges = tick.world.purges ++ ws.requestsFor tick.result := by
  obtain ⟨s, rfl, ran, after⟩ := made
  rw [after, ran]
  exact (s.purges_tick tick.now tick.world).1

/-- A tick that lists something asks for it. -/
theorem requestsFor_of_listed {crossing : Crossing} (listed : crossing ∈ tick.crossings) :
    ws.requestsFor tick.result = ws.purgeRequests := by
  obtain ⟨report, ok, listed⟩ := mem_crossings.1 listed
  rw [ok]
  cases report with
  | noRules => cases listed
  | noTransitions checked => cases listed
  | purgeTriggered found purge => rfl

/-- A tick that lists nothing asks nothing. -/
theorem IsMadeFor.purges_of_idle (made : tick.IsMadeFor ws) (idle : tick.crossings = []) :
    tick.after.purges = tick.world.purges := by
  rw [made.purges]
  obtain ⟨s, rfl, ran, -⟩ := made
  cases result : tick.result with
  | error failure => exact List.append_nil _
  | ok report =>
      cases report with
      | noRules => exact List.append_nil _
      | noTransitions checked => exact List.append_nil _
      | purgeTriggered found purge =>
          rw [crossings, result] at idle
          rw [result] at ran
          exact absurd (List.map_eq_nil_iff.1 idle) (Scheduler.found_ne_nil ran.symm)

/-- When no request to the cache fails, the artifact is purged for all that is listed. -/
theorem IsMadeFor.purgedFor_eq (made : tick.IsMadeFor ws)
    (reliable : ∀ n, tick.world.purgeFails n = false) : tick.purgedFor = tick.crossings := by
  obtain ⟨s, rfl, ran, -⟩ := made
  rw [purgedFor, crossings]
  cases result : tick.result with
  | error failure => rfl
  | ok report => exact Scheduler.purgedFor_of_tick (ran.symm.trans result) reliable

end Tick

/-! ## Rules that stay -/

/-- The rule book is stored, and neither the store nor the cache fails. -/
structure Turn.Finds (ws : Workspace) (book : RuleBook) (turn : Turn) : Prop where
  stored : ws.storedIn turn.world = .ok (some book)
  reliable : ∀ n, turn.world.storeFails n = false
  purges : ∀ n, turn.world.purgeFails n = false

/-- A tick that finds rules reports. -/
theorem Turn.Finds.report {ws : Workspace} {book : RuleBook} {tick : Tick} {window : Span}
    (finds : tick.Finds ws book) (made : tick.IsMadeFor ws)
    (representable : ws.config.sweep.window? = some window) :
    ∃ report, tick.result = .ok report := by
  obtain ⟨s, rfl, ran, -⟩ := made
  have loaded : (s.workspace.loadStored.run tick.world).1 = .ok (some book) := by
    rw [((s.workspace.follows_loadStored _).of_reliable rfl finds.reliable).1]
    exact finds.stored
  rw [ran]
  exact Scheduler.exists_report_iff.2 ⟨⟨window, representable⟩, _, loaded⟩

/-- Each of the ticks that report tells what was due after the ones before it. -/
def AllTell (ws : Workspace) : List Tick → Prop
  | [] => True
  | tick :: earlier =>
    (∀ report, tick.result = .ok report →
      ∃ window stored, tick.Tells ws (PurgedFor earlier) report window stored) ∧ AllTell ws earlier

theorem AllTell.of_append {ws : Workspace} {later earlier : List Tick}
    (tell : AllTell ws (later ++ earlier)) : AllTell ws earlier := by
  induction later with
  | nil => exact tell
  | cons newest later ih => exact ih tell.2

/-- Outside leap seconds all ticks of a scheduler tell what was due. -/
theorem Scheduler.allTell_watch {ws : Workspace} {interval : Option Nat} {s : Scheduler}
    (built : ofParts (some ws) interval = .ok s) {turns : List Turn}
    (ordered : turns.Pairwise fun a b => a.now ≤ b.now)
    (plain : ∀ turn ∈ turns, turn.now.isLeap = false) : AllTell ws (s.watch turns).ticks := by
  induction turns using List.reverseRecOn with
  | nil => trivial
  | append_singleton turns turn ih =>
      rw [watch_append]
      exact ⟨fun _ ok => tells_due built ordered (avoidsLeapSeconds_watch plain) ok,
        ih (List.pairwise_append.1 ordered).1 (List.forall_mem_append.1 plain).1⟩

/-- These are ticks of the workspace that tell what was due, each of them finding the same rules. -/
structure Steady (ws : Workspace) (book : RuleBook) (ticks : List Tick) : Prop where
  tell : AllTell ws ticks
  made : ∀ tick ∈ ticks, tick.IsMadeFor ws
  finds : ∀ tick ∈ ticks, tick.Finds ws book

namespace Steady

variable {ws : Workspace} {book : RuleBook} {window : Span} {crossing : Crossing} {tick : Tick}
  {ticks earlier : List Tick}

theorem tail (steady : Steady ws book (tick :: earlier)) : Steady ws book earlier where
  tell := steady.tell.2
  made := fun tick listed => steady.made tick (List.mem_cons_of_mem _ listed)
  finds := fun tick listed => steady.finds tick (List.mem_cons_of_mem _ listed)

/-- Only dates of active rules are listed. -/
theorem scheduled_of_listed (steady : Steady ws book ticks) (made : tick ∈ ticks)
    (listed : crossing ∈ tick.crossings) : crossing.IsScheduledIn (some book) := by
  have stored := (steady.finds tick made).stored
  obtain ⟨later, earlier, rfl⟩ := List.append_of_mem made
  obtain ⟨report, ok, listed⟩ := Tick.mem_crossings.1 listed
  obtain ⟨window, found, tells⟩ := steady.tell.of_append.1 report ok
  cases stored.symm.trans tells.read
  exact ((tells.crossings crossing).1 listed).scheduled

variable (representable : ws.config.sweep.window? = some window)
  (scheduled : crossing.IsScheduledIn (some book))
include representable scheduled

/-- A date within the window is listed if the artifact was not purged for it. -/
theorem mem_crossings_iff (steady : Steady ws book (tick :: earlier)) :
    crossing ∈ tick.crossings ↔
      isWithin window tick.now crossing.date = true ∧ ¬ PurgedFor earlier crossing := by
  have newest := List.mem_cons_self (a := tick) (l := earlier)
  have finds := steady.finds tick newest
  obtain ⟨report, ok⟩ := finds.report (steady.made tick newest) representable
  obtain ⟨window', stored, tells⟩ := steady.tell.1 report ok
  cases representable.symm.trans tells.representable
  cases finds.stored.symm.trans tells.read
  rw [Tick.crossings, ok]
  refine (tells.crossings crossing).trans ⟨fun due => ⟨due.within, due.fresh⟩, ?_⟩
  rintro ⟨within, fresh⟩
  exact ⟨scheduled, within, fresh⟩

/-- **The artifact was purged for a date if some tick had it within its window.** -/
theorem purgedFor_iff (steady : Steady ws book ticks) :
    PurgedFor ticks crossing ↔ ∃ tick ∈ ticks, isWithin window tick.now crossing.date = true := by
  induction ticks with
  | nil => simp [PurgedFor]
  | cons tick earlier ih =>
      have newest := List.mem_cons_self (a := tick) (l := earlier)
      have kept := (steady.made tick newest).purgedFor_eq (steady.finds tick newest).purges
      rw [purgedFor_cons, kept, steady.mem_crossings_iff representable scheduled, ih steady.tail,
        List.exists_mem_cons_iff]
      tauto

/-- **A date is listed once if some tick has it within its window, and else never.** -/
theorem countP_crossings (steady : Steady ws book ticks) :
    ticks.countP (crossing ∈ ·.crossings) =
      if ∃ tick ∈ ticks, isWithin window tick.now crossing.date = true then 1 else 0 := by
  induction ticks with
  | nil => simp
  | cons tick earlier ih =>
      have listed := steady.mem_crossings_iff representable scheduled
      have purged := steady.tail.purgedFor_iff representable scheduled
      rw [purged] at listed
      simp only [List.exists_mem_cons_iff]
      by_cases before : ∃ tick ∈ earlier, isWithin window tick.now crossing.date = true
      · have passed : crossing ∉ tick.crossings := fun again => (listed.1 again).2 before
        rw [List.countP_cons_of_neg (by simpa using passed), ih steady.tail, if_pos before,
          if_pos (.inr before)]
      by_cases near : isWithin window tick.now crossing.date = true
      · have first : crossing ∈ tick.crossings := listed.2 ⟨near, before⟩
        rw [List.countP_cons_of_pos (by simpa using first), ih steady.tail, if_neg before,
          if_pos (.inl near)]
      · have far : crossing ∉ tick.crossings := fun listed' => near (listed.1 listed').1
        rw [List.countP_cons_of_neg (by simpa using far), ih steady.tail, if_neg before,
          if_neg (not_or.2 ⟨near, before⟩)]

/-- The tick that lists a date is the first that has it within its window. -/
theorem le_of_listed (steady : Steady ws book ticks)
    (ordered : ticks.Pairwise fun later earlier => earlier.now ≤ later.now) (made : tick ∈ ticks)
    (listed : crossing ∈ tick.crossings) {other : Tick} (madeToo : other ∈ ticks)
    (near : isWithin window other.now crossing.date = true) : tick.now ≤ other.now := by
  induction ticks with
  | nil => cases made
  | cons newest earlier ih =>
      obtain ⟨newestLater, ordered⟩ := List.pairwise_cons.1 ordered
      rcases List.mem_cons.1 made with rfl | earlierMade
      · have fresh := ((steady.mem_crossings_iff representable scheduled).1 listed).2
        rw [steady.tail.purgedFor_iff representable scheduled] at fresh
        rcases List.mem_cons.1 madeToo with rfl | madeToo
        · exact Instant.le_refl _
        · exact absurd ⟨other, madeToo, near⟩ fresh
      rcases List.mem_cons.1 madeToo with rfl | madeToo
      · exact newestLater tick earlierMade
      · exact ih steady.tail ordered earlierMade madeToo

end Steady

/-! ## Runs of ticks -/

namespace Scheduler

variable {ws : Workspace} {interval : Option Nat} {s : Scheduler} {book : RuleBook} {window : Span}
  {turns : List Turn} {first last : Turn} {r : Rule} {crossing : Crossing}

theorem exists_tick_at {t : Instant} (listed : t ∈ turns.map Turn.now) :
    ∃ tick ∈ (s.watch turns).ticks, tick.now = t := by
  obtain ⟨turn, turned, rfl⟩ := List.mem_map.1 listed
  have ticked : turn ∈ (s.watch turns).ticks.map Tick.toTurn := by
    rw [s.turns_watch]
    exact List.mem_reverse.2 turned
  obtain ⟨tick, made, rfl⟩ := List.mem_map.1 ticked
  exact ⟨tick, made, rfl⟩

/-- Instants that follow each other are in order. -/
theorem pairwise_of_isChain {gap : Int}
    (close : (turns.map Turn.now).IsChain (Instant.FollowedWithin gap)) :
    turns.Pairwise fun a b => a.now ≤ b.now :=
  List.pairwise_map.1 (close.imp fun _ _ follows => follows.1).pairwise

theorem steady_watch (built : ofParts (some ws) interval = .ok s)
    (finds : ∀ turn ∈ turns, turn.Finds ws book) (plain : ∀ turn ∈ turns, turn.now.isLeap = false)
    (ordered : turns.Pairwise fun a b => a.now ≤ b.now) : Steady ws book (s.watch turns).ticks where
  tell := allTell_watch built ordered plain
  made := fun _ made => workspace_of_parts built ▸ isMadeFor_of_watch made
  finds := fun tick made => finds tick.toTurn (toTurn_mem_of_watch made)

/-- The date of an active rule is outside leap seconds. -/
theorem isLeap_of_finds (finds : ∀ turn ∈ turns, turn.Finds ws book)
    (isFirst : turns.head? = some first) (scheduled : crossing.IsScheduledIn (some book)) :
    crossing.date.isLeap = false :=
  Crossing.isLeap_of_stored (finds first (List.mem_of_head? isFirst)).stored scheduled

section Coverage

variable (built : ofParts (some ws) interval = .ok s)
  (representable : ws.config.sweep.window? = some window)
  (finds : ∀ turn ∈ turns, turn.Finds ws book) (plain : ∀ turn ∈ turns, turn.now.isLeap = false)
  (isFirst : turns.head? = some first) (isLast : turns.getLast? = some last)

section Near

include representable plain isFirst isLast

/-- When ticks are at most two windows apart, some tick has the date within its window. -/
theorem exists_tick_near (datePlain : crossing.date.isLeap = false)
    (close : (turns.map Turn.now).IsChain (Instant.FollowedWithin (2 * window.nanos)))
    (begins : first.now.since crossing.date ≤ window.nanos)
    (ends : crossing.date.since last.now ≤ window.nanos) :
    ∃ tick ∈ (s.watch turns).ticks, isWithin window tick.now crossing.date = true := by
  obtain ⟨later, rfl⟩ := List.head?_eq_some_iff.1 isFirst
  have nowPlain : ∀ t ∈ (first :: later).map Turn.now, t.isLeap = false := List.forall_mem_map.2 plain
  have nowLast : ((first :: later).map Turn.now).getLast? = some last.now := by
    rw [List.getLast?_map, isLast]
    rfl
  obtain ⟨t, listed, near⟩ := exists_isWithin nowPlain datePlain
    (SweepConfig.window_nonneg representable) close nowLast begins ends
  have listed : t ∈ (first :: later).map Turn.now := listed
  obtain ⟨tick, made, rfl⟩ := exists_tick_at (s := s) listed
  exact ⟨tick, made, near⟩

/-- When ticks are at most the window apart, and the first one comes before the date and the last one
does not, some tick before the date has it within its window. -/
theorem exists_tick_near_before (datePlain : crossing.date.isLeap = false)
    (close : (turns.map Turn.now).IsChain (Instant.FollowedWithin window.nanos))
    (begins : first.now < crossing.date) (ends : crossing.date ≤ last.now) :
    ∃ tick ∈ (s.watch turns).ticks,
      tick.now < crossing.date ∧ isWithin window tick.now crossing.date = true := by
  obtain ⟨later, rfl⟩ := List.head?_eq_some_iff.1 isFirst
  have nowPlain : ∀ t ∈ (first :: later).map Turn.now, t.isLeap = false := List.forall_mem_map.2 plain
  have reached : last.now ∈ (first :: later).map Turn.now :=
    List.mem_map_of_mem (List.mem_of_getLast? isLast)
  obtain ⟨t, listed, before, near⟩ := exists_isWithin_before nowPlain datePlain
    (SweepConfig.window_nonneg representable) close begins reached ends
  have listed : t ∈ (first :: later).map Turn.now := listed
  obtain ⟨tick, made, rfl⟩ := exists_tick_at (s := s) listed
  exact ⟨tick, made, before, near⟩

end Near

variable (listed : r ∈ book.rules) (active : r.isActive = true) (isOf : crossing.IsOf r)
include built representable finds plain isFirst isLast listed active isOf

/-- **No date is missed, and none is listed twice.**  The ticks are at most two windows apart and not
in leap seconds, and the date is not further than the window before the first or after the last. -/
theorem lists_each_date_once
    (close : (turns.map Turn.now).IsChain (Instant.FollowedWithin (2 * window.nanos)))
    (begins : first.now.since crossing.date ≤ window.nanos)
    (ends : crossing.date.since last.now ≤ window.nanos) :
    (s.watch turns).ticks.countP (crossing ∈ ·.crossings) = 1 := by
  have scheduled : crossing.IsScheduledIn (some book) := ⟨book, rfl, r, listed, active, isOf⟩
  have datePlain := isLeap_of_finds finds isFirst scheduled
  have steady := steady_watch built finds plain (pairwise_of_isChain close)
  have near := exists_tick_near (s := s) representable plain isFirst isLast datePlain close begins ends
  rw [steady.countP_crossings representable scheduled, if_pos near]

/-- **The purge for a date comes ahead of it.**  The ticks are at most the window apart, and the date
lies between the first one and a window before the last.  One tick lists the date and asks the cache
for it; it comes before the date if any tick does. -/
theorem purges_ahead_of_the_date {url : String} (address : ws.config.artifactUrl = some url)
    (hasCache : ws.hasCache = true)
    (close : (turns.map Turn.now).IsChain (Instant.FollowedWithin window.nanos))
    (begins : first.now ≤ crossing.date) (ends : window.nanos ≤ last.now.since crossing.date) :
    (s.watch turns).ticks.countP (crossing ∈ ·.crossings) = 1 ∧
      ∀ tick ∈ (s.watch turns).ticks, crossing ∈ tick.crossings →
        tick.after.purges = tick.world.purges ++ [url] ∧ tick.now ≤ crossing.date ∧
          (first.now < crossing.date → tick.now < crossing.date) := by
  have scheduled : crossing.IsScheduledIn (some book) := ⟨book, rfl, r, listed, active, isOf⟩
  have datePlain := isLeap_of_finds finds isFirst scheduled
  have firstPlain := plain first (List.mem_of_head? isFirst)
  have lastPlain := plain last (List.mem_of_getLast? isLast)
  have nonneg := SweepConfig.window_nonneg representable
  have ordered := pairwise_of_isChain close
  have steady := steady_watch built finds plain ordered
  have latestFirst := pairwise_ticks (s := s) ordered
  rw [Instant.since_eq lastPlain datePlain] at ends
  have wider : window.nanos ≤ 2 * window.nanos := by omega
  have closeEnough : (turns.map Turn.now).IsChain (Instant.FollowedWithin (2 * window.nanos)) :=
    close.imp fun _ _ follows => follows.mono wider
  have beginsNear : first.now.since crossing.date ≤ window.nanos := by
    rw [Instant.le_iff_nanos firstPlain datePlain] at begins
    rw [Instant.since_eq firstPlain datePlain]
    omega
  have reaches : crossing.date ≤ last.now := by
    rw [Instant.le_iff_nanos datePlain lastPlain]
    omega
  have endsNear : crossing.date.since last.now ≤ window.nanos := by
    rw [Instant.since_eq datePlain lastPlain]
    omega
  have near := exists_tick_near (s := s) representable plain isFirst isLast datePlain closeEnough
    beginsNear endsNear
  refine ⟨by rw [steady.countP_crossings representable scheduled, if_pos near], ?_⟩
  intro tick made found
  have asked := (steady.made tick made).purges
  rw [Tick.requestsFor_of_listed found, Workspace.purgeRequests, if_pos hasCache, address] at asked
  refine ⟨asked, ?_⟩
  by_cases early : first.now < crossing.date
  · obtain ⟨other, madeToo, before, near⟩ := exists_tick_near_before (s := s) representable plain
      isFirst isLast datePlain close early reaches
    have notLater := steady.le_of_listed representable scheduled latestFirst made found madeToo near
    have ahead : tick.now < crossing.date := fun late => before (Instant.le_trans late notLater)
    exact ⟨Instant.le_of_lt ahead, fun _ => ahead⟩
  · -- the first tick falls on the date, and lists it
    obtain ⟨other, madeToo, isNow⟩ := exists_tick_at (s := s)
      (List.mem_map_of_mem (List.mem_of_head? isFirst) : first.now ∈ turns.map Turn.now)
    have near : isWithin window other.now crossing.date = true := by
      have onDate : crossing.date ≤ first.now := not_not.1 early
      rw [Instant.le_iff_nanos firstPlain datePlain] at begins
      rw [Instant.le_iff_nanos datePlain firstPlain] at onDate
      rw [isNow, isWithin_iff firstPlain datePlain nonneg]
      omega
    have notLater := steady.le_of_listed representable scheduled latestFirst made found madeToo near
    rw [isNow] at notLater
    exact ⟨Instant.le_trans notLater begins, fun ahead => absurd ahead early⟩

end Coverage

/-! ## The ticks about one banner, at the usual interval -/

/-- A tick every minute, neither the store nor the cache failing. -/
def bannerTurns : List Turn :=
  [bannerTurn .epoch, bannerTurn (.ofSecond 60 (by decide)), bannerTurn (.ofSecond 120 (by decide)),
    bannerTurn (.ofSecond 180 (by decide))]

theorem finds_bannerTurns : ∀ turn ∈ bannerTurns, turn.Finds .cached ⟨[hideBannerLater], ""⟩ := by
  have finds : ∀ now, (bannerTurn now).Finds .cached ⟨[hideBannerLater], ""⟩ := fun now => {
    stored := Workspace.storedIn_of_loadStored (loadStored_bannerTurn now _)
    reliable := fun _ => rfl
    purges := fun _ => rfl }
  simp only [bannerTurns, List.forall_mem_cons, List.not_mem_nil, false_imp_iff, implies_true,
    and_true]
  exact ⟨finds _, finds _, finds _, finds _⟩

theorem lists_bannerStart_once :
    (cached.watch bannerTurns).ticks.countP (bannerStart ∈ ·.crossings) = 1 :=
  lists_each_date_once ofParts_cached rfl finds_bannerTurns (by decide) rfl rfl
    (List.mem_singleton_self hideBannerLater) rfl ⟨rfl, rfl⟩ (by decide) (by decide) (by decide)

theorem purges_ahead_of_bannerStart :
    (cached.watch bannerTurns).ticks.countP (bannerStart ∈ ·.crossings) = 1 ∧
      ∀ tick ∈ (cached.watch bannerTurns).ticks, bannerStart ∈ tick.crossings →
        tick.after.purges = tick.world.purges ++ ["https://cdn.example.com/a.js"] ∧
          tick.now ≤ bannerStart.date ∧
            (Instant.epoch < bannerStart.date → tick.now < bannerStart.date) :=
  purges_ahead_of_the_date ofParts_cached rfl finds_bannerTurns (by decide) rfl rfl
    (List.mem_singleton_self hideBannerLater) rfl ⟨rfl, rfl⟩ rfl rfl (by decide) (by decide) (by decide)

theorem eq_bannerStart {crossing : Crossing}
    (scheduled : crossing.IsScheduledIn (some ⟨[hideBannerLater], ""⟩)) : crossing = bannerStart := by
  obtain ⟨book, found, r, listed, -, same, date⟩ := scheduled
  cases Option.mem_some_iff.1 found
  obtain rfl := List.mem_singleton.1 listed
  obtain ⟨id, boundary, day⟩ := crossing
  cases boundary with
  | starts =>
      cases same
      cases date
      rfl
  | ends => cases date

/-- The tick at the first instant lists the date, and from the date on no tick asks the cache. -/
theorem asks_nothing_from_bannerStart {tick : Tick} (made : tick ∈ (cached.watch bannerTurns).ticks)
    (late : bannerStart.date ≤ tick.now) : tick.after.purges = tick.world.purges := by
  have ordered : bannerTurns.Pairwise fun a b => a.now ≤ b.now := by decide
  have steady := steady_watch ofParts_cached finds_bannerTurns (by decide) ordered
  refine (steady.made tick made).purges_of_idle (List.eq_nil_iff_forall_not_mem.2 ?_)
  intro crossing listed
  obtain rfl := eq_bannerStart (steady.scheduled_of_listed made listed)
  have scheduled := steady.scheduled_of_listed made listed
  obtain ⟨other, madeToo, isNow⟩ := exists_tick_at (s := cached) (t := .epoch)
    (by decide : Instant.epoch ∈ bannerTurns.map Turn.now)
  have near : isWithin (.ofMillis 90000) other.now bannerStart.date = true := by
    rw [isNow]
    decide
  have notLater := steady.le_of_listed rfl scheduled (pairwise_ticks ordered) made listed madeToo near
  rw [isNow] at notLater
  exact absurd (Instant.le_trans late notLater) (by decide)

/-- It is not so that the cache is asked on or after each date. -/
theorem not_always_purged_from_the_date_on :
    ¬ ∀ (ws : Workspace) (interval : Option Nat) (s : Scheduler) (book : RuleBook) (window : Span)
      (turns : List Turn) (first last : Turn) (r : Rule) (crossing : Crossing),
      ofParts (some ws) interval = .ok s → ws.config.sweep.window? = some window → 0 < window.nanos →
      isValidRuleSet book.rules = true → ws.config.artifactUrl ≠ none → ws.hasCache = true →
      (∀ turn ∈ turns, turn.Finds ws book) → (∀ turn ∈ turns, turn.now.isLeap = false) →
      (turns.map Turn.now).IsChain (Instant.FollowedWithin window.nanos) →
      turns.head? = some first → turns.getLast? = some last →
      r ∈ book.rules → r.isActive = true → crossing.IsOf r →
      first.now ≤ crossing.date → window.nanos ≤ last.now.since crossing.date →
      ∃ tick ∈ (s.watch turns).ticks,
        crossing.date ≤ tick.now ∧ tick.after.purges ≠ tick.world.purges := by
  intro always
  obtain ⟨tick, made, late, asked⟩ := always .cached none cached ⟨[hideBannerLater], ""⟩
    (.ofMillis 90000) bannerTurns (bannerTurn .epoch) (bannerTurn (.ofSecond 180 (by decide)))
    hideBannerLater bannerStart rfl rfl (by decide) (by decide) (by decide) rfl finds_bannerTurns (by decide)
    (by decide) rfl rfl (List.mem_singleton_self _) rfl ⟨rfl, rfl⟩ (by decide) (by decide)
  exact asked (asks_nothing_from_bannerStart made late)

/-! ## Around a leap second -/

theorem finds_startTurn {start : Instant} (whole : start.IsWholeMilli) (now : Instant) :
    (startTurn start now).Finds .cached ⟨[hideBannerFrom start], ""⟩ where
  stored := Workspace.storedIn_of_loadStored (loadStored_startTurn whole now)
  reliable := fun _ => rfl
  purges := fun _ => rfl

/-- A tick before the leap second, one late in it and one after it. -/
def soonTurns : List Turn :=
  [beforeLeapSecond, lateInLeapSecond, afterLeapSecond].map (startTurn soon)

/-- The first tick and the last one list the start of the rule. -/
theorem one_lt_countP_soon : 1 < (cached.watch soonTurns).ticks.countP (startOf soon ∈ ·.crossings) := by
  have ticks : (cached.watch soonTurns).ticks =
      soonWatch.tick (startTurn soon afterLeapSecond) :: soonWatch.ticks :=
    congrArg Watch.ticks (cached.watch_append
      [startTurn soon beforeLeapSecond, startTurn soon lateInLeapSecond] _)
  obtain ⟨first, made, purged⟩ := purgedFor_soon
  have listed : 0 < soonWatch.ticks.countP (startOf soon ∈ ·.crossings) :=
    List.countP_pos_iff.2 ⟨first, made, by simpa using first.purgedFor_subset purged⟩
  rw [ticks, List.countP_cons_of_pos (by simpa using lists_soon_again)]
  omega

/-- With a tick in a leap second it is not so that each date is listed once. -/
theorem lists_twice_around_leap_second :
    ¬ ∀ (ws : Workspace) (interval : Option Nat) (s : Scheduler) (book : RuleBook) (window : Span)
      (turns : List Turn) (first last : Turn) (r : Rule) (crossing : Crossing),
      ofParts (some ws) interval = .ok s → ws.config.sweep.window? = some window →
      isValidRuleSet book.rules = true → (∀ turn ∈ turns, turn.Finds ws book) →
      (turns.map Turn.now).IsChain (Instant.FollowedWithin (2 * window.nanos)) →
      turns.head? = some first → turns.getLast? = some last →
      r ∈ book.rules → r.isActive = true → crossing.IsOf r →
      first.now.since crossing.date ≤ window.nanos → crossing.date.since last.now ≤ window.nanos →
      (s.watch turns).ticks.countP (crossing ∈ ·.crossings) = 1 := by
  intro always
  have once := always .cached none cached ⟨[hideBannerFrom soon], ""⟩ (.ofMillis 90000) soonTurns
    (startTurn soon beforeLeapSecond) (startTurn soon afterLeapSecond) (hideBannerFrom soon)
    (startOf soon) ofParts_cached rfl (by decide)
    (List.forall_mem_map.2 fun now _ => finds_startTurn (by decide) now) (by decide) rfl rfl
    (List.mem_singleton_self _) rfl ⟨rfl, rfl⟩ (by decide) (by decide)
  exact absurd once (Nat.ne_of_gt one_lt_countP_soon)

/-- Half a minute before the end of the first day. -/
def lateInDay : Instant :=
  .ofSecond 86370 (by decide)

/-- In a leap second that is added two minutes before the end of this day. -/
def leapBeforeMidnight : Instant :=
  ⟨86279, 1800000000, by decide, by decide, by decide⟩

def afterMidnight : Instant :=
  ⟨86460, 700000000, by decide, by decide, by decide⟩

/-- Nor is it so that each date is listed at all: the leap second is counted between the first tick and
the date, which are of one day, but not between the two ticks. -/
theorem misses_date_after_leap_second :
    ¬ ∀ (ws : Workspace) (interval : Option Nat) (s : Scheduler) (book : RuleBook) (window : Span)
      (turns : List Turn) (first last : Turn) (r : Rule) (crossing : Crossing),
      ofParts (some ws) interval = .ok s → ws.config.sweep.window? = some window →
      isValidRuleSet book.rules = true → (∀ turn ∈ turns, turn.Finds ws book) →
      (turns.map Turn.now).IsChain (Instant.FollowedWithin (2 * window.nanos)) →
      turns.head? = some first → turns.getLast? = some last →
      r ∈ book.rules → r.isActive = true → crossing.IsOf r →
      first.now.since crossing.date ≤ window.nanos → crossing.date.since last.now ≤ window.nanos →
      ∃ tick ∈ (s.watch turns).ticks, crossing ∈ tick.crossings := by
  intro always
  obtain ⟨tick, made, listed⟩ := always .cached none cached ⟨[hideBannerFrom lateInDay], ""⟩
    (.ofMillis 90000) ([leapBeforeMidnight, afterMidnight].map (startTurn lateInDay))
    (startTurn lateInDay leapBeforeMidnight) (startTurn lateInDay afterMidnight)
    (hideBannerFrom lateInDay) (startOf lateInDay) ofParts_cached rfl (by decide)
    (List.forall_mem_map.2 fun now _ => finds_startTurn (by decide) now) (by decide) rfl rfl
    (List.mem_singleton_self _) rfl ⟨rfl, rfl⟩ (by decide) (by decide)
  have far : ∀ now ∈ [leapBeforeMidnight, afterMidnight],
      isWithin (.ofMillis 90000) now lateInDay = false := by
    decide
  obtain ⟨now, ticked, same⟩ := List.mem_map.1 (toTurn_mem_of_watch made)
  obtain ⟨later, earlier, split⟩ := List.append_of_mem made
  obtain ⟨window, stored, representable, -, due⟩ := due_of_watch ofParts_cached split listed
  cases representable
  have within := due.within
  rw [← congrArg Turn.now same] at within
  exact absurd within (ne_true_of_eq_false (far now ticked))

end Scheduler

end Exclusion
