/-
# Exclusion.Proofs.Scheduler.Tick -- what one tick of a scheduler does

A tick forgets the crossings outside the window, reads the stored rules with one call of the store, and
reports the crossings that it finds and does not remember.  It takes one of the courses of
`Scheduler.Course` (`Scheduler.course`): the window is endless, the rules cannot be read, there are
none, nothing is due, or a purge is requested.  Only in the last course the cache is asked, once, and
only then something may be remembered.

What a tick finds is said without the search for it (`mem_crossings_found`): a crossing is found if an
active rule has it and it lies within the window.
-/
import Exclusion.Proofs.Rule.Transition
import Exclusion.Proofs.Workspace.Stored
import Exclusion.Workspace.Scheduler

namespace Exclusion

set_option autoImplicit false

/-! ## Crossings -/

/-- The crossing is one of the dates of the rule. -/
def Crossing.IsOf (crossing : Crossing) (r : Rule) : Prop :=
  crossing.ruleId = r.id ∧
    match crossing.boundary with
    | .starts => r.startsAt = some crossing.date
    | .ends => r.endsAt = some crossing.date

theorem Crossing.isOf_iff {crossing : Crossing} {r : Rule} :
    crossing.IsOf r ↔ crossing.ruleId = r.id ∧ r.date? crossing.boundary = some crossing.date := by
  rw [Crossing.IsOf]
  cases crossing.boundary <;> rfl

/-- The crossings that a sweep lists. -/
def SweepReport.crossings (report : SweepReport) : List Crossing :=
  report.transitions.map .ofRecord

/-- The crossings for which a sweep had the artifact purged. -/
def SweepReport.purgedFor : SweepReport → List Crossing
  | .purgeTriggered found purge => if purge.isFailed then [] else found.map .ofRecord
  | .noRules | .noTransitions _ => []

theorem SweepReport.purgedFor_subset (report : SweepReport) : report.purgedFor ⊆ report.crossings := by
  intro crossing purged
  cases report with
  | noRules => cases purged
  | noTransitions checked => cases purged
  | purgeTriggered found purge =>
      rw [purgedFor] at purged
      split at purged
      · cases purged
      · exact purged

/-- A sweep whose purge did not fail had the artifact purged for all that it lists. -/
theorem SweepReport.purgedFor_eq {report : SweepReport}
    (kept : ∀ found purge, report = .purgeTriggered found purge → purge.isFailed = false) :
    report.purgedFor = report.crossings := by
  cases report with
  | noRules => rfl
  | noTransitions checked => rfl
  | purgeTriggered found purge =>
      rw [purgedFor, kept found purge rfl]
      rfl

/-- The dates of the rules of a book within the window around an instant, as a sweep lists them. -/
def RuleBook.found (book : RuleBook) (window : Span) (now : Instant) : List TransitionRecord :=
  (transitions book.rules window now).map .ofTransition

/-- **A crossing is found if an active rule has it and it lies within the window.** -/
theorem mem_crossings_found {book : RuleBook} {window : Span} {now : Instant} {crossing : Crossing} :
    crossing ∈ (book.found window now).map .ofRecord ↔
      (∃ r ∈ book.rules, r.isActive = true ∧ crossing.IsOf r) ∧
        isWithin window now crossing.date = true := by
  simp only [RuleBook.found, List.map_map, List.mem_map, Function.comp_apply]
  constructor
  · rintro ⟨t, found, rfl⟩
    obtain ⟨listed, active, dated, within⟩ := mem_transitions.1 found
    exact ⟨⟨t.rule, listed, active, Crossing.isOf_iff.2 ⟨rfl, (mem_dates.1 dated).2⟩⟩, within⟩
  · rintro ⟨⟨r, listed, active, isOf⟩, within⟩
    obtain ⟨sameId, date⟩ := Crossing.isOf_iff.1 isOf
    refine ⟨⟨r, crossing.boundary, crossing.date⟩,
      mem_transitions.2 ⟨listed, active, mem_dates.2 ⟨rfl, date⟩, within⟩, ?_⟩
    obtain ⟨ruleId, boundary, date⟩ := crossing
    obtain rfl : ruleId = r.id := sameId
    rfl

/-! ## Sweeping -/

/-- The world after one more call of the store that changed nothing. -/
def World.called (world : World) : World :=
  { world with storeCalls := world.storeCalls + 1 }

namespace Workspace

variable (ws : Workspace)

/-- What comes of a purge. -/
def purgeStatus (world : World) : PurgeStatus :=
  match ws.config.artifactUrl with
  | none => .skipped
  | some url =>
    if ws.hasCache && world.purgeFails world.purges.length then
      .failed url (PurgeStatus.failureMessage url)
    else .purged url

/-- When no request to the cache fails, no purge does. -/
theorem isFailed_purgeStatus {world : World} (reliable : ∀ n, world.purgeFails n = false) :
    (ws.purgeStatus world).isFailed = false := by
  rw [purgeStatus]
  cases ws.config.artifactUrl with
  | none => rfl
  | some url =>
      simp only [reliable, Bool.and_false, Bool.false_eq_true, if_false]
      rfl

/-- The addresses that the cache is asked to drop in a purge, one at most. -/
def purgeRequests : List String :=
  if ws.hasCache then ws.config.artifactUrl.toList else []

theorem run_purge (world : World) :
    ws.purge.run world =
      (.ok (ws.purgeStatus world), { world with purges := world.purges ++ ws.purgeRequests }) := by
  unfold purge purgeStatus purgeRequests
  cases ws.config.artifactUrl with
  | none => simp [Action.run, pure]
  | some url =>
      cases ws.hasCache with
      | false => simp [Action.run, pure, bind, Action.andThen]
      | true =>
          cases fails : world.purgeFails world.purges.length <;>
            simp [Action.run, pure, bind, Action.andThen, Action.requestPurge, fails]

/-- Loading takes one call of the store. -/
theorem run_loadStored (world : World) : (ws.loadStored.run world).2 = world.called := by
  have read : ∀ key, ((Action.get? key).run world).2 = world.called := by
    intro key
    simp only [Action.run, Action.get?, Action.callStore]
    split <;> rfl
  rw [loadStored]
  cases got : ((Action.get? ws.rulesKey).run world).1 with
  | error failure => rw [Action.run_bind_error got, read]
  | ok text? =>
      rw [Action.run_bind_ok got, read]
      cases text? with
      | none => rfl
      | some text =>
          cases decoded : RuleBook.codec.readText text <;>
            simp [Action.run, bind, Action.andThen, decode, Action.ofExcept, decoded, Except.mapError,
              pure]

variable {ws} {keep : TransitionRecord → Bool} {now : Instant} {world : World}

theorem run_transitions_of_error {failure : Failure}
    (unread : (ws.loadStored.run world).1 = .error failure) :
    (ws.transitions now).run world = (.error failure, world.called) := by
  rw [transitions, Action.run_bind_error unread, run_loadStored]

theorem run_transitions_of_none (nothing : (ws.loadStored.run world).1 = .ok none) :
    (ws.transitions now).run world = (.ok none, world.called) := by
  rw [transitions, Action.run_bind_ok nothing, run_loadStored]
  rfl

theorem run_sweepOnly_of_error {failure : Failure}
    (unread : (ws.loadStored.run world).1 = .error failure) :
    (ws.sweepOnly keep now).run world = (.error failure, world.called) := by
  have failed : (ws.transitions now).run world = (.error failure, world.called) :=
    run_transitions_of_error unread
  rw [sweepOnly, Action.run_bind_error (congrArg Prod.fst failed), failed]

theorem run_sweepOnly_of_none (nothing : (ws.loadStored.run world).1 = .ok none) :
    (ws.sweepOnly keep now).run world = (.ok .noRules, world.called) := by
  have none : (ws.transitions now).run world = (.ok none, world.called) :=
    run_transitions_of_none nothing
  rw [sweepOnly, Action.run_bind_ok (congrArg Prod.fst none), none]
  rfl

section Book

variable {book : RuleBook} {window : Span} (loaded : (ws.loadStored.run world).1 = .ok (some book))
  (representable : ws.config.sweep.window? = some window)
include loaded representable

theorem run_transitions_of_book :
    (ws.transitions now).run world =
      (.ok (some (book.rules.length, book.found window now)), world.called) := by
  rw [transitions, Action.run_bind_ok loaded, run_loadStored]
  simp only [representable]
  rfl

theorem run_sweepOnly_of_idle (idle : (book.found window now).filter keep = []) :
    (ws.sweepOnly keep now).run world = (.ok (.noTransitions book.rules.length), world.called) := by
  have found : (ws.transitions now).run world = _ := run_transitions_of_book loaded representable
  rw [sweepOnly, Action.run_bind_ok (congrArg Prod.fst found), found]
  simp only [idle]
  rfl

theorem run_sweepOnly_of_due (due : (book.found window now).filter keep ≠ []) :
    (ws.sweepOnly keep now).run world =
      (.ok (.purgeTriggered ((book.found window now).filter keep) (ws.purgeStatus world)),
        { world.called with purges := world.purges ++ ws.purgeRequests }) := by
  have found : (ws.transitions now).run world = _ := run_transitions_of_book loaded representable
  have purged := ws.run_purge world.called
  rw [sweepOnly, Action.run_bind_ok (congrArg Prod.fst found), found]
  dsimp only
  split
  · contradiction
  · rw [Action.run_bind_ok (congrArg Prod.fst purged), purged]
    rfl

end Book

end Workspace

/-! ## What is remembered -/

namespace Scheduler

variable {s : Scheduler} {window : Span} {now : Instant} {crossing : Crossing}

@[simp] theorem workspace_forget : (s.forget window now).workspace = s.workspace :=
  rfl

@[simp] theorem workspace_remember (report : SweepReport) :
    (s.remember report).workspace = s.workspace := by
  cases report with
  | noRules => rfl
  | noTransitions checked => rfl
  | purgeTriggered found purge =>
      rw [remember]
      split <;> rfl

theorem mem_forget :
    crossing ∈ (s.forget window now).remembered ↔
      crossing ∈ s.remembered ∧ isWithin window now crossing.date = true :=
  List.mem_filter

theorem mem_insertCrossing {crossings : List Crossing} {new : Crossing} :
    crossing ∈ insertCrossing crossings new ↔ crossing ∈ crossings ∨ crossing = new := by
  rw [insertCrossing]
  split
  · rename_i listed
    exact ⟨.inl, fun known => known.elim id fun same => same ▸ listed⟩
  · rw [List.mem_append, List.mem_singleton]

theorem mem_foldl_insertCrossing {new known : List Crossing} :
    crossing ∈ new.foldl insertCrossing known ↔ crossing ∈ known ∨ crossing ∈ new := by
  induction new generalizing known with
  | nil => simp
  | cons first new ih => rw [List.foldl_cons, ih, mem_insertCrossing, List.mem_cons, or_assoc]

/-- A scheduler remembers what a sweep had the artifact purged for. -/
theorem mem_remember {report : SweepReport} :
    crossing ∈ (s.remember report).remembered ↔
      crossing ∈ s.remembered ∨ crossing ∈ report.purgedFor := by
  cases report with
  | noRules => simp [remember, SweepReport.purgedFor]
  | noTransitions checked => simp [remember, SweepReport.purgedFor]
  | purgeTriggered found purge =>
      rw [remember, SweepReport.purgedFor]
      split
      · simp
      · exact mem_foldl_insertCrossing

/-- The dates in a book that a scheduler does not remember. -/
def unseen (s : Scheduler) (book : RuleBook) (window : Span) (now : Instant) : List TransitionRecord :=
  (book.found window now).filter (!s.remembers ·)

theorem mem_unseen {book : RuleBook} :
    crossing ∈ (s.unseen book window now).map .ofRecord ↔
      crossing ∈ (book.found window now).map .ofRecord ∧ crossing ∉ s.remembered := by
  simp only [unseen, remembers, List.mem_map, List.mem_filter, Bool.not_eq_true',
    decide_eq_false_iff_not]
  constructor
  · rintro ⟨record, ⟨found, unknown⟩, rfl⟩
    exact ⟨⟨record, found, rfl⟩, unknown⟩
  · rintro ⟨⟨record, found, rfl⟩, unknown⟩
    exact ⟨record, ⟨found, unknown⟩, rfl⟩

/-! ## The courses of a tick -/

/-- What a tick can come to. -/
inductive Course (s : Scheduler) (now : Instant) (world : World) : Prop where
  /-- The window is longer than a span of time can be. -/
  | endless (endless : s.workspace.config.sweep.window? = none)
      (ticked : s.tick now world = (.error .endlessWindow, s, world))
  /-- The rules cannot be read. -/
  | unread (window : Span) (failure : Failure)
      (representable : s.workspace.config.sweep.window? = some window)
      (unread : (s.workspace.loadStored.run world).1 = .error failure)
      (ticked : s.tick now world = (.error failure, s.forget window now, world.called))
  /-- There are no rules. -/
  | nothing (window : Span) (representable : s.workspace.config.sweep.window? = some window)
      (nothing : (s.workspace.loadStored.run world).1 = .ok none)
      (ticked : s.tick now world = (.ok .noRules, s.forget window now, world.called))
  /-- No date within the window is left to purge for. -/
  | idle (window : Span) (book : RuleBook)
      (representable : s.workspace.config.sweep.window? = some window)
      (loaded : (s.workspace.loadStored.run world).1 = .ok (some book))
      (idle : (s.forget window now).unseen book window now = [])
      (ticked : s.tick now world =
        (.ok (.noTransitions book.rules.length), s.forget window now, world.called))
  /-- There are such dates, and a purge is requested. -/
  | due (window : Span) (book : RuleBook)
      (representable : s.workspace.config.sweep.window? = some window)
      (loaded : (s.workspace.loadStored.run world).1 = .ok (some book))
      (due : (s.forget window now).unseen book window now ≠ [])
      (ticked : s.tick now world =
        (.ok (.purgeTriggered ((s.forget window now).unseen book window now)
            (s.workspace.purgeStatus world)),
          (s.forget window now).remember (.purgeTriggered
            ((s.forget window now).unseen book window now) (s.workspace.purgeStatus world)),
          { world.called with purges := world.purges ++ s.workspace.purgeRequests }))

theorem tick_of_endless {world : World} (endless : s.workspace.config.sweep.window? = none) :
    s.tick now world = (.error .endlessWindow, s, world) := by
  simp only [tick, endless]

theorem tick_of_ok {world after : World} {report : SweepReport}
    (representable : s.workspace.config.sweep.window? = some window)
    (swept : (s.workspace.sweepOnly (!(s.forget window now).remembers ·) now).run world =
      (.ok report, after)) :
    s.tick now world = (.ok report, (s.forget window now).remember report, after) := by
  rw [Action.run] at swept
  simp only [tick, representable, workspace_forget, swept]

theorem tick_of_error {world after : World} {failure : Failure}
    (representable : s.workspace.config.sweep.window? = some window)
    (swept : (s.workspace.sweepOnly (!(s.forget window now).remembers ·) now).run world =
      (.error failure, after)) :
    s.tick now world = (.error failure, s.forget window now, after) := by
  rw [Action.run] at swept
  simp only [tick, representable, workspace_forget, swept]

/-- **Each tick takes one of the courses.** -/
theorem course (s : Scheduler) (now : Instant) (world : World) : s.Course now world := by
  cases representable : s.workspace.config.sweep.window? with
  | none => exact .endless representable (tick_of_endless representable)
  | some window =>
      cases loaded : (s.workspace.loadStored.run world).1 with
      | error failure =>
          exact .unread window failure representable loaded
            (tick_of_error representable (Workspace.run_sweepOnly_of_error loaded))
      | ok stored =>
          cases stored with
          | none =>
              exact .nothing window representable loaded
                (tick_of_ok representable (Workspace.run_sweepOnly_of_none loaded))
          | some book =>
              by_cases idle : (s.forget window now).unseen book window now = []
              · exact .idle window book representable loaded idle
                  (tick_of_ok representable
                    (Workspace.run_sweepOnly_of_idle loaded representable idle))
              · exact .due window book representable loaded idle
                  (tick_of_ok representable
                    (Workspace.run_sweepOnly_of_due loaded representable idle))

/-! ## What comes of a tick -/

variable {world : World}

theorem workspace_tick (s : Scheduler) (now : Instant) (world : World) :
    (s.tick now world).2.1.workspace = s.workspace := by
  cases s.course now world <;> rename_i ticked <;> simp [ticked]

/-- After a tick that has a window, all that is remembered lies within it: what was remembered before
and is still within, and what the tick had the artifact purged for. -/
theorem mem_remembered_tick (representable : s.workspace.config.sweep.window? = some window) :
    crossing ∈ (s.tick now world).2.1.remembered ↔
      (crossing ∈ s.remembered ∧ isWithin window now crossing.date = true) ∨
        ∃ report, (s.tick now world).1 = .ok report ∧ crossing ∈ report.purgedFor := by
  cases s.course now world with
  | endless endless ticked => cases representable.symm.trans endless
  | unread window' failure representable' unread ticked =>
      cases representable.symm.trans representable'
      simp [ticked, mem_forget]
  | nothing window' representable' nothing ticked =>
      cases representable.symm.trans representable'
      simp [ticked, mem_forget, SweepReport.purgedFor]
  | idle window' book representable' loaded idle ticked =>
      cases representable.symm.trans representable'
      simp [ticked, mem_forget, SweepReport.purgedFor]
  | due window' book representable' loaded due ticked =>
      cases representable.symm.trans representable'
      simp [ticked, mem_remember, mem_forget]

/-- The rules that a report is about, and what it says of them. -/
structure Reports (s : Scheduler) (now : Instant) (world : World) (report : SweepReport)
    (window : Span) (stored : Option RuleBook) : Prop where
  representable : s.workspace.config.sweep.window? = some window
  loaded : (s.workspace.loadStored.run world).1 = .ok stored
  crossings : ∀ crossing, crossing ∈ report.crossings ↔
    (∃ book ∈ stored, ∃ r ∈ book.rules, r.isActive = true ∧ crossing.IsOf r) ∧
      isWithin window now crossing.date = true ∧ crossing ∉ s.remembered
  noRules : report = .noRules ↔ stored = none
  noTransitions : (∃ checked, report = .noTransitions checked) ↔
    stored ≠ none ∧ ∀ crossing, crossing ∉ report.crossings

theorem mem_unseen_forget (s : Scheduler) (book : RuleBook) (window : Span) (now : Instant)
    (crossing : Crossing) :
    crossing ∈ ((s.forget window now).unseen book window now).map .ofRecord ↔
      (∃ r ∈ book.rules, r.isActive = true ∧ crossing.IsOf r) ∧
        isWithin window now crossing.date = true ∧ crossing ∉ s.remembered := by
  rw [mem_unseen, mem_crossings_found, mem_forget]
  tauto

/-- **A tick reports the crossings of active rules that lie within the window and are not
remembered.** -/
theorem reports_of_tick {report : SweepReport} (ok : (s.tick now world).1 = .ok report) :
    ∃ window stored, s.Reports now world report window stored := by
  cases s.course now world with
  | endless endless ticked => simp [ticked] at ok
  | unread window failure representable unread ticked => simp [ticked] at ok
  | nothing window representable nothing ticked =>
      obtain rfl : SweepReport.noRules = report := by simpa [ticked] using ok
      exact ⟨window, none, representable, nothing,
        by simp [SweepReport.crossings, SweepReport.transitions], by simp, by simp⟩
  | idle window book representable loaded idle ticked =>
      obtain rfl : SweepReport.noTransitions book.rules.length = report := by
        simpa [ticked] using ok
      refine ⟨window, some book, representable, loaded, fun crossing => ?_, by simp, ?_⟩
      · have none := s.mem_unseen_forget book window now crossing
        simpa [idle, SweepReport.crossings, SweepReport.transitions] using none
      · simp [SweepReport.crossings, SweepReport.transitions]
  | due window book representable loaded due ticked =>
      obtain rfl : SweepReport.purgeTriggered ((s.forget window now).unseen book window now)
          (s.workspace.purgeStatus world) = report := by
        simpa [ticked] using ok
      refine ⟨window, some book, representable, loaded, fun crossing => ?_, by simp, ?_⟩
      · simpa [SweepReport.crossings, SweepReport.transitions] using
          s.mem_unseen_forget book window now crossing
      · obtain ⟨record, listed⟩ := List.exists_mem_of_ne_nil _ due
        have found : Crossing.ofRecord record ∈ ((s.forget window now).unseen book window now).map
            Crossing.ofRecord := List.mem_map_of_mem listed
        simp only [reduceCtorEq, exists_false, false_iff, not_and, not_forall, not_not]
        exact fun _ => ⟨_, found⟩

/-- What is remembered after a tick lies within its window. -/
theorem isWithin_of_mem_remembered_tick (representable : s.workspace.config.sweep.window? = some window)
    (known : crossing ∈ (s.tick now world).2.1.remembered) :
    isWithin window now crossing.date = true := by
  rcases (mem_remembered_tick representable).1 known with ⟨-, within⟩ | ⟨report, ok, purged⟩
  · exact within
  · obtain ⟨window', stored, reports⟩ := reports_of_tick ok
    cases representable.symm.trans reports.representable
    exact ((reports.crossings crossing).1 (report.purgedFor_subset purged)).2.1

/-- A tick reports if it has a window and the rules can be read. -/
theorem exists_report_iff :
    (∃ report, (s.tick now world).1 = .ok report) ↔
      (∃ window, s.workspace.config.sweep.window? = some window) ∧
        ∃ stored, (s.workspace.loadStored.run world).1 = .ok stored := by
  cases s.course now world with
  | endless endless ticked => simp [ticked, endless]
  | unread window failure representable unread ticked => simp [ticked, unread]
  | nothing window representable nothing ticked => simp [ticked, representable, nothing]
  | idle window book representable loaded idle ticked => simp [ticked, representable, loaded]
  | due window book representable loaded due ticked => simp [ticked, representable, loaded]

end Scheduler

/-- What the cache is asked to drop in a sweep with this result. -/
def Workspace.requestsFor (ws : Workspace) : Except Failure SweepReport → List String
  | .ok (.purgeTriggered _ _) => ws.purgeRequests
  | .ok .noRules | .ok (.noTransitions _) | .error _ => []

namespace Workspace

variable {ws : Workspace} {result : Except Failure SweepReport}

theorem length_requestsFor_le (ws : Workspace) (result : Except Failure SweepReport) :
    (ws.requestsFor result).length ≤ 1 := by
  unfold requestsFor purgeRequests
  split
  · split
    · cases ws.config.artifactUrl <;> simp
    · exact Nat.zero_le 1
  all_goals exact Nat.zero_le 1

/-- The cache is asked if a purge is reported and there is an address to drop. -/
theorem length_requestsFor_eq_one (hasCache : ws.hasCache = true) :
    (ws.requestsFor result).length = 1 ↔
      (∃ found purge, result = .ok (.purgeTriggered found purge)) ∧ ws.config.artifactUrl ≠ none := by
  unfold requestsFor purgeRequests
  split
  · rw [if_pos hasCache]
    cases ws.config.artifactUrl <;> simp
  all_goals simp

end Workspace

/-- A sweep that lists nothing asks nothing. -/
theorem Scheduler.found_ne_nil {s : Scheduler} {now : Instant} {world : World}
    {found : List TransitionRecord} {purge : PurgeStatus}
    (ok : (s.tick now world).1 = .ok (.purgeTriggered found purge)) : found ≠ [] := by
  cases s.course now world with
  | endless endless ticked => simp [ticked] at ok
  | unread window failure representable unread ticked => simp [ticked] at ok
  | nothing window representable nothing ticked => simp [ticked] at ok
  | idle window book representable loaded idle ticked => simp [ticked] at ok
  | due window book representable loaded due ticked =>
      rw [ticked] at ok
      cases ok
      exact due

/-- A tick asks the cache only when it reports a purge, and says what came of it. -/
theorem Scheduler.purges_tick (s : Scheduler) (now : Instant) (world : World) :
    (s.tick now world).2.2.purges =
        world.purges ++ s.workspace.requestsFor (s.tick now world).1 ∧
      ∀ found purge, (s.tick now world).1 = .ok (.purgeTriggered found purge) →
        purge = s.workspace.purgeStatus world := by
  cases s.course now world with
  | endless endless ticked => simp [ticked, Workspace.requestsFor]
  | unread window failure representable unread ticked =>
      simp [ticked, Workspace.requestsFor, World.called]
  | nothing window representable nothing ticked =>
      simp [ticked, Workspace.requestsFor, World.called]
  | idle window book representable loaded idle ticked =>
      simp [ticked, Workspace.requestsFor, World.called]
  | due window book representable loaded due ticked =>
      simp [ticked, Workspace.requestsFor]

/-- When no request to the cache fails, the artifact is purged for all that a tick lists. -/
theorem Scheduler.purgedFor_of_tick {s : Scheduler} {now : Instant} {world : World}
    {report : SweepReport} (ok : (s.tick now world).1 = .ok report)
    (reliable : ∀ n, world.purgeFails n = false) : report.purgedFor = report.crossings := by
  refine SweepReport.purgedFor_eq fun found purge same => ?_
  rw [(s.purges_tick now world).2 found purge (same ▸ ok)]
  exact s.workspace.isFailed_purgeStatus reliable

end Exclusion
