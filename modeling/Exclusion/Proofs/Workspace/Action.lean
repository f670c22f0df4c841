/-
# Exclusion.Proofs.Workspace.Action -- what an action would do to a store

`action.Takes store calls ends` says all that an action can do in a world with this store, whatever
calls of the store fail: it makes these calls, reads and writes, one after the other, and ends as `ends`
says, or one of them fails, and it ends as unreachable with the writes before that call made and no
others.  The law goes through sequences of actions (`Takes.bind`), so that one lemma for each call of
the store is enough.

Often only the writes matter.  `action.Follows store writes ends` leaves the reads out, and with them
which call it is that fails.  `action.Reads` says that there are no writes.
-/
import Exclusion.Proofs.Store.Write
import Exclusion.Workspace.World
import Mathlib.Data.List.ReduceOption

namespace Exclusion

set_option autoImplicit false

/-! ## Calls of the store -/

namespace World

/-- The store answers the next calls, as many as this. -/
def Answers (world : World) (n : Nat) : Prop :=
  ∀ m < n, world.storeFails (world.storeCalls + m) = false

/-- The world is as before but for calls of its store: so many were tried, and these were made, each of
them a read or a write. -/
structure Made (before after : World) (calls : List (Option Write)) (tried : Nat) : Prop where
  store : after.store = before.store.writeAll calls.reduceOption
  tried : after.storeCalls = before.storeCalls + tried
  fails : after.storeFails = before.storeFails

/-- The world is as before but for writes to its store. -/
structure Wrote (before after : World) (writes : List Write) : Prop where
  store : after.store = before.store.writeAll writes
  fails : after.storeFails = before.storeFails

variable {before between after : World} {calls more : List (Option Write)} {k m n : Nat}

theorem answers_zero : before.Answers 0 :=
  fun _ inside => absurd inside (Nat.not_lt_zero _)

theorem Answers.mono (answers : before.Answers n) (le : m ≤ n) : before.Answers m :=
  fun i inside => answers i (inside.trans_le le)

theorem Made.wrote (made : before.Made after calls n) : before.Wrote after calls.reduceOption :=
  ⟨made.store, made.fails⟩

theorem Made.trans (first : before.Made between calls m) (second : between.Made after more n) :
    before.Made after (calls ++ more) (m + n) where
  store := by
    rw [second.store, first.store, List.reduceOption_append, Store.writeAll_append]
  tried := by
    rw [second.tried, first.tried, Nat.add_assoc]
  fails := second.fails.trans first.fails

/-- A call that comes after others is counted from the first of them. -/
theorem Made.storeFails (first : before.Made between calls m) (n : Nat) :
    between.storeFails (between.storeCalls + n) = before.storeFails (before.storeCalls + (m + n)) := by
  rw [first.fails, first.tried, Nat.add_assoc]

theorem Made.answers (first : before.Made between calls m) (answered : before.Answers m)
    (answers : between.Answers n) : before.Answers (m + n) := by
  intro i inside
  by_cases early : i < m
  · exact answered i early
  · have later := answers (i - m) (by omega)
    rw [first.storeFails] at later
    rwa [Nat.add_sub_cancel' (Nat.le_of_not_lt early)] at later

end World

/-! ## The law -/

namespace Action

variable {α β : Type}

/-- The action makes these calls and ends so, or one of them fails, and it ends as unreachable after the
calls before that one. -/
def Takes (action : Action α) (store : Store) (calls : List (Option Write))
    (ends : Except Failure α → Prop) : Prop :=
  ∀ world : World, world.store = store →
    (world.Answers calls.length ∧ ends (action.run world).1 ∧
      world.Made (action.run world).2 calls calls.length) ∨
    ∃ n < calls.length, world.Answers n ∧ world.storeFails (world.storeCalls + n) = true ∧
      (action.run world).1 = .error (.error .unreachable) ∧
      world.Made (action.run world).2 (calls.take n) (n + 1)

variable {action first : Action α} {next : α → Action β} {store : Store}
  {calls more : List (Option Write)} {writes : List Write} {ends : Except Failure α → Prop}

theorem run_bind_ok {world : World} {a : α} (ok : (first.run world).1 = .ok a) :
    (first >>= next).run world = (next a).run (first.run world).2 := by
  show first.andThen next world = _
  simp only [andThen, run] at ok ⊢
  rw [show first world = (.ok a, (first world).2) from Prod.ext ok rfl]

theorem run_bind_error {world : World} {failure : Failure}
    (failed : (first.run world).1 = .error failure) :
    (first >>= next).run world = (.error failure, (first.run world).2) := by
  show first.andThen next world = _
  simp only [andThen, run] at failed ⊢
  rw [show first world = (.error failure, (first world).2) from Prod.ext failed rfl]

/-- The result of an action in another form; the world is the same. -/
theorem run_map (f : α → β) (action : Action α) (world : World) :
    (do return f (← action)).run world =
      ((action.run world).1.map f, (action.run world).2) := by
  cases result : (action.run world).1 with
  | ok a =>
      rw [run_bind_ok result]
      rfl
  | error failure =>
      rw [run_bind_error result]
      rfl

theorem Takes.imp {ends' : Except Failure α → Prop} (takes : action.Takes store calls ends)
    (weaker : ∀ result, ends result → ends' result) : action.Takes store calls ends' := by
  intro world same
  rcases takes world same with ⟨answers, ended, made⟩ | broken
  · exact .inl ⟨answers, weaker _ ended, made⟩
  · exact .inr broken

/-- Whatever calls of the store fail, an action ends as it is to or as unreachable. -/
theorem Takes.ends_or_unreachable {world : World} (takes : action.Takes world.store calls ends) :
    ends (action.run world).1 ∨ (action.run world).1 = .error (.error .unreachable) := by
  rcases takes world rfl with ⟨-, ended, -⟩ | ⟨n, -, -, -, broken, -⟩
  · exact .inl ended
  · exact .inr broken

/-- **One action after another takes the calls of both.** -/
theorem Takes.bind {a : α} {ends : Except Failure β → Prop}
    (begun : first.Takes store calls (· = .ok a))
    (continued : (next a).Takes (store.writeAll calls.reduceOption) more ends) :
    (first >>= next).Takes store (calls ++ more) ends := by
  intro world same
  rw [List.length_append]
  rcases begun world same with ⟨answered, ok, made⟩ | ⟨n, inside, answered, fails, broken, made⟩
  · have reached : (first.run world).2.store = store.writeAll calls.reduceOption := by
      rw [made.store, same]
    rw [run_bind_ok ok]
    rcases continued _ reached with ⟨answers, ended, rest⟩ | ⟨n, inside, answers, fails, broken, rest⟩
    · exact .inl ⟨made.answers answered answers, ended, made.trans rest⟩
    · refine .inr ⟨calls.length + n, Nat.add_lt_add_left inside _, made.answers answered answers,
        made.storeFails n ▸ fails, broken, ?_⟩
      rw [List.take_length_add_append]
      exact made.trans rest
  · rw [run_bind_error broken]
    refine .inr ⟨n, Nat.lt_add_right _ inside, answered, fails, rfl, ?_⟩
    rw [List.take_append_of_le_length inside.le]
    exact made

/-- After an action that fails, nothing else is done. -/
theorem Takes.bind_error {failure : Failure}
    (failed : first.Takes store calls (· = .error failure)) :
    (first >>= next).Takes store calls (· = .error failure) := by
  intro world same
  rcases failed world same with ⟨answers, error, made⟩ | ⟨n, inside, answers, fails, broken, made⟩
  · rw [run_bind_error error]
    exact .inl ⟨answers, rfl, made⟩
  · rw [run_bind_error broken]
    exact .inr ⟨n, inside, answers, fails, rfl, made⟩

/-- The result of an action, put into another form. -/
theorem Takes.map (f : α → β) (takes : action.Takes store calls ends) :
    (do return f (← action)).Takes store calls
      (fun result => ∃ inner, ends inner ∧ result = inner.map f) := by
  intro world same
  rw [run_map]
  rcases takes world same with ⟨answers, ended, made⟩ | ⟨n, inside, answers, fails, broken, made⟩
  · exact .inl ⟨answers, ⟨_, ended, rfl⟩, made⟩
  · exact .inr ⟨n, inside, answers, fails, by rw [broken]; rfl, made⟩

/-! ## Steps -/

/-- What leaves the world as it is takes no calls. -/
theorem takes_of_run_eq {result : Except Failure α}
    (still : ∀ world : World, action.run world = (result, world)) (store : Store) :
    action.Takes store [] (· = result) := by
  intro world _
  rw [still world]
  exact .inl ⟨World.answers_zero, rfl, rfl, rfl, rfl⟩

theorem takes_pure (a : α) (store : Store) : (pure a : Action α).Takes store [] (· = .ok a) :=
  takes_of_run_eq (fun _ => rfl) store

theorem takes_fail (failure : Failure) (store : Store) :
    (fail failure : Action α).Takes store [] (· = .error failure) :=
  takes_of_run_eq (fun _ => rfl) store

theorem takes_ofExcept {ε : Type} (failure : ε → Failure) (result : Except ε α) (store : Store) :
    (ofExcept failure result).Takes store [] (· = result.mapError failure) :=
  takes_of_run_eq (fun _ => rfl) store

/-- A call of the store is made unless it fails. -/
theorem takes_callStore {call : Store → α × Store} {w : Option Write}
    (writes : (call store).2 = store.writeAll w.toList) :
    (callStore call).Takes store [w] (· = .ok (call store).1) := by
  rintro world rfl
  simp only [run, callStore]
  cases fails : world.storeFails world.storeCalls with
  | true =>
      exact .inr ⟨0, Nat.one_pos, World.answers_zero, fails, rfl, rfl, rfl, rfl⟩
  | false =>
      refine .inl ⟨fun m inside => ?_, rfl, ?_, rfl, rfl⟩
      · rw [Nat.lt_one_iff.1 inside]
        exact fails
      · rw [List.reduceOption_singleton]
        exact writes

theorem takes_get? (key : StoreKey) (store : Store) :
    (get? key).Takes store [none] (· = .ok (store.get? key)) :=
  takes_callStore rfl

theorem takes_set (key : StoreKey) (value : String) (store : Store) :
    (set key value).Takes store [some (.set key value)] (· = .ok ()) :=
  takes_callStore rfl

theorem takes_erase (key : StoreKey) (store : Store) :
    (erase key).Takes store [some (.erase key)] (· = .ok ()) :=
  takes_callStore rfl

theorem takes_eraseAll (keys : List StoreKey) (store : Store) :
    (eraseAll keys).Takes store ((keys.map .erase).map some) (· = .ok ()) := by
  induction keys generalizing store with
  | nil => exact takes_pure () store
  | cons key keys ih => exact (takes_erase key store).bind (ih _)

/-- The calls that read one text and then make writes. -/
def readThen (writes : List Write) : List (Option Write) :=
  none :: writes.map some

@[simp] theorem reduceOption_readThen (writes : List Write) :
    (readThen writes).reduceOption = writes := by
  rw [readThen, List.reduceOption_cons_of_none, List.reduceOption, List.filterMap_map]
  exact List.filterMap_some

/-! ## Writes alone -/

/-- The action makes these writes and ends so, or some call of the store fails, and it ends as
unreachable after the first of the writes. -/
def Follows (action : Action α) (store : Store) (writes : List Write)
    (ends : Except Failure α → Prop) : Prop :=
  ∀ world : World, world.store = store →
    (ends (action.run world).1 ∧ world.Wrote (action.run world).2 writes) ∨
    ((∃ n, world.storeFails n = true) ∧ (action.run world).1 = .error (.error .unreachable) ∧
      ∃ made, made <+: writes ∧ world.Wrote (action.run world).2 made)

theorem Takes.follows (takes : action.Takes store calls ends) :
    action.Follows store calls.reduceOption ends := by
  intro world same
  rcases takes world same with ⟨-, ended, made⟩ | ⟨n, -, -, fails, broken, made⟩
  · exact .inl ⟨ended, made.wrote⟩
  · exact .inr ⟨⟨_, fails⟩, broken, _, (List.take_prefix n calls).reduceOption, made.wrote⟩

theorem Takes.follows_readThen {more : List Write}
    (takes : action.Takes store (readThen writes ++ readThen more) ends) :
    action.Follows store (writes ++ more) ends := by
  have follows := takes.follows
  rwa [List.reduceOption_append, reduceOption_readThen, reduceOption_readThen] at follows

theorem Follows.imp {ends' : Except Failure α → Prop} (follows : action.Follows store writes ends)
    (weaker : ∀ result, ends result → ends' result) : action.Follows store writes ends' := by
  intro world same
  rcases follows world same with ⟨ended, wrote⟩ | broken
  · exact .inl ⟨weaker _ ended, wrote⟩
  · exact .inr broken

theorem Follows.map (f : α → β) (follows : action.Follows store writes ends) :
    (do return f (← action)).Follows store writes
      (fun result => ∃ inner, ends inner ∧ result = inner.map f) := by
  intro world same
  rw [run_map]
  rcases follows world same with ⟨ended, wrote⟩ | ⟨fails, broken, made⟩
  · exact .inl ⟨⟨_, ended, rfl⟩, wrote⟩
  · exact .inr ⟨fails, by rw [broken]; rfl, made⟩

/-- In a world where no call fails, the action makes all of its writes. -/
theorem Follows.of_reliable (follows : action.Follows store writes ends) {world : World}
    (same : world.store = store) (reliable : ∀ n, world.storeFails n = false) :
    ends (action.run world).1 ∧ world.Wrote (action.run world).2 writes := by
  rcases follows world same with done | ⟨⟨n, fails⟩, -⟩
  · exact done
  · rw [reliable n] at fails
    cases fails

/-- An action that succeeds made all of its writes. -/
theorem Follows.of_ok (follows : action.Follows store writes ends) {world after : World}
    (same : world.store = store) {a : α} (ran : action.run world = (.ok a, after)) :
    ends (.ok a) ∧ world.Wrote after writes := by
  have alternatives := follows world same
  rw [ran] at alternatives
  rcases alternatives with done | ⟨-, failed, -⟩
  · exact done
  · cases failed

/-- Whatever becomes of the action, it made the first of its writes. -/
theorem Follows.made (follows : action.Follows store writes ends) {world : World}
    (same : world.store = store) :
    ∃ made, made <+: writes ∧ world.Wrote (action.run world).2 made := by
  rcases follows world same with ⟨-, wrote⟩ | ⟨-, -, made⟩
  · exact ⟨writes, List.prefix_rfl, wrote⟩
  · exact made

end Action

/-! ## Actions that write nothing -/

/-- The action writes nothing. -/
def Action.Reads {α : Type} (action : Action α) : Prop :=
  ∀ store, action.Follows store [] (fun _ => True)

namespace Action

variable {α β : Type}

theorem reads_of_follows {action : Action α} {ends : Store → Except Failure α → Prop}
    (follows : ∀ store, action.Follows store [] (ends store)) : action.Reads :=
  fun store => (follows store).imp fun _ _ => trivial

/-- An action that reads leaves the store as it is. -/
theorem Reads.wrote {action : Action α} (reads : action.Reads) (world : World) :
    world.Wrote (action.run world).2 [] := by
  obtain ⟨made, before, wrote⟩ := (reads world.store).made rfl
  rwa [List.prefix_nil.1 before] at wrote

theorem reads_of_wrote {action : Action α}
    (wrote : ∀ world : World, world.Wrote (action.run world).2 []) : action.Reads :=
  fun _ world _ => .inl ⟨trivial, wrote world⟩

theorem Reads.bind {first : Action α} {next : α → Action β} (reads : first.Reads)
    (others : ∀ a, (next a).Reads) : (first >>= next).Reads := by
  refine reads_of_wrote fun world => ?_
  have wrote := reads.wrote world
  cases result : (first.run world).1 with
  | error failure =>
      rw [run_bind_error result]
      exact wrote
  | ok a =>
      have rest := (others a).wrote (first.run world).2
      rw [run_bind_ok result]
      exact ⟨rest.store.trans wrote.store, rest.fails.trans wrote.fails⟩

theorem reads_pure (a : α) : (pure a : Action α).Reads :=
  reads_of_follows fun store => (takes_pure a store).follows

theorem reads_fail (failure : Failure) : (fail failure : Action α).Reads :=
  reads_of_follows fun store => (takes_fail failure store).follows

end Action

end Exclusion
