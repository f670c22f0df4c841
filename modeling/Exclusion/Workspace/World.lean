/-
# Exclusion.Workspace.World -- what a workspace acts on

A world has a store and a cache that can be asked to drop what it holds.  Each call of the store and
each request to the cache may fail; which of them do is part of the world, by their number.  A call
that fails has no effect, but counts as a call.  An `Action` goes on until the first failure, and what
it did before stays done.
-/
import Exclusion.Audit.Log
import Exclusion.Rule.Validation
import Exclusion.Store.Basic

namespace Exclusion

set_option autoImplicit false

/-- A store and a cache, with the calls made so far. -/
structure World where
  store : Store := .empty
  storeCalls : Nat := 0
  /-- The calls of the store that fail. -/
  storeFails : Nat → Bool := fun _ => false
  /-- The addresses that the cache was asked to drop, in order, failed requests among them. -/
  purges : List String := []
  /-- The requests to the cache that fail. -/
  purgeFails : Nat → Bool := fun _ => false

/-- Why an action has no result. -/
inductive WorkspaceError where
  | invalid (issues : List Issue)
  | unreachable
  | audit (cause : AuditError)
  /-- What is stored is no rule book or no list of rules. -/
  | undecodable (cause : Json.DecodeError)
  | unknownRule (id : String)
  deriving DecidableEq, Repr

/-- How an action ends without a result. -/
inductive Failure where
  | error (cause : WorkspaceError)
  /-- It breaks off because the window is longer than a span of time can be. -/
  | endlessWindow
  deriving DecidableEq, Repr

/-- What is said when the store cannot be reached. -/
def unreachableMessage : String :=
  "state error: backend error: connection refused"

/-- What is said when no rule has an id. -/
def unknownRuleMessage (id : String) : String :=
  "rule not found: " ++ id

/-- What is said when the window is longer than a span of time can be. -/
def endlessWindowMessage : String :=
  "TimeDelta::seconds out of bounds"

/-- A step that looks at the world and changes it. -/
def Action (α : Type) : Type :=
  World → Except Failure α × World

namespace Action

variable {α β : Type}

/-- What an action gives in a world, and the world after it. -/
def run (action : Action α) (world : World) : Except Failure α × World :=
  action world

def andThen (first : Action α) (next : α → Action β) : Action β := fun world =>
  match first world with
  | (.ok a, world) => next a world
  | (.error failure, world) => (.error failure, world)

instance : Monad Action where
  pure a := fun world => (.ok a, world)
  bind := andThen

def fail (failure : Failure) : Action α := fun world =>
  (.error failure, world)

/-- A result that was reached without the world. -/
def ofExcept {ε : Type} (failure : ε → Failure) (result : Except ε α) : Action α := fun world =>
  (result.mapError failure, world)

/-! ## Calls of the store -/

/-- A call of the store, unless it fails. -/
def callStore (call : Store → α × Store) : Action α := fun world =>
  let called := { world with storeCalls := world.storeCalls + 1 }
  if world.storeFails world.storeCalls then (.error (.error .unreachable), called)
  else
    let (a, store) := call world.store
    (.ok a, { called with store })

def get? (key : StoreKey) : Action (Option String) :=
  callStore fun store => (store.get? key, store)

def set (key : StoreKey) (value : String) : Action Unit :=
  callStore fun store => ((), store.set key value)

def erase (key : StoreKey) : Action Unit :=
  callStore fun store => ((), store.erase key)

/-- Erases what is stored under keys, one after the other. -/
def eraseAll : List StoreKey → Action Unit
  | [] => pure ()
  | key :: rest => do
    erase key
    eraseAll rest

/-! ## Requests to the cache -/

/-- Asks the cache to drop what it has under an address; tells whether it does. -/
def requestPurge (url : String) : Action Bool := fun world =>
  (.ok (!world.purgeFails world.purges.length), { world with purges := world.purges ++ [url] })

end Action

end Exclusion
