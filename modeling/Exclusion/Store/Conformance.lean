/-
# Exclusion.Store.Conformance -- what a store has to do, tried out

`Store.conforms` runs a store through the uses that the rest of the library makes of one: what is
missing, set, set again and erased, and keys that differ only in kind, namespace or environment.
-/
import Exclusion.Store.Basic

namespace Exclusion.Store

set_option autoImplicit false

def trialKey (kind : KeyKind) (id : String) : StoreKey :=
  ⟨"test-ns", kind, id⟩

/-- A key that was never set has nothing. -/
def missingIsAbsent (store : Store) : Bool :=
  store.get? (trialKey .rules "missing") == none

def setIsFound (store : Store) : Bool :=
  let key := trialKey .rules "set-get"
  (store.set key "value").get? key == some "value"

def lastSetIsFound (store : Store) : Bool :=
  let key := trialKey .auditLog "overwrite"
  ((store.set key "v1").set key "v2").get? key == some "v2"

/-- What is erased is gone, and is not there to be erased again. -/
def erasedIsGone (store : Store) : Bool :=
  let key := trialKey .snapshot "to-delete"
  let (existed, after) := (store.set key "bye").delete key
  existed && after.get? key == none && !(after.delete key).1

/-- Keys that differ only in kind have texts of their own. -/
def kindsAreApart (store : Store) : Bool :=
  let rules := trialKey .rules "shared-id"
  let audit := trialKey .auditLog "shared-id"
  let after := (store.set rules "rules").set audit "audit"
  after.get? rules == some "rules" && after.get? audit == some "audit"

/-- Keys that differ only in namespace or environment have texts of their own. -/
def spacesAreApart (store : Store) : Bool :=
  let after := store.set (.rules "ns-a" .prod) "a"
  after.get? (.rules "ns-b" .prod) == none && after.get? (.rules "ns-a" .dev) == none

def longTextIsKept (store : Store) : Bool :=
  let key := trialKey .snapshot "large"
  let length := 256 * 1024
  (((store.set key (.ofList (.replicate length 'x'))).get? key).map (·.length)) == some length

/-- The store does all of this. -/
def conforms (store : Store) : Bool :=
  store.missingIsAbsent && store.setIsFound && store.lastSetIsFound && store.erasedIsGone &&
    store.kindsAreApart && store.spacesAreApart && store.longTextIsKept

end Exclusion.Store
