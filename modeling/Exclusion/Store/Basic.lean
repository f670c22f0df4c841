/-
# Exclusion.Store.Basic -- texts under keys

A store gives each key at most one text.  The laws below are all that the rest of the library uses of
it: what is set is found, what is erased is gone, and keys with another text are not touched.
-/
import Exclusion.Store.Key

namespace Exclusion

set_option autoImplicit false

/-- Texts under the texts of keys, each of which occurs once at most. -/
structure Store where
  entries : List (String × String)
  deriving DecidableEq, Repr

namespace Store

def empty : Store := ⟨[]⟩

def size (store : Store) : Nat :=
  store.entries.length

def isEmpty (store : Store) : Bool :=
  store.entries.isEmpty

def get? (store : Store) (key : StoreKey) : Option String :=
  store.entries.lookup key.text

def contains (store : Store) (key : StoreKey) : Bool :=
  (store.get? key).isSome

def erase (store : Store) (key : StoreKey) : Store :=
  ⟨store.entries.filter (·.1 != key.text)⟩

/-- Whether there was something to be erased, and the store without it. -/
def delete (store : Store) (key : StoreKey) : Bool × Store :=
  (store.contains key, store.erase key)

/-- The store with a text under a key, instead of what was stored there. -/
def set (store : Store) (key : StoreKey) (value : String) : Store :=
  ⟨(key.text, value) :: (store.erase key).entries⟩

/-! ## Laws -/

/-- Taking away the entries of one name does not change what another name has. -/
theorem lookup_filter_ne {entries : List (String × String)} {a b : String} (h : a ≠ b) :
    (entries.filter (·.1 != b)).lookup a = entries.lookup a := by
  induction entries with
  | nil => rfl
  | cons e rest ih =>
    obtain ⟨k, v⟩ := e
    by_cases hk : k = b
    · subst hk
      have : (a == k) = false := by simp [h]
      simp [List.lookup_cons, this, ih]
    · by_cases ha : a = k
      · subst ha
        simp [hk]
      · have : (a == k) = false := by simp [ha]
        simp [hk, List.lookup_cons, this, ih]

/-- The entries of a name are gone when they are taken away. -/
theorem lookup_filter_self (entries : List (String × String)) (a : String) :
    (entries.filter (·.1 != a)).lookup a = none := by
  induction entries with
  | nil => rfl
  | cons e rest ih =>
    obtain ⟨k, v⟩ := e
    by_cases hk : k = a
    · subst hk
      simpa using ih
    · have : (a == k) = false := by simp [Ne.symm hk]
      simp [hk, List.lookup_cons, this, ih]

@[simp] theorem get?_empty (key : StoreKey) : empty.get? key = none :=
  rfl

@[simp] theorem get?_erase_self (store : Store) (key : StoreKey) :
    (store.erase key).get? key = none :=
  lookup_filter_self _ _

theorem get?_erase_of_ne {store : Store} {key other : StoreKey} (h : other.text ≠ key.text) :
    (store.erase key).get? other = store.get? other :=
  lookup_filter_ne h

@[simp] theorem get?_set_self (store : Store) (key : StoreKey) (value : String) :
    (store.set key value).get? key = some value := by
  simp [get?, set]

theorem get?_set_of_ne {store : Store} {key other : StoreKey} {value : String}
    (h : other.text ≠ key.text) : (store.set key value).get? other = store.get? other := by
  have : (other.text == key.text) = false := by simp [h]
  simp only [get?, set, List.lookup_cons, this]
  exact lookup_filter_ne h

end Store

end Exclusion
