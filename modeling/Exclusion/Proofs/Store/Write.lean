/-
# Exclusion.Proofs.Store.Write -- writes, one after the other

What an operation does to a store is a list of writes (`Store.writeAll`).  A key keeps its text if no
write is about it (`get?_writeAll_of_ne`).  `Store.Through` holds of a property that no write breaks,
so that it holds however many of the writes are made.  Every name occurs at most once in a store that
was only written to (`Store.Distinct`), so the number of its names is its size.

The keys of one namespace are apart: rules, audit log and snapshots have different kinds, and
snapshots have different ids (`StoreKey.text_inj`).
-/
import Exclusion.Store.Basic
import Mathlib.Tactic

namespace Exclusion

set_option autoImplicit false

/-! ## Keys of one namespace -/

namespace StoreKey

/-- In one namespace the texts of keys differ as the rest of them does. -/
theorem text_eq_iff {space : String} {k k' : KeyKind} {id id' : String} :
    text ⟨space, k, id⟩ = text ⟨space, k', id'⟩ ↔
      k.name.toList ++ ':' :: id.toList = k'.name.toList ++ ':' :: id'.toList := by
  rw [← String.toList_inj]
  simp [text]

variable {space : String} {environment environment' : Environment} {id id' : String}

theorem text_rules_ne_auditLog :
    (rules space environment).text ≠ (auditLog space environment').text := by
  intro same
  have heads := congrArg List.head? (text_eq_iff.1 same)
  simp [KeyKind.name] at heads

theorem text_snapshot_ne_rules : (snapshot space id).text ≠ (rules space environment).text := by
  intro same
  have heads := congrArg List.head? (text_eq_iff.1 same)
  simp [KeyKind.name] at heads

theorem text_snapshot_ne_auditLog : (snapshot space id).text ≠ (auditLog space environment).text := by
  intro same
  have heads := congrArg List.head? (text_eq_iff.1 same)
  simp [KeyKind.name] at heads

/-- Snapshots with different ids have different keys. -/
theorem text_snapshot_inj : (snapshot space id).text = (snapshot space id').text ↔ id = id' := by
  constructor
  · intro same
    have ids := List.append_cancel_left (text_eq_iff.1 same)
    exact String.toList_inj.1 (List.cons.inj ids).2
  · rintro rfl
    rfl

end StoreKey

/-! ## Writes -/

/-- A change to a store. -/
inductive Write where
  | set (key : StoreKey) (value : String)
  | erase (key : StoreKey)
  deriving DecidableEq, Repr

/-- The key that a write is about. -/
def Write.key : Write → StoreKey
  | set key _ => key
  | erase key => key

namespace Store

/-- The store after a write. -/
def write (store : Store) : Write → Store
  | .set key value => store.set key value
  | .erase key => store.erase key

/-- The store after writes, one after the other. -/
def writeAll (store : Store) (writes : List Write) : Store :=
  writes.foldl write store

variable {store : Store} {writes : List Write} {key : StoreKey}

@[simp] theorem writeAll_nil : store.writeAll [] = store :=
  rfl

@[simp] theorem writeAll_cons (w : Write) :
    store.writeAll (w :: writes) = (store.write w).writeAll writes :=
  rfl

theorem writeAll_append (first second : List Write) :
    store.writeAll (first ++ second) = (store.writeAll first).writeAll second :=
  List.foldl_append

/-- A store knows keys by their texts. -/
theorem get?_congr {other : StoreKey} (same : key.text = other.text) :
    store.get? key = store.get? other := by
  rw [get?, get?, same]

theorem get?_write_of_ne {w : Write} (other : key.text ≠ w.key.text) :
    (store.write w).get? key = store.get? key := by
  cases w with
  | set k value => exact get?_set_of_ne other
  | erase k => exact get?_erase_of_ne other

/-- A key keeps its text if no write is about it. -/
theorem get?_writeAll_of_ne (others : ∀ w ∈ writes, key.text ≠ w.key.text) :
    (store.writeAll writes).get? key = store.get? key := by
  induction writes generalizing store with
  | nil => rfl
  | cons w writes ih =>
      obtain ⟨other, others⟩ := List.forall_mem_cons.1 others
      rw [writeAll_cons, ih others, get?_write_of_ne other]

/-- A text that was written stays if no later write is about its key. -/
theorem get?_writeAll_set (first : List Write) (value : String)
    (others : ∀ w ∈ writes, key.text ≠ w.key.text) :
    (store.writeAll (first ++ .set key value :: writes)).get? key = some value := by
  rw [writeAll_append, writeAll_cons, get?_writeAll_of_ne others]
  exact get?_set_self _ key value

/-- A key has the text that is written under it, or the one that it had. -/
theorem get?_writeAll_or {text : String}
    (only : ∀ w ∈ writes, w = .set key text ∨ key.text ≠ w.key.text) :
    (store.writeAll writes).get? key = some text ∨
      (store.writeAll writes).get? key = store.get? key := by
  induction writes generalizing store with
  | nil => exact .inr rfl
  | cons w writes ih =>
      obtain ⟨first, others⟩ := List.forall_mem_cons.1 only
      rw [writeAll_cons]
      rcases @ih (store.write w) others with written | kept
      · exact .inl written
      · rw [kept]
        rcases first with rfl | other
        · exact .inl (get?_set_self store key text)
        · exact .inr (get?_write_of_ne other)

/-- The property holds before the writes, after each of them, and so after the first of them that are
made if not all are. -/
def Through (P : Store → Prop) (store : Store) (writes : List Write) : Prop :=
  ∀ made, made <+: writes → P (store.writeAll made)

theorem through_nil {P : Store → Prop} (holds : P store) : Through P store [] := by
  intro made before
  rw [List.prefix_nil.1 before]
  exact holds

theorem through_cons {P : Store → Prop} {w : Write} (holds : P store)
    (rest : Through P (store.write w) writes) : Through P store (w :: writes) := by
  intro made before
  rcases List.prefix_cons_iff.1 before with rfl | ⟨others, rfl, first⟩
  · exact holds
  · exact rest others first

/-! ## Names -/

/-- The names that the store has texts for. -/
def names (store : Store) : List String :=
  store.entries.map Prod.fst

/-- No name occurs twice. -/
def Distinct (store : Store) : Prop :=
  store.names.Nodup

theorem size_eq : store.size = store.names.length := by
  simp [size, names]

theorem distinct_empty : empty.Distinct :=
  List.nodup_nil

theorem names_erase (store : Store) (key : StoreKey) :
    (store.erase key).names = store.names.filter (· != key.text) := by
  simp only [names, erase, List.filter_map]
  rfl

theorem names_set (store : Store) (key : StoreKey) (value : String) :
    (store.set key value).names = key.text :: store.names.filter (· != key.text) := by
  rw [← names_erase]
  rfl

theorem Distinct.write (distinct : store.Distinct) (w : Write) : (store.write w).Distinct := by
  have kept : ∀ key : StoreKey, (store.names.filter (· != key.text)).Nodup :=
    fun key => List.Nodup.filter _ distinct
  cases w with
  | set key value =>
      rw [Distinct, Store.write, names_set, List.nodup_cons]
      refine ⟨?_, kept key⟩
      simp
  | erase key =>
      rw [Distinct, Store.write, names_erase]
      exact kept key

theorem Distinct.writeAll (distinct : store.Distinct) : (store.writeAll writes).Distinct := by
  induction writes generalizing store with
  | nil => exact distinct
  | cons w writes ih => exact ih (distinct.write w)

/-- Something is stored under a key exactly if its name is there. -/
theorem isSome_get? : (store.get? key).isSome = true ↔ key.text ∈ store.names := by
  obtain ⟨entries⟩ := store
  simp only [get?, names]
  induction entries with
  | nil => simp
  | cons entry entries ih =>
      obtain ⟨name, value⟩ := entry
      rw [List.lookup_cons, List.map_cons, List.mem_cons]
      by_cases same : key.text = name
      · simp [same]
      · rw [show (key.text == name) = false by simpa using same]
        simp only [same, false_or]
        exact ih

/-- A store whose names are all on a list has no more entries than the list. -/
theorem Distinct.size_le (distinct : store.Distinct) {names : List String}
    (listed : ∀ name ∈ store.names, name ∈ names) : store.size ≤ names.length := by
  rw [size_eq]
  exact (List.subperm_of_subset distinct listed).length_le

end Store

end Exclusion
