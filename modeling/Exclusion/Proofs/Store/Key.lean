/-
# Exclusion.Proofs.Store.Key -- which keys have an entry of their own

A store knows a key by its text, `namespace:kind:id`, in which no colon is escaped.  So two different
keys have one entry between them exactly if their texts are the same (`apart_iff`), and there are such
keys: `rules` of the namespace `a:rules` with the id `x` is `rules` of the namespace `a` with the id
`rules:x` (`colonId_meets_colonSpace`).

The namespace may be any text.  If the kind and the id have no colon, and a custom kind is not named
like one that exists, the last two colons of the text are where its parts meet, and the key can be
read back from it (`text_inj`).  All keys that the library itself makes are such plain keys, as far as
the ids of snapshots are (`isPlain_rules`, `isPlain_auditLog`, `isPlain_snapshot`).

In JSON a key is a record of its parts, and comes back whatever they are (`StoreKey.restores`).
-/
import Exclusion.Proofs.Json.Restore
import Exclusion.Proofs.Store.Write

namespace Exclusion

set_option autoImplicit false

open Exclusion.Json

/-! ## Texts of keys -/

namespace StoreKey

/-- A list is cut in one place only at its last separator. -/
theorem append_separator_inj {α : Type} {separator : α} {before before' after after' : List α}
    (last : separator ∉ after) (last' : separator ∉ after') :
    before ++ separator :: after = before' ++ separator :: after' ↔
      before = before' ∧ after = after' := by
  constructor
  · intro same
    -- One list starts with the other, and what it has more would put a separator after the last one.
    rcases List.append_eq_append_iff.1 same with ⟨more, longer, rest⟩ | ⟨more, longer, rest⟩
    · cases more with
      | nil => simpa [eq_comm] using And.intro longer rest
      | cons first more =>
          obtain ⟨-, rfl⟩ := List.cons.inj rest
          exact absurd (by simp) last
    · cases more with
      | nil => simpa [eq_comm] using And.intro longer rest
      | cons first more =>
          obtain ⟨-, rfl⟩ := List.cons.inj rest
          exact absurd (by simp) last'
  · rintro ⟨rfl, rfl⟩
    rfl

/-- The kinds that are not custom. -/
def builtIn : List KeyKind :=
  [.rules, .auditLog, .snapshot]

/-- A kind with no colon in its name that is not mistaken for another one. -/
def PlainKind (kind : KeyKind) : Prop :=
  ':' ∉ kind.name.toList ∧ (kind ∈ builtIn ∨ ∀ other ∈ builtIn, other.name ≠ kind.name)

/-- A key whose kind and id can be told from its text. -/
structure IsPlain (key : StoreKey) : Prop where
  kind : PlainKind key.kind
  id : ':' ∉ key.id.toList

instance (kind : KeyKind) : Decidable (PlainKind kind) :=
  inferInstanceAs (Decidable (_ ∧ _))

theorem plainKind_of_mem_builtIn {kind : KeyKind} (listed : kind ∈ builtIn) : PlainKind kind := by
  refine ⟨?_, .inl listed⟩
  revert kind
  decide

/-- Plain kinds are known by their names. -/
theorem plainKind_name_inj {kind kind' : KeyKind} (plain : PlainKind kind) (plain' : PlainKind kind')
    (same : kind.name = kind'.name) : kind = kind' := by
  have builtInNames : ∀ k ∈ builtIn, ∀ k' ∈ builtIn, k.name = k'.name → k = k' := by decide
  rcases plain.2, plain'.2 with ⟨listed | new, listed' | new'⟩
  · exact builtInNames kind listed kind' listed' same
  · exact absurd same (new' kind listed)
  · exact absurd same.symm (new kind' listed')
  · cases kind with
    | custom name =>
        cases kind' with
        | custom name' => exact congrArg KeyKind.custom same
        | _ => exact absurd rfl (new' _ (by decide))
    | _ => exact absurd rfl (new _ (by decide))

theorem toList_text (key : StoreKey) :
    key.text.toList =
      (key.space.toList ++ ':' :: key.kind.name.toList) ++ ':' :: key.id.toList := by
  simp [text]

variable {key other : StoreKey}

/-- Plain keys are known by their texts, whatever their namespaces are. -/
theorem text_inj (plain : key.IsPlain) (plain' : other.IsPlain) : key.text = other.text ↔ key = other := by
  constructor
  · intro same
    have texts := congrArg String.toList same
    rw [toList_text, toList_text, append_separator_inj plain.id plain'.id] at texts
    obtain ⟨heads, ids⟩ := texts
    rw [append_separator_inj plain.kind.1 plain'.kind.1] at heads
    obtain ⟨spaces, kinds⟩ := heads
    have kinds := plainKind_name_inj plain.kind plain'.kind (String.toList_inj.1 kinds)
    cases key
    cases other
    simp only [mk.injEq]
    exact ⟨String.toList_inj.1 spaces, kinds, String.toList_inj.1 ids⟩
  · rintro rfl
    rfl

theorem isPlain_rules (space : String) (environment : Environment) :
    (rules space environment).IsPlain where
  kind := plainKind_of_mem_builtIn (by simp [rules, builtIn])
  id := by
    show ':' ∉ environment.rulesId.toList
    cases environment <;> decide

theorem isPlain_auditLog (space : String) (environment : Environment) :
    (auditLog space environment).IsPlain where
  kind := plainKind_of_mem_builtIn (by simp [auditLog, builtIn])
  id := by
    show ':' ∉ environment.name.toList
    cases environment <;> decide

theorem isPlain_snapshot (space : String) {id : String} (plain : ':' ∉ id.toList) :
    (snapshot space id).IsPlain where
  kind := plainKind_of_mem_builtIn (by simp [snapshot, builtIn])
  id := plain

end StoreKey

/-! ## Keys in JSON -/

/-- A kind comes back, also one that says itself that it is custom. -/
theorem KeyKind.restores (kind : KeyKind) : KeyKind.codec.Restores 1 kind kind where
  integral := by
    cases kind with
    | custom name => exact ⟨trivial, trivial⟩
    | _ => trivial
  decode {source} allows := by
    cases kind with
    | custom name =>
        -- the object around the name takes one level, which a text has to allow
        cases source with
        | text left =>
            cases left with
            | zero => exact absurd allows (Nat.not_succ_le_zero 0)
            | succ left => rfl
        | value => rfl
        | setAside => rfl
    | _ => cases source <;> rfl

/-- **A key comes back.** -/
theorem StoreKey.restores (key : StoreKey) : StoreKey.codec.Restores 2 key key :=
  .record StoreKey.fields (key.space, key.kind, key.id, ()) (by decide)
    ⟨Field.restores_required (Codec.restores_string _), Field.restores_required key.kind.restores,
      Field.restores_required (Codec.restores_string _), trivial⟩

/-! ## Entries -/

namespace Store

/-- What is done under a key does not touch what is stored under another. -/
structure Apart (key other : StoreKey) : Prop where
  get?_set : ∀ (store : Store) (value : String), (store.set key value).get? other = store.get? other
  get?_delete : ∀ store : Store, (store.delete key).2.get? other = store.get? other
  /-- Whether there is something to delete is not changed by a text under the first key. -/
  delete_set : ∀ (store : Store) (value : String),
    ((store.set key value).delete other).1 = true ↔ (store.get? other).isSome = true

variable {key other : StoreKey}

theorem apart_of_text_ne (different : key.text ≠ other.text) : Apart key other where
  get?_set _ _ := get?_set_of_ne different.symm
  get?_delete _ := get?_erase_of_ne different.symm
  delete_set store value := by
    simp only [delete, contains]
    rw [get?_set_of_ne different.symm]

/-- Keys of one text show each other's texts. -/
theorem get?_set_of_text_eq (same : key.text = other.text) (store : Store) (value : String) :
    (store.set key value).get? other = some value :=
  (get?_congr same.symm).trans (get?_set_self store key value)

/-- Keys are apart exactly if their texts differ. -/
theorem apart_iff : Apart key other ↔ key.text ≠ other.text := by
  constructor
  · intro apart same
    have shown := apart.get?_set empty "text"
    rw [get?_set_of_text_eq same, get?_empty] at shown
    cases shown
  · exact apart_of_text_ne

/-- Different keys have entries of their own exactly if their texts differ, and these differ if the
keys are plain. -/
theorem different_keys_apart (different : key ≠ other) :
    (Apart key other ↔ key.text ≠ other.text) ∧
      (key.IsPlain → other.IsPlain → Apart key other) := by
  refine ⟨apart_iff, ?_⟩
  intro plain plain'
  refine apart_of_text_ne ?_
  intro same
  exact different ((StoreKey.text_inj plain plain').1 same)

/-- A key of the namespace `a` with a colon in its id. -/
def colonId : StoreKey :=
  ⟨"a", .rules, "rules:x"⟩

/-- A plain key of another namespace. -/
def colonSpace : StoreKey :=
  ⟨"a:rules", .rules, "x"⟩

theorem different_keys_apart_colonSpace :
    Apart (.rules "a:rules" .prod) colonSpace :=
  (different_keys_apart (by decide)).2 (StoreKey.isPlain_rules "a:rules" .prod)
    ⟨by decide, by decide⟩

/-- The two keys are different, and what is stored under one is found and deleted under the other. -/
theorem colonId_meets_colonSpace :
    colonId ≠ colonSpace ∧ ¬ Apart colonId colonSpace ∧
      (empty.set colonId "text").get? colonSpace = some "text" ∧
      ((empty.set colonId "text").delete colonSpace).1 = true ∧
      ((empty.set colonSpace "text").delete colonId).2.get? colonSpace = none := by
  refine ⟨by decide, ?_, by decide, by decide, by decide⟩
  rw [apart_iff]
  decide

end Store

end Exclusion
