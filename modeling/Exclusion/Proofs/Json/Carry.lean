/-
# Exclusion.Proofs.Json.Carry -- what is read by way of a value

A text may be read as a value of no particular type first, whose objects have their members sorted by
key (`Json.sorted`), and then as a value of a type.  `Codec.Carries levels a b` says that what is
written for `a` is restored as `b` in this way too.

As for `Codec.Restores`, one lemma for each kind of codec carries the law from the parts to the whole.
Sorting only puts the members of a record into another order, since no two of its fields have one name,
and a record takes its members in any order (`Fields.takeAll_perm`).
-/
import Exclusion.Proofs.Json.Origin
import Exclusion.Proofs.Json.Restore

namespace Exclusion.Json

set_option autoImplicit false

/-! ## Sorted values -/

mutual

/-- The value with the members of every object sorted by key. -/
def sorted : Json → Json
  | .array items => .array (sortedItems items)
  | .object members => .ofMembers (sortedMembers members)
  | v => v

def sortedItems : List Json → List Json
  | [] => []
  | v :: rest => sorted v :: sortedItems rest

def sortedMembers : List (String × Json) → List (String × Json)
  | [] => []
  | (k, v) :: rest => (k, sorted v) :: sortedMembers rest

end

/-- The names of members, in their order. -/
def keys (members : List (String × Json)) : List String :=
  members.map Prod.fst

theorem keys_sortedMembers (members : List (String × Json)) :
    keys (sortedMembers members) = keys members := by
  induction members with
  | nil => rfl
  | cons m members ih =>
      obtain ⟨k, v⟩ := m
      exact congrArg (k :: ·) ih

/-- A member with a new name is only added. -/
theorem insertMember_perm {k : String} {members : List (String × Json)} (fresh : k ∉ keys members)
    (v : Json) : (insertMember k v members).Perm ((k, v) :: members) := by
  induction members with
  | nil => exact .refl _
  | cons m members ih =>
      obtain ⟨k', v'⟩ := m
      have different : k ≠ k' := List.ne_of_not_mem_cons fresh
      have fresh : k ∉ keys members := List.not_mem_of_not_mem_cons fresh
      rw [insertMember]
      split
      · exact .refl _
      · exact ((ih fresh).cons _).trans (.swap ..)

theorem foldl_insertMember_perm {sorted members : List (String × Json)}
    (distinct : (keys (sorted ++ members)).Nodup) :
    (members.foldl (fun sorted (k, v) => insertMember k v sorted) sorted).Perm
      (sorted ++ members) := by
  induction members generalizing sorted with
  | nil => simp
  | cons m members ih =>
      obtain ⟨k, v⟩ := m
      have moved : (sorted ++ (k, v) :: members).Perm ((k, v) :: sorted ++ members) :=
        List.perm_middle
      have apart : (keys ((k, v) :: sorted ++ members)).Nodup := (moved.map _).nodup_iff.1 distinct
      have fresh : k ∉ keys sorted := by
        intro listed
        refine (List.nodup_cons.1 apart).1 ?_
        show k ∈ keys (sorted ++ members)
        rw [keys, List.map_append]
        exact List.mem_append_left _ listed
      have inserted := (insertMember_perm fresh v).append_right members
      rw [List.foldl_cons]
      refine (ih ?_).trans (inserted.trans moved.symm)
      exact (inserted.map _).nodup_iff.2 apart

/-- Sorting members with different names puts them into another order. -/
theorem sortMembers_perm {members : List (String × Json)} (distinct : (keys members).Nodup) :
    (sortMembers members).Perm members :=
  foldl_insertMember_perm distinct

/-- The value has no parts. -/
def IsAtom : Json → Prop
  | .array _ | .object _ => False
  | _ => True

theorem sorted_of_isAtom {v : Json} (atom : v.IsAtom) : v.sorted = v := by
  cases v with
  | array items => cases atom
  | object members => cases atom
  | _ => rw [sorted] <;> simp

theorem toJson_of_isAtom {v : Json} (atom : v.IsAtom) (source : Source) :
    v.toNode.toJson source = .ok v := by
  cases v with
  | array items => cases atom
  | object members => cases atom
  | _ => rfl

/-! ## The law -/

variable {σ α : Type}

/-- What is written for `a` is read as `b`, also by way of a value. -/
structure Codec.Carries (codec : Codec α) (levels : Nat) (a b : α) : Prop
    extends codec.Restores levels a b where
  toJson : ∀ {source : Source}, source.Allows levels →
    (codec.encode a).toNode.toJson source = .ok (codec.encode a).sorted
  carried : codec.decode .value (codec.encode a).sorted.toNode = .ok b

namespace Codec.Carries

variable {codec : Codec α} {levels : Nat} {a b : α}

theorem mono {m : Nat} (carries : codec.Carries levels a b) (le : levels ≤ m) :
    codec.Carries m a b where
  toRestores := carries.toRestores.mono le
  toJson allows := carries.toJson (allows.mono le)
  carried := carries.carried

/-- **The text of a value is read as a value, and this is read back.** -/
theorem readValue (carries : codec.Carries maxLevels a b) :
    Codec.json.readText (codec.text a) = .ok (codec.encode a).sorted ∧
      codec.readValue (codec.encode a).sorted = .ok b := by
  have asValue : Codec.json.Restores maxLevels (codec.encode a) (codec.encode a).sorted :=
    ⟨carries.integral, carries.toJson⟩
  exact ⟨asValue.readText_text, carries.carried⟩

/-- What is written without parts is the same value again. -/
theorem of_isAtom (restores : codec.Restores levels a b) (atom : (codec.encode a).IsAtom) :
    codec.Carries levels a b where
  toRestores := restores
  toJson {source} _ := by rw [sorted_of_isAtom atom, toJson_of_isAtom atom source]
  carried := by
    rw [sorted_of_isAtom atom]
    exact restores.decode trivial

theorem option (carries : codec.Carries levels a b) (present : codec.encode a ≠ .null) :
    codec.option.Carries levels (some a) (some b) where
  toRestores := carries.toRestores.option present
  toJson := carries.toJson
  carried := by
    have decoded := carries.carried
    show codec.option.decode .value (codec.encode a).sorted.toNode = _
    have shown : ∀ node, node ≠ .null → codec.decode .value node = .ok b →
        codec.option.decode .value node = .ok (some b) := by
      intro node other read
      cases node <;> simp_all [Codec.option, Except.map]
    refine shown _ ?_ decoded
    cases written : codec.encode a <;> simp_all [sorted, toNode, ofMembers]

/-- A list is carried item by item. -/
theorem list {as bs : List α} (items : List.Forall₂ (codec.Carries levels) as bs) :
    codec.list.Carries (levels + 1) as bs where
  toRestores := .list (items.imp fun _ _ carries => carries.toRestores)
  toJson {source} allows := by
    obtain ⟨inner, entered, innerAllows⟩ := allows.enter
    have values : Node.toJsons inner (toNodes (as.map codec.encode)) =
        .ok (sortedItems (as.map codec.encode)) := by
      induction items with
      | nil => rfl
      | cons carries _ ih =>
          simp only [List.map_cons, toNodes, Node.toJsons, carries.toJson innerAllows, ih, bind,
            Except.bind]
          rfl
    show Node.toJson source (.array (toNodes (as.map codec.encode)) .closed) = _
    simp only [Node.toJson, entered, values, Node.finish, bind, Except.bind]
    rfl
  carried := by
    have decoded : codec.decodeItems .value (toNodes (sortedItems (as.map codec.encode))) =
        .ok bs := by
      induction items with
      | nil => rfl
      | cons carries _ ih =>
          simp only [List.map_cons, sortedItems, toNodes, Codec.decodeItems, carries.carried, ih, bind,
            Except.bind]
          rfl
    show codec.list.decode .value (.array (toNodes (sortedItems (as.map codec.encode))) .closed) = _
    simp only [Codec.list, Source.enter, decoded, Node.finish, bind, Except.bind]
    rfl

end Codec.Carries

theorem Codec.carries_string {levels : Nat} (s : String) : Codec.string.Carries levels s s :=
  .of_isAtom (Codec.restores_string s) trivial

theorem Codec.carries_bool {levels : Nat} (b : Bool) : Codec.bool.Carries levels b b :=
  .of_isAtom (Codec.restores_bool b) trivial

/-! ## Records -/

/-- A field is carried: what is hidden has its value when it is absent, the rest is read back. -/
def Field.Carries (field : Field σ α) (levels : Nat) (s : σ) (b : α) : Prop :=
  if field.hidden (field.get s) then field.absent = some b
  else field.codec.Carries levels (field.get s) b

namespace Field

variable {levels : Nat} {s : σ} {name : String} {codec : Codec α}

theorem Carries.restores {field : Field σ α} {b : α} (carries : field.Carries levels s b) :
    field.Restores levels s b := by
  unfold Carries at carries
  unfold Restores
  split
  · rename_i hidden
    rwa [if_pos hidden] at carries
  · rename_i shown
    rw [if_neg shown] at carries
    exact carries.toRestores

theorem carries_required {get : σ → α} {b : α} (carries : codec.Carries levels (get s) b) :
    (Field.required name get codec).Carries levels s b :=
  carries

theorem carries_default {get : σ → α} {absent b : α} (carries : codec.Carries levels (get s) b) :
    (Field.default name get codec absent).Carries levels s b :=
  carries

/-- A field that may be absent is carried, absent or not. -/
theorem carries_optional {get : σ → Option α} {f : α → α}
    (carries : ∀ a ∈ get s, codec.Carries levels a (f a) ∧ codec.encode a ≠ .null) :
    (Field.optional name get codec).Carries levels s ((get s).map f) := by
  unfold Field.Carries Field.optional
  simp only
  cases h : get s with
  | none => rfl
  | some a =>
      obtain ⟨carried, present⟩ := carries a h
      exact carried.option present

end Field

namespace Fields

/-- Every field is carried, to the values of the row. -/
def Carry (levels : Nat) (s : σ) : {ts : List Type} → Fields σ ts → Row ts → Prop
  | _, .nil, _ => True
  | _, .cons field rest, (b, row) => field.Carries levels s b ∧ rest.Carry levels s row

variable {levels : Nat} {s : σ} {ts : List Type} {fields : Fields σ ts} {row : Row ts}

theorem Carry.restore (carry : fields.Carry levels s row) : fields.Restore levels s row := by
  induction fields with
  | nil => trivial
  | cons field rest ih =>
      obtain ⟨b, row⟩ := row
      obtain ⟨carries, carry⟩ := carry
      exact ⟨carries.restores, ih carry⟩

/-- The written members have names of fields, in their order. -/
theorem keys_members_sublist (fields : Fields σ ts) (s : σ) :
    (keys (fields.members s)).Sublist fields.names := by
  induction fields with
  | nil => exact .refl _
  | cons field rest ih =>
      simp only [members, names]
      split
      · exact ih.cons _
      · exact ih.cons_cons _

theorem toJsonMembers_members {source : Source} (allows : source.Allows levels)
    (carry : fields.Carry levels s row) :
    Node.toJsonMembers source (toMembers (fields.members s)) =
      .ok (sortedMembers (fields.members s)) := by
  induction fields with
  | nil => rfl
  | cons field rest ih =>
      obtain ⟨b, row⟩ := row
      obtain ⟨carries, carry⟩ := carry
      unfold Field.Carries at carries
      simp only [members]
      split
      · exact ih carry
      · rename_i shown
        rw [if_neg shown] at carries
        simp only [toMembers, Node.toJsonMembers, carries.toJson allows, ih carry, bind, Except.bind]
        rfl

theorem takeAll_append {source : Source} {first second : List (String × Json)} {slots : Slots ts} :
    fields.takeAll source (toMembers (first ++ second)) slots =
      (fields.takeAll source (toMembers first) slots).bind
        (fields.takeAll source (toMembers second)) := by
  induction first generalizing slots with
  | nil => rfl
  | cons m first ih =>
      obtain ⟨k, v⟩ := m
      simp only [List.cons_append, toMembers, takeAll, bind, Except.bind]
      cases fields.take source k v.toNode slots with
      | error e => rfl
      | ok slots => exact ih

/-- A member with a name that no other has goes to the field of that name, the rest to the others. -/
theorem takeAll_cons_of_once {source : Source} {field : Field σ α} {rest : Fields σ ts}
    {before after : List (String × Json)} {v : Json} {a : α}
    (others : ∀ m ∈ before ++ after, field.name ≠ m.1)
    (decoded : field.codec.decode source v.toNode = .ok a) (slots : Slots ts) :
    (Fields.cons field rest).takeAll source (toMembers (before ++ (field.name, v) :: after))
        (none, slots) =
      (rest.takeAll source (toMembers (before ++ after)) slots).map fun slots => (some a, slots) := by
  refine takeAll_append.trans ?_
  rw [takeAll_append, takeAll_cons_of_ne fun m listed => others m (List.mem_append_left _ listed)]
  cases rest.takeAll source (toMembers before) slots with
  | error e => rfl
  | ok between =>
      simp only [Except.map, Except.bind, toMembers, takeAll, take_own decoded, bind]
      exact takeAll_cons_of_ne (fun m listed => others m (List.mem_append_right _ listed)) between

/-- **A record takes its members in any order.** -/
theorem takeAll_perm (distinct : fields.names.Nodup) (carry : fields.Carry levels s row)
    {ms : List (String × Json)} (perm : ms.Perm (sortedMembers (fields.members s))) :
    fields.takeAll .value (toMembers ms) fields.blank = .ok (fields.slots s row) := by
  induction fields generalizing ms with
  | nil =>
      rw [List.perm_nil.1 perm]
      rfl
  | cons field rest ih =>
      obtain ⟨b, row⟩ := row
      obtain ⟨fresh, distinct⟩ := List.nodup_cons.1 distinct
      obtain ⟨carries, carry⟩ := carry
      -- no member of the other fields has the name of this one, in whatever order they come
      have others : ∀ {ms : List (String × Json)}, ms.Perm (sortedMembers (rest.members s)) →
          ∀ m ∈ ms, field.name ≠ m.1 := by
        intro ms perm m listed same
        have named : m.1 ∈ keys (rest.members s) := by
          rw [← keys_sortedMembers]
          exact List.mem_map_of_mem (perm.mem_iff.1 listed)
        exact fresh (same ▸ (keys_members_sublist rest s).subset named)
      unfold Field.Carries at carries
      simp only [members] at perm
      simp only [blank, slots]
      split at perm
      · rename_i hidden
        rw [takeAll_cons_of_ne (others perm), ih distinct carry perm, if_pos hidden]
        rfl
      · rename_i shown
        rw [if_neg shown] at carries ⊢
        -- the members before and after the one of this field belong to the others
        obtain ⟨before, after, rfl⟩ := List.append_of_mem (perm.mem_iff.2 List.mem_cons_self)
        have left : (before ++ after).Perm (sortedMembers (rest.members s)) :=
          (List.perm_cons _).1 (List.perm_middle.symm.trans perm)
        rw [takeAll_cons_of_once (others left) carries.carried, ih distinct carry left]
        rfl

end Fields

/-- **A record is carried field by field.** -/
theorem Codec.Carries.record {ts : List Type} {owner : String} (fields : Fields σ ts)
    {make : Row ts → σ} {levels : Nat} {s : σ} (row : Row ts) (distinct : fields.names.Nodup)
    (carry : fields.Carry levels s row) :
    (Codec.record owner fields make).Carries (levels + 1) s (make row) where
  toRestores := .record fields row distinct carry.restore
  toJson {source} allows := by
    obtain ⟨inner, entered, innerAllows⟩ := allows.enter
    show Node.toJson source (.object (toMembers (fields.members s)) .closed) = _
    simp only [Node.toJson, entered, Fields.toJsonMembers_members innerAllows carry, Node.finish, bind,
      Except.bind]
    rfl
  carried := by
    have apart : (keys (sortedMembers (fields.members s))).Nodup := by
      rw [keys_sortedMembers]
      exact (Fields.keys_members_sublist fields s).nodup distinct
    have taken := Fields.takeAll_perm distinct carry (sortMembers_perm apart)
    show (Codec.record owner fields make).decode .value
      (.object (toMembers (sortMembers (sortedMembers (fields.members s)))) .closed) = _
    simp only [Codec.record, Source.enter, taken, Fields.complete_slots carry.restore, Node.finish, bind,
      Except.bind]
    rfl

end Exclusion.Json
