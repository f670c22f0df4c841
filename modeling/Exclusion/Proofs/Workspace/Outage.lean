/-
# Exclusion.Proofs.Workspace.Outage -- what is stored when calls of the store fail

Any call of the store may fail, and then an operation stops half way.  Still, after every run on a
store that was empty at first, the stored log can be read, has no more entries than there is room for,
and names only snapshots that are there and are texts of rules that may be stored; and the stored rule
book, if there is one, is the text of such rules, with a script that was compiled from such rules or none
(`stored_data_is_sound`).

`SoundWith` is what every single write preserves: a snapshot with a new id is about no entry; a log is
stored when the snapshot of its new entry is there; and a snapshot is erased when no entry names it any
more.  This is why the order of the writes matters and their number does not.

What these texts are read as may be stored again if no date was in a leap second.  Dates in leap seconds
come back in the next second, where the end of a rule may come before its start
(`unsound_after_leap_second`).  No rule that was read from a text has one (`Rule.isWholeMilli_of_makes`),
and no stamp that a clock gives.
-/
import Exclusion.Proofs.Workspace.Recording
import Exclusion.Proofs.Workspace.Script

namespace Exclusion

set_option autoImplicit false

open Exclusion.Json

/-- The rules may be stored, and the script is empty or was compiled from rules that may be stored.  If
the run is plain, no date is in a leap second. -/
structure RuleBook.IsSound (plain : Prop) (book : RuleBook) : Prop where
  rules : isValidRuleSet book.rules = true
  script : Script.IsSound book.script
  dates : plain → ∀ r ∈ book.rules, r.AvoidsLeapSeconds

/-- What a sound book is read as may be stored again, if the run is plain. -/
theorem RuleBook.IsSound.readText {plain : Prop} {book : RuleBook} (isSound : book.IsSound plain)
    (holds : plain) :
    ∃ read, RuleBook.codec.readText (RuleBook.codec.text book) = .ok read ∧
      isValidRuleSet read.rules = true ∧ read.script = book.script :=
  ⟨_, RuleBook.readText_text (isSound.dates holds), isValidRuleSet_floorMilli isSound.rules, rfl⟩

namespace Workspace

variable (ws : Workspace) (plain : Prop)

/-! ## What is sound -/

/-- The snapshot with this id is there, and it is the text of rules that may be stored.  If the run is
plain, none of them has a date in a leap second. -/
def Vouched (store : Store) (id : String) : Prop :=
  ∃ rules, store.get? (ws.snapshotKey id) = some (Rule.listCodec.text rules) ∧
    isValidRuleSet rules = true ∧ (plain → ∀ r ∈ rules, r.AvoidsLeapSeconds)

/-- The entries in a store: none if there is no log. -/
def Logs (store : Store) (entries : List AuditEntry) : Prop :=
  (store.get? ws.auditKey = none ∧ entries = []) ∨
    ∃ text, store.get? ws.auditKey = some text ∧
      AuditLog.entriesCodec.readText text = .ok entries

/-- The store has these entries, whose snapshots have these ids, and all that it has is sound.  Only
ids that were used are among them. -/
structure SoundWith (used : List String) (store : Store) (entries : List AuditEntry)
    (ids : List String) : Prop where
  logs : ws.Logs store entries
  room : entries.length ≤ ws.config.audit.maxEntries
  whole : AuditLog.AreWholeMilli entries
  named : entries.map (·.snapshotId) = ids.map some
  distinct : ids.Nodup
  used : ∀ id ∈ ids, id ∈ used
  vouched : ∀ id ∈ ids, ws.Vouched plain store id
  book : ∀ text, store.get? ws.rulesKey = some text →
    ∃ book, text = RuleBook.codec.text book ∧ book.IsSound plain

/-- All that the store has is sound. -/
def Sound (used : List String) (store : Store) : Prop :=
  ∃ entries ids, ws.SoundWith plain used store entries ids

theorem soundWith_empty : ws.SoundWith plain [] .empty [] [] where
  logs := .inl ⟨rfl, rfl⟩
  room := Nat.zero_le _
  whole := List.forall_mem_nil _
  named := rfl
  distinct := List.nodup_nil
  used := List.forall_mem_nil _
  vouched := List.forall_mem_nil _
  book text stored := by cases stored

variable {ws plain} {used ids : List String} {store : Store} {entries : List AuditEntry} {id : String}

theorem SoundWith.mono (sound : ws.SoundWith plain used store entries ids) (more : List String) :
    ws.SoundWith plain (used ++ more) store entries ids :=
  { sound with used := fun id member => List.mem_append_left more (sound.used id member) }

/-! ## What is read -/

/-- The log that is read has the stored entries for which there is room. -/
theorem Logs.logIn (logs : ws.Logs store entries) : ws.logIn store =
    .ok ⟨entries.take ws.config.audit.maxEntries, ws.config.audit.maxEntries⟩ := by
  rcases logs with ⟨absent, rfl⟩ | ⟨text, stored, read⟩
  · rw [ws.logIn_of_none absent, List.take_nil]
  · rw [Workspace.logIn, stored, auditLogOf, AuditLog.ofText, AuditLog.ofCapacity,
      if_neg ws.maxEntries_ne_zero, read]
    rfl

/-- The log that is read has the stored entries. -/
theorem SoundWith.logIn (sound : ws.SoundWith plain used store entries ids) :
    ws.logIn store = .ok ⟨entries, ws.config.audit.maxEntries⟩ := by
  rw [sound.logs.logIn, List.take_of_length_le sound.room]

theorem SoundWith.holdsSoundScript (sound : ws.SoundWith plain used store entries ids) :
    ws.HoldsSoundScript store := by
  intro text stored
  obtain ⟨book, same, isSound⟩ := sound.book text stored
  exact ⟨book, same, isSound.script⟩

/-! ## Single writes -/

theorem Vouched.of_same {other : Store}
    (same : other.get? (ws.snapshotKey id) = store.get? (ws.snapshotKey id))
    (vouched : ws.Vouched plain store id) : ws.Vouched plain other id := by
  rw [Vouched, same]
  exact vouched

/-- Rules that may be stored are found in their snapshot. -/
theorem vouched_set {rules : List Rule} (valid : isValidRuleSet rules = true)
    (avoid : plain → ∀ r ∈ rules, r.AvoidsLeapSeconds) (store : Store) (id : String) :
    ws.Vouched plain (store.set (ws.snapshotKey id) (Rule.listCodec.text rules)) id :=
  ⟨rules, Store.get?_set_self _ _ _, valid, avoid⟩

/-- A snapshot that no entry names may be stored or erased. -/
theorem SoundWith.writeSnapshot (sound : ws.SoundWith plain used store entries ids) {w : Write}
    (about : w.key = ws.snapshotKey id) (unnamed : id ∉ ids) :
    ws.SoundWith plain used (store.write w) entries ids := by
  have log : (store.write w).get? ws.auditKey = store.get? ws.auditKey :=
    Store.get?_write_of_ne (about ▸ ws.auditKey_ne_snapshotKey id)
  have rules : (store.write w).get? ws.rulesKey = store.get? ws.rulesKey :=
    Store.get?_write_of_ne (about ▸ ws.rulesKey_ne_snapshotKey id)
  exact {
    logs := by
      rw [Logs, log]
      exact sound.logs
    room := sound.room
    whole := sound.whole
    named := sound.named
    distinct := sound.distinct
    used := sound.used
    vouched := by
      intro other member
      have apart : (ws.snapshotKey other).text ≠ w.key.text := by
        rw [about]
        exact fun same => unnamed (ws.snapshotKey_inj.1 same ▸ member)
      exact (sound.vouched other member).of_same (Store.get?_write_of_ne apart)
    book := by
      rw [rules]
      exact sound.book }

/-- A sound book may be stored. -/
theorem SoundWith.setBook (sound : ws.SoundWith plain used store entries ids) (book : RuleBook)
    (isSound : book.IsSound plain) :
    ws.SoundWith plain used (store.set ws.rulesKey (RuleBook.codec.text book)) entries ids where
  logs := by
    rw [Logs, Store.get?_set_of_ne ws.auditKey_ne_rulesKey]
    exact sound.logs
  room := sound.room
  whole := sound.whole
  named := sound.named
  distinct := sound.distinct
  used := sound.used
  vouched id member :=
    (sound.vouched id member).of_same (Store.get?_set_of_ne (ws.rulesKey_ne_snapshotKey id).symm)
  book text stored := by
    rw [Store.get?_set_self] at stored
    cases stored
    exact ⟨book, rfl, isSound⟩

/-- The ids that entries name, those of the first of them likewise. -/
theorem filterMap_snapshotId {entries : List AuditEntry} {ids : List String}
    (named : entries.map (·.snapshotId) = ids.map some) :
    entries.filterMap (·.snapshotId) = ids := by
  induction entries generalizing ids with
  | nil => exact (List.map_eq_nil_iff.1 named.symm).symm
  | cons e entries ih =>
      cases ids with
      | nil => cases named
      | cons id ids =>
          obtain ⟨first, others⟩ := List.cons.inj named
          rw [List.filterMap_cons_some first, ih others]

/-- An entry may be recorded whose snapshot is there under a new id. -/
theorem SoundWith.setLog (sound : ws.SoundWith plain used store entries ids) {entry : AuditEntry}
    (named : entry.snapshotId = some id) (timely : entry.recordedAt.isLeap = false)
    (vouched : ws.Vouched plain store id) (isUsed : id ∈ used) (fresh : id ∉ ids) :
    ws.SoundWith plain used
      (store.set ws.auditKey ((AuditLog.mk entries ws.config.audit.maxEntries).record entry).1.text)
      (((entry :: entries).take ws.config.audit.maxEntries).map AuditEntry.floorMilli)
      ((id :: ids).take ws.config.audit.maxEntries) := by
  have plains : ∀ e ∈ (entry :: entries).take ws.config.audit.maxEntries,
      e.recordedAt.isLeap = false := by
    intro e member
    rcases List.mem_cons.1 (List.mem_of_mem_take member) with rfl | old
    · exact timely
    · exact Instant.isLeap_of_isWholeMilli (sound.whole e old)
  exact {
    logs := .inr ⟨_, Store.get?_set_self _ _ _, AuditLog.readText_entries plains⟩
    room := by
      rw [List.length_map]
      exact List.length_take_le _ _
    whole := by
      intro e member
      obtain ⟨before, listed, rfl⟩ := List.mem_map.1 member
      exact Instant.isWholeMilli_floorMilli (plains before listed)
    named := by
      have all : (entry :: entries).map (·.snapshotId) = (id :: ids).map some := by
        rw [List.map_cons, List.map_cons, named, sound.named]
      rw [List.map_map, List.map_take, List.map_take, ← all]
      rfl
    distinct :=
      List.Nodup.sublist (List.take_sublist _ _) (List.nodup_cons.2 ⟨fresh, sound.distinct⟩)
    used := by
      intro other member
      rcases List.mem_cons.1 (List.mem_of_mem_take member) with rfl | old
      · exact isUsed
      · exact sound.used other old
    vouched := by
      intro other member
      refine Vouched.of_same (Store.get?_set_of_ne (ws.auditKey_ne_snapshotKey other).symm) ?_
      rcases List.mem_cons.1 (List.mem_of_mem_take member) with rfl | old
      · exact vouched
      · exact sound.vouched other old
    book := by
      rw [Store.get?_set_of_ne ws.auditKey_ne_rulesKey.symm]
      exact sound.book }

/-! ## Sequences of writes -/

/-- Snapshots that no entry names may be erased, all or some of them. -/
theorem SoundWith.through_erase (sound : ws.SoundWith plain used store entries ids)
    {evicted : List String} (unnamed : ∀ id ∈ evicted, id ∉ ids) :
    Store.Through (ws.Sound plain used) store ((evicted.map ws.snapshotKey).map .erase) := by
  induction evicted generalizing store with
  | nil => exact Store.through_nil ⟨entries, ids, sound⟩
  | cons id evicted ih =>
      obtain ⟨first, others⟩ := List.forall_mem_cons.1 unnamed
      exact Store.through_cons ⟨entries, ids, sound⟩ (ih (sound.writeSnapshot rfl first) others)

/-- **However many writes of a recording are made, what is stored is sound.** -/
theorem SoundWith.through_record (sound : ws.SoundWith plain used store entries ids) {entry : AuditEntry}
    (named : entry.snapshotId = some id) (timely : entry.recordedAt.isLeap = false)
    (vouched : ws.Vouched plain store id) (isUsed : id ∈ used) (fresh : id ∉ ids) :
    Store.Through (ws.Sound plain used) store
      (ws.recordWrites ⟨entries, ws.config.audit.maxEntries⟩ entry) := by
  have recorded := sound.setLog named timely vouched isUsed fresh
  have evicted : evictedIds ⟨entries, ws.config.audit.maxEntries⟩ entry =
      (id :: ids).drop ws.config.audit.maxEntries := by
    refine filterMap_snapshotId ?_
    rw [AuditLog.record, List.map_drop, List.map_drop, List.map_cons, List.map_cons, named,
      sound.named]
  refine Store.through_cons ⟨entries, ids, sound⟩ (recorded.through_erase ?_)
  intro other gone kept
  have whole := List.nodup_cons.2 ⟨fresh, sound.distinct⟩
  rw [← List.take_append_drop ws.config.audit.maxEntries (id :: ids), List.nodup_append] at whole
  rw [evictedIds] at evicted
  rw [evicted] at gone
  exact whole.2.2 other kept other gone rfl

/-- However many writes of an edit are made, what is stored is sound. -/
theorem SoundWith.through_edit (sound : ws.SoundWith plain used store entries ids) {stamp : Stamp}
    {user : String} {old : RuleBook} {rules : List Rule} (script : Script.IsSound old.script)
    (valid : isValidRuleSet rules = true) (avoid : plain → ∀ r ∈ rules, r.AvoidsLeapSeconds)
    (timely : stamp.recordedAt.isLeap = false) (isUsed : stamp.snapshotId ∈ used)
    (fresh : stamp.snapshotId ∉ ids) :
    Store.Through (ws.Sound plain used) store (ws.storeWrites stamp old rules ++
      ws.recordWrites ⟨entries, ws.config.audit.maxEntries⟩
        (editEntry stamp user old.rules rules)) := by
  have shot := sound.writeSnapshot
    (w := .set (ws.snapshotKey stamp.snapshotId) (Rule.listCodec.text rules)) rfl fresh
  have stored := shot.setBook { old with rules } ⟨valid, script, avoid⟩
  have vouched : ws.Vouched plain (store.writeAll (ws.storeWrites stamp old rules)) stamp.snapshotId :=
    (vouched_set valid avoid store stamp.snapshotId).of_same
      (Store.get?_set_of_ne (ws.rulesKey_ne_snapshotKey stamp.snapshotId).symm)
  exact Store.through_cons ⟨entries, ids, sound⟩ (Store.through_cons ⟨entries, ids, shot⟩
    (stored.through_record rfl timely vouched isUsed fresh))

/-- However many writes of a publication are made, what is stored is sound. -/
theorem SoundWith.through_publish (sound : ws.SoundWith plain used store entries ids) {stamp : Stamp}
    {user : String} {book : RuleBook} (valid : isValidRuleSet book.rules = true)
    (avoid : plain → ∀ r ∈ book.rules, r.AvoidsLeapSeconds) (timely : stamp.recordedAt.isLeap = false)
    (isUsed : stamp.snapshotId ∈ used) (fresh : stamp.snapshotId ∉ ids) :
    Store.Through (ws.Sound plain used) store (ws.scriptWrites stamp book ++
      ws.recordWrites ⟨entries, ws.config.audit.maxEntries⟩ (ws.publishEntry stamp user book)) := by
  have stored := sound.setBook
    { book with script := (Script.compile book.rules stamp.compiledAt).source }
    ⟨valid, .inr ⟨book.rules, stamp.compiledAt, valid, rfl⟩, avoid⟩
  have shot := stored.writeSnapshot
    (w := .set (ws.snapshotKey stamp.snapshotId) (Rule.listCodec.text book.rules)) rfl fresh
  have vouched : ws.Vouched plain (store.writeAll (ws.scriptWrites stamp book)) stamp.snapshotId :=
    vouched_set valid avoid _ stamp.snapshotId
  exact Store.through_cons ⟨entries, ids, sound⟩ (Store.through_cons ⟨entries, ids, stored⟩
    (shot.through_record rfl timely vouched isUsed fresh))

/-! ## Runs -/

/-- **Every call preserves that what is stored is sound**, whatever calls of the store fail. -/
theorem Sound.step {session : Session} (sound : ws.Sound plain used session.world.store) {call : Call}
    (avoid : plain → ∀ r ∈ call.rules, r.AvoidsLeapSeconds) (timely : call.IsTimely)
    (fresh : ∀ stamp ∈ call.stamp?, stamp.snapshotId ∉ used) :
    ws.Sound plain (used ++ Call.snapshotIds [call]) (ws.step session call).world.store := by
  obtain ⟨entries, ids, sound⟩ := sound
  have more := sound.mono (Call.snapshotIds [call])
  have unnamed : ∀ stamp ∈ call.stamp?, stamp.snapshotId ∉ ids :=
    fun stamp given named => fresh stamp given (sound.used _ named)
  rw [world_step]
  cases follows_perform sound.logIn call with
  | quiet follows =>
      obtain ⟨made, before, wrote⟩ := follows.made rfl
      rw [wrote.store]
      exact Store.through_nil ⟨entries, ids, more⟩ made before
  | edited stamp user edit old rules same loaded applied valid follows =>
      subst same
      obtain ⟨made, before, wrote⟩ := follows.made rfl
      have old_avoid : ∀ r ∈ old.rules, r.AvoidsLeapSeconds :=
        fun r member => (ws.isWholeMilli_of_bookIn loaded r member).avoidsLeapSeconds
      have isUsed : stamp.snapshotId ∈ used ++ Call.snapshotIds [.edit stamp user edit] :=
        List.mem_append_right used (List.mem_singleton.2 rfl)
      rw [wrote.store]
      exact more.through_edit (sound.holdsSoundScript.bookIn loaded) valid
        (fun holds => Edit.avoidsLeapSeconds_of_apply applied old_avoid (avoid holds))
        (timely stamp rfl) isUsed (unnamed stamp rfl) made before
  | published stamp user book same loaded valid follows =>
      subst same
      obtain ⟨made, before, wrote⟩ := follows.made rfl
      have book_avoid : ∀ r ∈ book.rules, r.AvoidsLeapSeconds :=
        fun r member => (ws.isWholeMilli_of_bookIn loaded r member).avoidsLeapSeconds
      have isUsed : stamp.snapshotId ∈ used ++ Call.snapshotIds [.publish stamp user] :=
        List.mem_append_right used (List.mem_singleton.2 rfl)
      rw [wrote.store]
      exact more.through_publish valid (fun _ => book_avoid) (timely stamp rfl) isUsed
        (unnamed stamp rfl) made before

/-- **No dangling references and no invalid data, whatever calls of the store fail.**  After every run,
and so after every call of a run, a log that is stored can be read and has no more entries than there is
room for.  Each of them names a snapshot that is there and is the text of rules that may be stored, and
the rule book that is stored, if there is one, is the text of a sound one.  If no call brought a date in
a leap second, what these texts are read as may be stored too. -/
theorem stored_data_is_sound (ws : Workspace) {world : World} (empty : world.store = .empty)
    {calls : List Call} (distinct : (Call.snapshotIds calls).Nodup)
    (timely : ∀ call ∈ calls, call.IsTimely) :
    (∀ text, (ws.play world calls).world.store.get? ws.auditKey = some text →
      ∃ entries, AuditLog.entriesCodec.readText text = .ok entries ∧
        entries.length ≤ ws.config.audit.maxEntries ∧
        ∀ e ∈ entries, ∃ id snapshot rules, e.snapshotId = some id ∧
          (ws.play world calls).world.store.get? (ws.snapshotKey id) = some snapshot ∧
          snapshot = Rule.listCodec.text rules ∧ isValidRuleSet rules = true ∧
          ((∀ call ∈ calls, ∀ r ∈ call.rules, r.AvoidsLeapSeconds) →
            ∃ read, Rule.listCodec.readText snapshot = .ok read ∧ isValidRuleSet read = true)) ∧
    (∀ text, (ws.play world calls).world.store.get? ws.rulesKey = some text →
      ∃ book, text = RuleBook.codec.text book ∧ isValidRuleSet book.rules = true ∧
        (book.script = "" ∨ ∃ rules generatedAt, isValidRuleSet rules = true ∧
          book.script = (Script.compile rules generatedAt).source) ∧
        ((∀ call ∈ calls, ∀ r ∈ call.rules, r.AvoidsLeapSeconds) →
          ∃ read, RuleBook.codec.readText text = .ok read ∧ isValidRuleSet read.rules = true ∧
            read.script = book.script)) := by
  have start : ws.Sound (∀ call ∈ calls, ∀ r ∈ call.rules, r.AvoidsLeapSeconds) [] world.store := by
    rw [empty]
    exact ⟨[], [], ws.soundWith_empty _⟩
  obtain ⟨entries, ids, sound⟩ := play_of_step
    (fun call => call ∈ calls ∧ call.IsTimely)
    (fun used session => ws.Sound _ used session.world.store)
    (fun sound fit fresh => sound.step (fun avoid => avoid _ fit.1) fit.2 fresh)
    (fun call member => ⟨member, timely call member⟩) start distinct
  constructor
  · intro text stored
    rcases sound.logs with ⟨absent, -⟩ | ⟨text', stored', read⟩
    · cases absent.symm.trans stored
    · cases stored'.symm.trans stored
      refine ⟨entries, read, sound.room, fun e member => ?_⟩
      have named : e.snapshotId ∈ ids.map some := sound.named ▸ List.mem_map_of_mem member
      obtain ⟨id, listed, same⟩ := List.mem_map.1 named
      obtain ⟨rules, kept, valid, avoid⟩ := sound.vouched id listed
      exact ⟨id, _, rules, same.symm, kept, rfl, valid, fun plain =>
        ⟨_, Rule.readText_list (avoid plain), isValidRuleSet_floorMilli valid⟩⟩
  · intro text stored
    obtain ⟨book, rfl, isSound⟩ := sound.book text stored
    exact ⟨book, rfl, isSound.rules, isSound.script, isSound.readText⟩

/-- The calls about the banner when every fifth call of the store fails. -/
theorem stored_data_is_sound_bannerCalls :
    (∀ text, (usual.play { storeFails := (· % 5 == 4) } bannerCalls).world.store.get?
        usual.auditKey = some text →
      ∃ entries, AuditLog.entriesCodec.readText text = .ok entries ∧ entries.length ≤ 30 ∧
        ∀ e ∈ entries, ∃ id snapshot rules, e.snapshotId = some id ∧
          (usual.play { storeFails := (· % 5 == 4) } bannerCalls).world.store.get?
            (usual.snapshotKey id) = some snapshot ∧
          Rule.listCodec.readText snapshot = .ok rules ∧ isValidRuleSet rules = true) ∧
    (∀ text, (usual.play { storeFails := (· % 5 == 4) } bannerCalls).world.store.get?
        usual.rulesKey = some text →
      ∃ book, RuleBook.codec.readText text = .ok book ∧ isValidRuleSet book.rules = true ∧
        (book.script = "" ∨ ∃ rules generatedAt, isValidRuleSet rules = true ∧
          book.script = (Script.compile rules generatedAt).source)) := by
  have avoid : ∀ call ∈ bannerCalls, ∀ r ∈ call.rules, r.AvoidsLeapSeconds := by decide
  obtain ⟨log, book⟩ := @stored_data_is_sound usual { storeFails := (· % 5 == 4) } rfl bannerCalls
    (by decide) (by decide)
  constructor
  · intro text stored
    obtain ⟨entries, read, room, named⟩ := log text stored
    refine ⟨entries, read, room, fun e member => ?_⟩
    obtain ⟨id, snapshot, rules, same, kept, -, -, found⟩ := named e member
    obtain ⟨rules, read, valid⟩ := found avoid
    exact ⟨id, snapshot, rules, same, kept, read, valid⟩
  · intro text stored
    obtain ⟨written, -, -, script, found⟩ := book text stored
    obtain ⟨book, read, valid, same⟩ := found avoid
    exact ⟨book, read, valid, same ▸ script⟩

/-- The banner is hidden for less than a second, from within a leap second on. -/
def hideBannerBriefly : Rule :=
  { hideBanner with
    startsAt := some ⟨59, 1600000000, by decide, by decide, by decide⟩
    endsAt := some ⟨60, 400000000, by decide, by decide, by decide⟩ }

/-- With a date in a leap second it is not so that the stored rules may be stored: the rule comes back
with a start a fifth of a second after its end. -/
theorem unsound_after_leap_second :
    ¬ ∀ (ws : Workspace) (world : World) (calls : List Call), world.store = .empty →
      (Call.snapshotIds calls).Nodup → (∀ call ∈ calls, call.IsTimely) →
      ∀ text, (ws.play world calls).world.store.get? ws.rulesKey = some text →
        ∃ book, RuleBook.codec.readText text = .ok book ∧ isValidRuleSet book.rules = true := by
  intro always
  have applied : (Edit.put hideBannerBriefly).apply [] = .ok [hideBannerBriefly] := rfl
  have empty : ({} : World).store = .empty := rfl
  have stored := usual.get?_rulesKey_play_edit empty (fun _ => rfl) ⟨"s1", "e1", .epoch, .epoch⟩ "ann"
    applied (by decide)
  obtain ⟨book, read, valid⟩ := always usual {} _ empty (by decide) (by decide) _ stored
  cases read.symm.trans (RuleBook.readText_stored (by decide))
  revert valid
  decide

end Workspace

end Exclusion
