/-
# Exclusion.Proofs.CommandLine.Stored -- what is stored is read again, by whoever reads it

A rule book has two readers.  A workspace reads the text that it finds in its store; the commands read
the text of a file as a value first, and then as a rule book.  Both make the same of the text of a rule
book (`RuleBook.readAs_stored`), and it is the rule book itself if its dates are whole milliseconds.

All else that has a text comes back as well: rules, entries and logs, published rules, pages and keys
(`stored_data_comes_back`).  A log needs room for its entries, and for one at least: where no entries are
to be kept, even an empty log is not read (`empty_log_needs_room`).
-/
import Exclusion.Proofs.Audit.Wire
import Exclusion.Proofs.CommandLine.Diff
import Exclusion.Proofs.Page.Wire
import Exclusion.Proofs.Store.Key
import Exclusion.Proofs.Workspace.Call

namespace Exclusion

set_option autoImplicit false

open Exclusion.Json

/-! ## The two readers -/

/-- Both readers of rule books make this one of the text. -/
structure RuleBook.ReadAs (text : String) (book : RuleBook) : Prop where
  load : ∀ (ws : Workspace) (world : World), world.store.get? ws.rulesKey = some text →
    world.Answers 1 → (ws.load.run world).1 = .ok book
  readBook : ∀ (files : String → Except CommandLine.FileError String) (path : String),
    files path = .ok text → (CommandLine.readBook path).given files = .ok book

/-- What is in a store is loaded if the store answers. -/
theorem Workspace.run_load (ws : Workspace) {world : World} {book : RuleBook}
    (inStore : ws.bookIn world.store = .ok book) (answers : world.Answers 1) :
    (ws.load.run world).1 = .ok book := by
  rcases ws.takes_load world.store world rfl with ⟨-, loaded, -⟩ | ⟨n, inside, -, fails, -⟩
  · rw [loaded, inStore]
  · have answered := answers n inside
    rw [fails] at answered
    cases answered

/-- The commands read the text of a file as a value, and the value as a rule book. -/
theorem CommandLine.readBook_of_readValue {files : String → Except FileError String}
    {path text : String} {v : Json} {book : RuleBook} (found : files path = .ok text)
    (asValue : Codec.json.readText text = .ok v) (asBook : RuleBook.ofJson v = .ok book) :
    (readBook path).given files = .ok book := by
  have read : (Task.read path (.unreadable path)).given files = .ok text := by
    show (files path).mapError _ = _
    rw [found]
    rfl
  have parsed : (Task.ofExcept (fun _ => .unparsable path) (Codec.json.readText text)).given files =
      .ok v := by
    show (Codec.json.readText text).mapError _ = _
    rw [asValue]
    rfl
  rw [readBook, Task.given_bind read, bookOf, Task.given_bind parsed]
  show (RuleBook.ofJson v).mapError _ = _
  rw [asBook]
  rfl

/-- **The two readers agree on every rule book that can be read at all.** -/
theorem RuleBook.readAs_stored {book : RuleBook} (storable : ∀ r ∈ book.rules, r.IsStorable) :
    ReadAs (RuleBook.codec.text book)
      { book with rules := book.rules.map (Rule.mapDates Instant.stored) } where
  load ws world stored answers := by
    refine ws.run_load ?_ answers
    rw [Workspace.bookIn, ws.readIn_rulesKey_of_isStorable stored storable]
    rfl
  readBook files path found := by
    obtain ⟨asValue, asBook⟩ := (RuleBook.carries_stored storable).readValue
    exact CommandLine.readBook_of_readValue found asValue asBook

theorem Rule.map_stored {rules : List Rule} (whole : ∀ r ∈ rules, r.IsWholeMilli) :
    rules.map (Rule.mapDates Instant.stored) = rules := by
  have same : ∀ r ∈ rules, r.mapDates Instant.stored = r.floorMilli := by
    intro r listed
    have plain := (whole r listed).avoidsLeapSeconds
    have date : ∀ t ∈ r.instants, t.stored = t.floorMilli := by
      intro t member
      rw [Instant.stored, Instant.ofMillis?_of_plain (plain t member), Option.getD_some]
    obtain ⟨created, starts, ends⟩ := forall_instants_iff.1 date
    rw [mapDates, floorMilli, created, Option.map_congr starts, Option.map_congr ends]
  rw [List.map_congr_left same]
  exact map_floorMilli whole

theorem RuleBook.readAs_text {book : RuleBook} (whole : ∀ r ∈ book.rules, r.IsWholeMilli) :
    ReadAs (RuleBook.codec.text book) book := by
  have readers := readAs_stored fun r listed => (whole r listed).avoidsLeapSeconds.isStorable
  rwa [Rule.map_stored whole] at readers

/-! ## Whatever has a text -/

theorem Rule.readText_text {r : Rule} (whole : r.IsWholeMilli) :
    Rule.codec.readText (Rule.codec.text r) = .ok r := by
  have read := ((Rule.restores whole.avoidsLeapSeconds).mono (by decide)).readText_text
  rwa [floorMilli_eq_self whole] at read

theorem AuditEntry.readText_text {e : AuditEntry} (whole : e.recordedAt.IsWholeMilli) :
    AuditEntry.codec.readText (AuditEntry.codec.text e) = .ok e := by
  have plain := Instant.isLeap_of_isWholeMilli whole
  have read := ((AuditEntry.restores plain).mono (by decide)).readText_text
  rwa [floorMilli_eq_self whole] at read

/-- **Whatever is stored comes back**, and both readers of rule books make the same even of dates that
are not whole milliseconds. -/
theorem stored_data_comes_back :
    (∀ r : Rule, r.IsWholeMilli → Rule.codec.readText (Rule.codec.text r) = .ok r) ∧
      (∀ rules : List Rule, (∀ r ∈ rules, r.IsWholeMilli) →
        Rule.listCodec.readText (Rule.listCodec.text rules) = .ok rules) ∧
      (∀ book : RuleBook, (∀ r ∈ book.rules, r.IsWholeMilli) →
        RuleBook.codec.readText (RuleBook.codec.text book) = .ok book ∧
          RuleBook.ReadAs (RuleBook.codec.text book) book) ∧
      (∀ book : RuleBook, (∀ r ∈ book.rules, r.IsStorable) →
        RuleBook.ReadAs (RuleBook.codec.text book)
          { book with rules := book.rules.map (Rule.mapDates Instant.stored) }) ∧
      (∀ e : AuditEntry, e.recordedAt.IsWholeMilli →
        AuditEntry.codec.readText (AuditEntry.codec.text e) = .ok e) ∧
      (∀ (log : AuditLog) (capacity : Nat), AuditLog.AreWholeMilli log.entries → 1 ≤ capacity →
        log.entries.length ≤ capacity →
        AuditLog.ofText log.text capacity = .ok ⟨log.entries, capacity⟩) ∧
      (∀ p : PublishedRule, p.FitsWords →
        PublishedRule.codec.readText (PublishedRule.codec.text p) = .ok p) ∧
      (∀ page : PageContext, PageContext.codec.readText (PageContext.codec.text page) = .ok page) ∧
      ∀ key : StoreKey, StoreKey.codec.readText (StoreKey.codec.text key) = .ok key := by
  refine ⟨fun _ whole => Rule.readText_text whole, ?_, ?_, fun _ => RuleBook.readAs_stored,
    fun _ whole => AuditEntry.readText_text whole, ?_, ?_, ?_, ?_⟩
  · intro rules whole
    have read := Rule.readText_list fun r listed => (whole r listed).avoidsLeapSeconds
    rwa [Rule.map_floorMilli whole] at read
  · intro book whole
    have read := RuleBook.readText_text fun r listed => (whole r listed).avoidsLeapSeconds
    rw [Rule.map_floorMilli whole] at read
    exact ⟨read, RuleBook.readAs_text whole⟩
  · intro log capacity whole positive room
    exact AuditLog.ofText_of_le whole (Nat.one_le_iff_ne_zero.1 positive) room
  · intro p fits
    exact ((PublishedRule.restores fits).mono (by decide)).readText_text
  · intro page
    exact (page.restores.mono (by decide)).readText_text
  · intro key
    exact (key.restores.mono (by decide)).readText_text

/-- A rule that starts with the first year that there is. -/
def hideBannerEver : Rule :=
  { Workspace.hideBanner with startsAt := Instant.make? Instant.minSecond 0 }

/-- A log of one entry, whose details are a quote and a line feed. -/
def quotedLog : AuditLog :=
  ⟨[⟨"e1", .epoch, "ann", .create, "\"\n", none⟩], 30⟩

theorem stored_data_comes_back_hideBannerEver :
    Rule.codec.readText (Rule.codec.text hideBannerEver) = .ok hideBannerEver ∧
      RuleBook.ReadAs (RuleBook.codec.text { rules := [hideBannerEver] })
        { rules := [hideBannerEver] } ∧
      AuditLog.ofText quotedLog.text 1 = .ok ⟨quotedLog.entries, 1⟩ := by
  obtain ⟨rule, -, book, -, -, log, -⟩ := stored_data_comes_back
  refine ⟨rule _ (by decide), (book _ ?_).2, log _ 1 ?_ (Nat.le_refl 1) (Nat.le_refl 1)⟩
  · rw [List.forall_mem_singleton]
    decide
  · rw [AuditLog.AreWholeMilli, quotedLog, List.forall_mem_singleton]
    decide

/-- An empty log has no more than zero entries, and is not read as one that keeps zero. -/
theorem empty_log_needs_room :
    ¬ ∀ (log : AuditLog) (capacity : Nat), AuditLog.AreWholeMilli log.entries →
      log.entries.length ≤ capacity →
      AuditLog.ofText log.text capacity = .ok ⟨log.entries, capacity⟩ := by
  intro always
  have read := always .empty 0 (List.forall_mem_nil _) (Nat.le_refl 0)
  have refused : AuditLog.ofText AuditLog.empty.text 0 = .error .noCapacity := rfl
  rw [refused] at read
  cases read

end Exclusion
