/-
# Exclusion.Proofs.Workspace.Script -- the script that is stored after any run

Rules are checked when they are saved, and a page meets them in the script.  In between there may be any
number of calls, and any of their calls of the store may fail.  Still the stored script is none or was
compiled from rules that may be stored (`HoldsSoundScript.step`): the rules key is only ever given a
text that a call has made of what it loaded, an edit leaves the script as it is, and a publication checks
the rules again.  So every style rule that a published script puts into a page is a single block
(`published_rules_are_single_blocks`).

Nothing is assumed of dates and ids.  A date in a leap second may make a stored book unreadable, or its
rules invalid when they come back; what is said here is said of the text that is stored.
-/
import Exclusion.Proofs.Script.Style
import Exclusion.Proofs.Workspace.Failing
import Exclusion.Proofs.Workspace.Publication
import Exclusion.Proofs.Workspace.Usable

namespace Exclusion

set_option autoImplicit false

/-- The script is none, or was compiled from rules that may be stored. -/
def Script.IsSound (script : String) : Prop :=
  script = "" ∨ ∃ rules generatedAt, isValidRuleSet rules = true ∧
    script = (Script.compile rules generatedAt).source

/-- The script is none, or it can be read and the style rules of its payload are single blocks. -/
def Script.HasSingleBlocks (script : String) : Prop :=
  script ≠ "" → ∃ published, Script.readPayload script = .ok published ∧
    ∀ p ∈ published, IsSingleBlock (p.effect.styleRule p.selector)

theorem Script.IsSound.hasSingleBlocks {script : String} (sound : Script.IsSound script) :
    Script.HasSingleBlocks script := by
  intro published
  obtain empty | ⟨rules, generatedAt, valid, rfl⟩ := sound
  · exact absurd empty published
  · exact isSingleBlock_of_compiled valid generatedAt

namespace Workspace

variable {ws : Workspace} {store : Store} {call : Call}

/-! ## What a call does to the stored text -/

/-- After a call, whatever calls of the store failed, the rules key has the text that it had or that of
the book that the call was to store. -/
theorem get?_rulesKey_step (session : Session) (call : Call) :
    (ws.step session call).world.store.get? ws.rulesKey =
        session.world.store.get? ws.rulesKey ∨
      ∃ book, ws.bookAfter? call session.world.store = some book ∧
        (ws.step session call).world.store.get? ws.rulesKey =
          some (RuleBook.codec.text book) := by
  rw [world_step]
  cases ws.attempt call session.world.store with
  | idle nothing follows =>
      obtain ⟨made, before, wrote⟩ := follows.made rfl
      rw [wrote.store, List.prefix_nil.1 before]
      exact .inl rfl
  | storing book earlier later ends stores place apart takes unrecorded =>
      obtain ⟨made, before, wrote⟩ := takes.follows.made rfl
      have only : ∀ w ∈ made, w = .set ws.rulesKey (RuleBook.codec.text book) ∨
          ws.rulesKey.text ≠ w.key.text := by
        intro w member
        have listed := List.reduceOption_mem_iff.1 (before.subset member)
        rcases List.mem_append.1 listed with first | listed
        · exact .inr (apart w (List.mem_append_left later first))
        · rcases List.mem_cons.1 listed with same | last
          · exact .inl (Option.some.inj same)
          · exact .inr (apart w (List.mem_append_right earlier last))
      rw [wrote.store]
      rcases Store.get?_writeAll_or only with written | kept
      · exact .inr ⟨book, stores, written⟩
      · exact .inl kept

/-! ## The invariant -/

variable (ws)

/-- The text under the rules key, if there is one, is that of a book with a sound script. -/
def HoldsSoundScript (store : Store) : Prop :=
  ∀ text, store.get? ws.rulesKey = some text →
    ∃ book, text = RuleBook.codec.text book ∧ Script.IsSound book.script

variable {ws}

/-- A book that is loaded has a sound script. -/
theorem HoldsSoundScript.bookIn (holds : ws.HoldsSoundScript store) {book : RuleBook}
    (loaded : ws.bookIn store = .ok book) : Script.IsSound book.script := by
  obtain ⟨stored, read, rfl⟩ := Json.except_map_eq_ok.1 loaded
  cases stored with
  | none => exact .inl rfl
  | some read' =>
      obtain ⟨text, found, decoded⟩ := readIn_eq_some read
      obtain ⟨written, rfl, sound⟩ := holds text found
      rw [Option.getD_some, RuleBook.script_of_readText decoded]
      exact sound

/-- A call is to store a book with a sound script. -/
theorem HoldsSoundScript.bookAfter? (holds : ws.HoldsSoundScript store) {book : RuleBook}
    (stores : ws.bookAfter? call store = some book) : Script.IsSound book.script := by
  unfold Workspace.bookAfter? at stores
  split at stores
  · rename_i old loaded
    have sound : Script.IsSound old.script := holds.bookIn loaded
    split at stores
    · split at stores
      · cases stores
        exact sound
      · cases stores
    · cases stores
  · rename_i stamp user old loaded
    split at stores
    · rename_i valid
      cases stores
      exact .inr ⟨old.rules, stamp.compiledAt, valid, rfl⟩
    · cases stores
  · cases stores

/-- **Every call preserves that the stored script is sound**, whatever calls of the store fail. -/
theorem HoldsSoundScript.step {session : Session}
    (holds : ws.HoldsSoundScript session.world.store) (call : Call) :
    ws.HoldsSoundScript (ws.step session call).world.store := by
  intro text stored
  rcases get?_rulesKey_step session call with kept | ⟨book, stores, written⟩
  · exact holds text (kept ▸ stored)
  · rw [written] at stored
    cases stored
    exact ⟨book, rfl, holds.bookAfter? stores⟩

/-! ## After a run -/

/-- **What is published never leaves its style rule.**  After any calls on a workspace whose store is
empty at first, whichever calls of the store fail, the text that is stored is that of a book whose script
is empty or can be read, and then the style rules of its payload are single blocks.  Who loads the book
gets that script. -/
theorem published_rules_are_single_blocks (ws : Workspace) {world : World}
    (empty : world.store = .empty) (calls : List Call) :
    (∀ text, (ws.play world calls).world.store.get? ws.rulesKey = some text →
      ∃ book, text = RuleBook.codec.text book ∧ Script.HasSingleBlocks book.script) ∧
    ∀ book, ws.bookIn (ws.play world calls).world.store = .ok book →
      Script.HasSingleBlocks book.script := by
  have holds : ws.HoldsSoundScript (ws.play world calls).world.store := by
    refine play_of_each (fun _ => True) (fun session => ws.HoldsSoundScript session.world.store)
      (fun holds _ => HoldsSoundScript.step holds _) (fun _ _ => trivial) fun text stored => ?_
    rw [empty] at stored
    cases stored
  refine ⟨fun text stored => ?_, fun book loaded => Script.IsSound.hasSingleBlocks (holds.bookIn loaded)⟩
  obtain ⟨book, same, sound⟩ := holds text stored
  exact ⟨book, same, Script.IsSound.hasSingleBlocks sound⟩

/-- The rule about the banner is published. -/
theorem published_rules_are_single_blocks_hideBanner :
    ∃ book, usual.bookIn
        (usual.play {} [saveBanner, .publish ⟨"s2", "e2", .epoch, .epoch⟩ "ann"]).world.store =
          .ok book ∧
      ∃ published, Script.readPayload book.script = .ok published ∧
        ∀ p ∈ published, IsSingleBlock (p.effect.styleRule p.selector) := by
  have start : usual.Usable ⟨{}, []⟩ := usual.usable_empty rfl fun _ => rfl
  obtain ⟨session, saved, usable⟩ : ∃ session, usual.step ⟨{}, []⟩ saveBanner = session ∧
      usual.Usable session :=
    ⟨_, rfl, start.step (by decide) (by decide)⟩
  obtain ⟨log, read⟩ := usable.log
  obtain ⟨stored, found, valid⟩ := usable.book
  have loaded : usual.bookIn session.world.store = .ok (stored.getD {}) := by
    rw [bookIn, found]
    rfl
  obtain ⟨purge, after, published⟩ := usual.publish_ok usable.reliable loaded valid read
    ⟨"s2", "e2", .epoch, .epoch⟩ "ann"
  obtain ⟨rules, -, stored⟩ := usual.bookIn_of_published published
  have reached : (usual.play {} [saveBanner, .publish ⟨"s2", "e2", .epoch, .epoch⟩ "ann"]).world =
      after := by
    rw [play, List.foldl_cons, List.foldl_cons, List.foldl_nil, saved, world_step, perform,
      Action.run_map, published]
  have inStore : usual.bookIn after.store =
      .ok ⟨rules, (Script.compile rules .epoch).source⟩ := by
    rw [bookIn, stored]
    rfl
  have published : (Script.compile rules .epoch).source ≠ "" := by
    intro empty
    have read := Script.readPayload_compile rules .epoch
    rw [empty] at read
    cases read
  have blocks := (published_rules_are_single_blocks usual rfl _).2 _ (reached ▸ inStore)
  rw [reached]
  exact ⟨_, inStore, blocks published⟩

end Workspace

end Exclusion
