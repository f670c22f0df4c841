/-
# Exclusion.Proofs.Rule.Wire -- rules come back as they were stored

A rule comes back with its dates cut down to the millisecond (`Rule.restores`), and all else as it was:
any text in any place, unknown signals and operators among it.  A list of rules and a rule book come
back likewise (`Rule.readText_list`, `RuleBook.readText_text`), published rules as they are
(`PublishedRule.restores`).  Whatever was read has only whole milliseconds for dates
(`RuleBook.isWholeMilli_of_readText`).

Dates in leap seconds are left out: they would come back as dates in the second after, or not at all.
Even so, a rule book that is read at all has the script that was stored
(`RuleBook.script_of_readText`), and it is read if and only if no date lies in a leap second after the
last second of all (`RuleBook.exists_readText_iff`).
-/
import Exclusion.Proofs.Json.Carry
import Exclusion.Proofs.Json.Reread
import Exclusion.Proofs.Time.Milli
import Exclusion.Rule.Validation
import Exclusion.Script.Payload

namespace Exclusion

set_option autoImplicit false

open Exclusion.Json

/-! ## Names -/

theorem Signal.restores {levels : Nat} (s : Signal) : Signal.codec.Restores levels s s :=
  .names (by cases s <;> rfl)

theorem Operator.restores {levels : Nat} (o : Operator) : Operator.codec.Restores levels o o :=
  .names (by cases o <;> rfl)

theorem Connective.restores {levels : Nat} (c : Connective) :
    Connective.codec.Restores levels c c :=
  .names (by cases c <;> rfl)

theorem Effect.restores {levels : Nat} (e : Effect) : Effect.codec.Restores levels e e :=
  .names (by cases e <;> rfl)

/-! ## Conditions -/

theorem Condition.carries (c : Condition) : Condition.codec.Carries 1 c c :=
  .record Condition.fields (c.signal, c.operator, c.value, c.caseSensitive, ()) (by decide)
    ⟨Field.carries_required (.of_isAtom c.signal.restores trivial),
      Field.carries_required (.of_isAtom c.operator.restores trivial),
      Field.carries_required (Codec.carries_string _),
      Field.carries_default (Codec.carries_bool _), trivial⟩

theorem Condition.carries_list (cs : List Condition) :
    (Codec.list Condition.codec).Carries 2 cs cs :=
  .list (List.forall₂_same.2 fun c _ => c.carries)

/-! ## Rules -/

namespace Rule

/-- The dates of the rule, that of its creation among them. -/
def instants (r : Rule) : List Instant :=
  r.createdAt :: (r.startsAt.toList ++ r.endsAt.toList)

/-- No date of the rule lies in a leap second. -/
def AvoidsLeapSeconds (r : Rule) : Prop :=
  ∀ t ∈ r.instants, t.isLeap = false

/-- All dates of the rule are whole milliseconds. -/
def IsWholeMilli (r : Rule) : Prop :=
  ∀ t ∈ r.instants, t.IsWholeMilli

instance (r : Rule) : Decidable r.AvoidsLeapSeconds :=
  inferInstanceAs (Decidable (∀ t ∈ r.instants, t.isLeap = false))

instance (r : Rule) : Decidable r.IsWholeMilli :=
  inferInstanceAs (Decidable (∀ t ∈ r.instants, t.IsWholeMilli))

/-- All dates of the rule can be read when they were stored. -/
def IsStorable (r : Rule) : Prop :=
  ∀ t ∈ r.instants, t.IsStorable

instance (r : Rule) : Decidable r.IsStorable :=
  inferInstanceAs (Decidable (∀ t ∈ r.instants, t.IsStorable))

/-- The rule with all its dates changed. -/
def mapDates (f : Instant → Instant) (r : Rule) : Rule :=
  { r with
    createdAt := f r.createdAt
    startsAt := r.startsAt.map f
    endsAt := r.endsAt.map f }

/-- The rule with its dates cut down to the millisecond. -/
def floorMilli (r : Rule) : Rule :=
  { r with
    createdAt := r.createdAt.floorMilli
    startsAt := r.startsAt.map Instant.floorMilli
    endsAt := r.endsAt.map Instant.floorMilli }

variable {r : Rule}

theorem IsWholeMilli.avoidsLeapSeconds (whole : r.IsWholeMilli) : r.AvoidsLeapSeconds :=
  fun t member => Instant.isLeap_of_isWholeMilli (whole t member)

theorem AvoidsLeapSeconds.isStorable (avoids : r.AvoidsLeapSeconds) : r.IsStorable :=
  fun t member => .inr (avoids t member)

/-- What holds of all dates holds of each. -/
theorem forall_instants_iff {p : Instant → Prop} : (∀ t ∈ r.instants, p t) ↔
    p r.createdAt ∧ (∀ t ∈ r.startsAt, p t) ∧ ∀ t ∈ r.endsAt, p t := by
  simp [instants, or_imp, forall_and]

theorem isWholeMilli_iff : r.IsWholeMilli ↔ r.createdAt.IsWholeMilli ∧
    (∀ t ∈ r.startsAt, t.IsWholeMilli) ∧ ∀ t ∈ r.endsAt, t.IsWholeMilli :=
  forall_instants_iff

theorem floorMilli_eq_self (whole : r.IsWholeMilli) : r.floorMilli = r := by
  obtain ⟨created, starts, ends⟩ := isWholeMilli_iff.1 whole
  have same : ∀ date : Option Instant, (∀ t ∈ date, t.IsWholeMilli) →
      date.map Instant.floorMilli = date := by
    rintro (_ | t) whole
    · rfl
    · rw [Option.map_some, Instant.floorMilli_eq_self (whole t rfl)]
  rw [floorMilli, Instant.floorMilli_eq_self created, same _ starts, same _ ends]

/-- A rule comes back but for its dates, which come back as dates do. -/
theorem carries_mapDates {f : Instant → Instant}
    (restored : ∀ t ∈ r.instants, Instant.millisCodec.Restores 2 t (f t)) :
    Rule.codec.Carries 3 r (r.mapDates f) := by
  obtain ⟨created, starts, ends⟩ := forall_instants_iff.1 restored
  have date : ∀ date : Option Instant, (∀ t ∈ date, Instant.millisCodec.Restores 2 t (f t)) →
      ∀ t ∈ date, Instant.millisCodec.Carries 2 t (f t) ∧ Instant.millisCodec.encode t ≠ .null :=
    fun date restored t member =>
      ⟨.of_isAtom (restored t member) trivial, by simp [Instant.millisCodec, Json.int]⟩
  exact .record Rule.fields
    (r.id, r.name, r.conditions, r.connective, r.selector, r.effect, r.isActive, r.respectsAds,
      f r.createdAt, r.startsAt.map f, r.endsAt.map f, ())
    (by decide)
    ⟨Field.carries_required (Codec.carries_string _),
      Field.carries_required (Codec.carries_string _),
      Field.carries_required (Condition.carries_list _),
      Field.carries_default (.of_isAtom r.connective.restores trivial),
      Field.carries_required (Codec.carries_string _),
      Field.carries_default (.of_isAtom r.effect.restores trivial),
      Field.carries_default (Codec.carries_bool _),
      Field.carries_default (Codec.carries_bool _),
      Field.carries_default (.of_isAtom created trivial),
      Field.carries_optional (date _ starts),
      Field.carries_optional (date _ ends), trivial⟩

/-- **A rule is restored but for what is left of its milliseconds.** -/
theorem restores (avoids : r.AvoidsLeapSeconds) : Rule.codec.Restores 3 r r.floorMilli :=
  (carries_mapDates fun t member => Instant.restores_millis (avoids t member)).toRestores

theorem carries_list_mapDates {f : Instant → Instant} {rules : List Rule}
    (restored : ∀ r ∈ rules, ∀ t ∈ r.instants, Instant.millisCodec.Restores 2 t (f t)) :
    Rule.listCodec.Carries 4 rules (rules.map (mapDates f)) := by
  refine .list ?_
  induction rules with
  | nil => exact .nil
  | cons r rules ih =>
      obtain ⟨first, others⟩ := List.forall_mem_cons.1 restored
      exact .cons (carries_mapDates first) (ih others)

theorem restores_list {rules : List Rule} (avoid : ∀ r ∈ rules, r.AvoidsLeapSeconds) :
    Rule.listCodec.Restores 4 rules (rules.map floorMilli) :=
  (carries_list_mapDates fun r listed t member =>
    Instant.restores_millis (avoid r listed t member)).toRestores

/-- The text of a list of rules is read back. -/
theorem readText_list {rules : List Rule} (avoid : ∀ r ∈ rules, r.AvoidsLeapSeconds) :
    Rule.listCodec.readText (Rule.listCodec.text rules) = .ok (rules.map floorMilli) :=
  ((restores_list avoid).mono (by decide)).readText_text

theorem map_floorMilli {rules : List Rule} (whole : ∀ r ∈ rules, r.IsWholeMilli) :
    rules.map floorMilli = rules :=
  (List.map_congr_left fun r member => floorMilli_eq_self (whole r member)).trans (List.map_id' rules)

/-- What was read is a rule of whole milliseconds. -/
theorem isWholeMilli_of_makes {r : Rule} (made : Rule.codec.Makes r) : r.IsWholeMilli := by
  obtain ⟨⟨id, name, conditions, connective, selector, effect, isActive, respectsAds, createdAt,
    startsAt, endsAt, ⟨⟩⟩, rfl, -, -, -, -, -, -, -, -, created, starts, ends, -⟩ := made.record
  have date : ∀ {f : Field Rule (Option Instant)} {date : Option Instant}, f.Makes date →
      f.codec = Instant.millisCodec.option → f.absent = some none → f.absentItem = some none →
      ∀ t ∈ date, t.IsWholeMilli := by
    rintro f date made codec absent absentItem t rfl
    rcases made with made | default | default
    · exact Instant.isWholeMilli_of_makes (codec ▸ made).option
    · simp [absent] at default
    · simp [absentItem] at default
  refine isWholeMilli_iff.2 ⟨?_, date starts rfl rfl rfl, date ends rfl rfl rfl⟩
  rcases created with made | default | default
  · exact Instant.isWholeMilli_of_makes made
  · exact Option.some.inj default ▸ Instant.isWholeMilli_epoch
  · exact Option.some.inj default ▸ Instant.isWholeMilli_epoch

/-- A rule that is read at all has dates that can be stored. -/
theorem isStorable_of_decode {read : Rule} {source : Source}
    (decoded : Rule.codec.decode source (Rule.codec.encode r).toNode = .ok read) : r.IsStorable := by
  obtain ⟨inner, row, rfl, readAs⟩ := Codec.readAs_of_decode_record (by decide) decoded
  obtain ⟨id, name, conditions, connective, selector, effect, isActive, respectsAds, createdAt,
    startsAt, endsAt, ⟨⟩⟩ := row
  obtain ⟨-, -, -, -, -, -, -, -, created, starts, ends, -⟩ := readAs
  have date : ∀ {name get read}, (Field.optional name get Instant.millisCodec).ReadAs inner r read →
      ∀ t ∈ get r, t.IsStorable := by
    intro name get read readAs t given
    obtain ⟨_, -, decoded⟩ := Field.exists_decode_of_readAs_optional readAs given
      (by simp [Instant.millisCodec, Json.int])
    exact Instant.isStorable_of_decode decoded
  exact forall_instants_iff.2 ⟨Instant.isStorable_of_decode created, date starts, date ends⟩

theorem isIntegral_encode (r : Rule) : (Rule.codec.encode r).IsIntegral := by
  have conditions := (Condition.carries_list r.conditions).integral
  have created := r.createdAt.isIntegral_encode
  cases starts : r.startsAt <;> cases ends : r.endsAt <;>
    simp only [codec, Codec.record, fields, Fields.members, Field.required, Field.default,
      Field.optional, starts, ends, Option.isNone_none, Option.isNone_some, Bool.false_eq_true,
      if_true, if_false]
  · exact ⟨trivial, trivial, conditions, trivial, trivial, trivial, trivial, trivial, created, trivial⟩
  · exact ⟨trivial, trivial, conditions, trivial, trivial, trivial, trivial, trivial, created,
      Instant.isIntegral_encode _, trivial⟩
  · exact ⟨trivial, trivial, conditions, trivial, trivial, trivial, trivial, trivial, created,
      Instant.isIntegral_encode _, trivial⟩
  · exact ⟨trivial, trivial, conditions, trivial, trivial, trivial, trivial, trivial, created,
      Instant.isIntegral_encode _, Instant.isIntegral_encode _, trivial⟩

/-- What is left of the milliseconds is not written. -/
theorem encode_floorMilli (r : Rule) : Rule.codec.encode r.floorMilli = Rule.codec.encode r := by
  have date : ∀ t : Instant, Instant.millisCodec.encode t.floorMilli = Instant.millisCodec.encode t :=
    fun t => congrArg Json.int t.millis_floorMilli
  cases starts : r.startsAt <;> cases ends : r.endsAt <;>
    simp only [codec, Codec.record, fields, Fields.members, Field.required, Field.default,
      Field.optional, floorMilli, starts, ends, Option.map_none, Option.map_some, Option.isNone_none,
      Option.isNone_some, Bool.false_eq_true, if_true, if_false, Codec.option, date]

/-! ## Validity -/

theorem flaws_floorMilli {r : Rule} (sound : r.flaws = []) : r.floorMilli.flaws = [] := by
  have ordered : r.endsBeforeStart = false := by
    by_contra ends
    simp [flaws, flawIf, ends] at sound
  have kept : r.floorMilli.endsBeforeStart = false := by
    cases hs : r.startsAt with
    | none => simp [endsBeforeStart, floorMilli, hs]
    | some starts =>
        cases he : r.endsAt with
        | none => simp [endsBeforeStart, floorMilli, hs, he]
        | some ends =>
            have le : starts ≤ ends := by
              by_contra later
              simp [endsBeforeStart, hs, he, show ends < starts from later] at ordered
            have floored : ¬ ends.floorMilli < starts.floorMilli :=
              fun later => later (Instant.floorMilli_le le)
            simp [endsBeforeStart, floorMilli, hs, he, floored]
  have same : r.floorMilli.flaws = r.flaws := by
    unfold flaws
    rw [kept, ordered]
    rfl
  rw [same, sound]

end Rule

theorem issuesAfter_floorMilli {rules : List Rule} {seen : List String}
    (sound : issuesAfter seen rules = []) : issuesAfter seen (rules.map Rule.floorMilli) = [] := by
  induction rules generalizing seen with
  | nil => rfl
  | cons r rules ih =>
      simp only [issuesAfter, List.append_eq_nil_iff, Rule.issues, List.map_eq_nil_iff] at sound
      obtain ⟨⟨flaws, fresh⟩, rest⟩ := sound
      simp only [List.map_cons, issuesAfter, Rule.issues, Rule.flaws_floorMilli flaws, List.map_nil,
        List.nil_append, List.append_eq_nil_iff]
      exact ⟨fresh, ih rest⟩

/-- Rules that may be stored may be stored again when they come back. -/
theorem isValidRuleSet_floorMilli {rules : List Rule} (valid : isValidRuleSet rules = true) :
    isValidRuleSet (rules.map Rule.floorMilli) = true := by
  simp only [isValidRuleSet, ruleSetIssues, List.isEmpty_iff] at valid ⊢
  exact issuesAfter_floorMilli valid

/-! ## Rule books -/

namespace RuleBook

variable {book : RuleBook}

/-- A rule book comes back but for the dates of its rules. -/
theorem carries_mapDates {f : Instant → Instant}
    (restored : ∀ r ∈ book.rules, ∀ t ∈ r.instants, Instant.millisCodec.Restores 2 t (f t)) :
    RuleBook.codec.Carries 5 book { book with rules := book.rules.map (Rule.mapDates f) } :=
  .record RuleBook.fields (book.rules.map (Rule.mapDates f), book.script, ()) (by decide)
    ⟨Field.carries_default (Rule.carries_list_mapDates restored),
      Field.carries_default (Codec.carries_string _), trivial⟩

/-- The text of a rule book is read back. -/
theorem readText_text (avoid : ∀ r ∈ book.rules, r.AvoidsLeapSeconds) :
    RuleBook.codec.readText (RuleBook.codec.text book) =
      .ok { book with rules := book.rules.map Rule.floorMilli } :=
  ((carries_mapDates fun r listed t member =>
    Instant.restores_millis (avoid r listed t member)).mono (by decide)).readText_text

/-- It comes back with the dates that milliseconds tell. -/
theorem carries_stored (storable : ∀ r ∈ book.rules, r.IsStorable) :
    RuleBook.codec.Carries maxLevels book
      { book with rules := book.rules.map (Rule.mapDates Instant.stored) } :=
  (carries_mapDates fun r listed t member =>
    Instant.restores_stored (storable r listed t member)).mono (by decide)

theorem readText_stored (storable : ∀ r ∈ book.rules, r.IsStorable) :
    RuleBook.codec.readText (RuleBook.codec.text book) =
      .ok { book with rules := book.rules.map (Rule.mapDates Instant.stored) } :=
  (carries_stored storable).readText_text

/-- The rules of a book that was read have whole milliseconds for dates. -/
theorem isWholeMilli_of_readText {text : String} (read : RuleBook.codec.readText text = .ok book) :
    ∀ r ∈ book.rules, r.IsWholeMilli := by
  obtain ⟨⟨rules, script, ⟨⟩⟩, rfl, made, -, -⟩ := (Codec.makes_of_readText read).record
  intro r member
  rcases made with made | default | default
  · exact Rule.isWholeMilli_of_makes (made.list r member)
  · exact absurd (Option.some.inj default ▸ member) (List.not_mem_nil)
  · exact absurd (Option.some.inj default ▸ member) (List.not_mem_nil)

theorem isIntegral_encode (book : RuleBook) : (RuleBook.codec.encode book).IsIntegral := by
  have rules : ∀ rules : List Rule, AreIntegral (rules.map Rule.codec.encode) := by
    intro rules
    induction rules with
    | nil => trivial
    | cons r rules ih => exact ⟨r.isIntegral_encode, ih⟩
  exact ⟨rules book.rules, trivial, trivial⟩

/-- A rule book and what it is read as have one text. -/
theorem text_floorMilli (book : RuleBook) :
    RuleBook.codec.text { book with rules := book.rules.map Rule.floorMilli } =
      RuleBook.codec.text book := by
  have rules : Rule.listCodec.encode (book.rules.map Rule.floorMilli) =
      Rule.listCodec.encode book.rules := by
    simp only [Rule.listCodec, Codec.list, List.map_map, Function.comp_def, Rule.encode_floorMilli]
  have members : fields.members { book with rules := book.rules.map Rule.floorMilli } =
      fields.members book := by
    simp only [fields, Fields.members, Field.default, rules]
  rw [Codec.text, Codec.text]
  simp only [codec, Codec.record, members]

/-- A rule book that is read at all has the script that was stored. -/
theorem script_of_readText {read : RuleBook}
    (decoded : RuleBook.codec.readText (RuleBook.codec.text book) = .ok read) :
    read.script = book.script := by
  have decoded := Codec.decode_of_readText book.isIntegral_encode decoded
  obtain ⟨inner, ⟨rules, script, ⟨⟩⟩, rfl, -, named, -⟩ :=
    Codec.readAs_of_decode_record (by decide) decoded
  exact (Except.ok.inj named).symm

/-- **A stored rule book can be read if and only if all dates of its rules can.** -/
theorem exists_readText_iff :
    (∃ read, RuleBook.codec.readText (RuleBook.codec.text book) = .ok read) ↔
      ∀ r ∈ book.rules, r.IsStorable := by
  constructor
  · rintro ⟨read, decoded⟩
    have decoded := Codec.decode_of_readText book.isIntegral_encode decoded
    obtain ⟨inner, ⟨rules, script, ⟨⟩⟩, -, items, -⟩ :=
      Codec.readAs_of_decode_record (by decide) decoded
    obtain ⟨inner', -, readAs⟩ := Codec.forall₂_of_decode_list items
    have storable := readAs.imp fun _ _ taken => And.intro (Rule.isStorable_of_decode taken) taken
    exact ((List.forall₂_and_left _ _).1 storable).1
  · intro storable
    exact ⟨_, readText_stored storable⟩

end RuleBook

/-! ## Published rules -/

namespace PublishedRule

/-- The dates of a published rule are whole numbers of 64 bits with sign. -/
def FitsWords (p : PublishedRule) : Prop :=
  ∀ ms ∈ p.starts.toList ++ p.ends.toList, -(Number.maxNegative : Int) ≤ ms ∧ ms < Number.maxNegative

/-- Published rules come back as they are. -/
theorem restores {p : PublishedRule} (fits : p.FitsWords) :
    PublishedRule.codec.Restores 3 p p := by
  have date : ∀ date : Option Int, (∀ ms ∈ date, ms ∈ p.starts.toList ++ p.ends.toList) →
      ∀ ms ∈ date, Codec.signed64.Restores 2 ms (id ms) ∧ Codec.signed64.encode ms ≠ .null := by
    intro date listed ms member
    obtain ⟨lower, upper⟩ := fits ms (listed ms member)
    exact ⟨Codec.restores_signed64 lower upper, by simp [Codec.signed64, Json.int]⟩
  have restores : PublishedRule.codec.Restores 3 p
      { p with
        starts := p.starts.map id
        ends := p.ends.map id } :=
    .record PublishedRule.fields
      (p.name, p.conditions, p.connective, p.selector, p.effect, p.respectsAds, p.starts.map id,
        p.ends.map id, ())
      (by decide)
      ⟨Field.restores_required (Codec.restores_string _),
        Field.restores_required (Condition.carries_list _).toRestores,
        Field.restores_required p.connective.restores,
        Field.restores_required (Codec.restores_string _),
        Field.restores_required p.effect.restores,
        Field.restores_required (Codec.restores_bool _),
        Field.restores_optional (date _ fun ms starts =>
          List.mem_append_left _ (Option.mem_toList.2 starts)),
        Field.restores_optional (date _ fun ms ends =>
          List.mem_append_right _ (Option.mem_toList.2 ends)), trivial⟩
  rwa [Option.map_id_apply, Option.map_id_apply] at restores

theorem fitsWords_ofRule (r : Rule) : (ofRule r).FitsWords := by
  intro ms member
  obtain ⟨t, rfl⟩ : ∃ t : Instant, t.millis = ms := by
    rcases List.mem_append.1 member with starts | ends
    · obtain ⟨t, -, same⟩ := Option.map_eq_some_iff.1 (Option.mem_toList.1 starts)
      exact ⟨t, same⟩
    · obtain ⟨t, -, same⟩ := Option.map_eq_some_iff.1 (Option.mem_toList.1 ends)
      exact ⟨t, same⟩
  exact t.millis_bounds

theorem restores_payload (rules : List Rule) :
    PublishedRule.listCodec.Restores 4 (payload rules) (payload rules) := by
  refine .list (List.forall₂_same.2 fun p member => ?_)
  obtain ⟨r, -, rfl⟩ := List.mem_map.1 member
  exact restores (fitsWords_ofRule r)

end PublishedRule

end Exclusion
