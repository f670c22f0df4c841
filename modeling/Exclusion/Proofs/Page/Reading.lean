/-
# Exclusion.Proofs.Page.Reading -- a page can be read of any object

Whatever stands in an object that a page sends, it is read: each signal is made of the member with its
name, or of there being none, and no other member counts (`PageContext.readValue_object`).  Any value will
do for a text and for keywords (`PageContext.IsTextOf`, `PageContext.AreKeywordsOf`).  Only ads are
strict.  Nothing but the JSON value `true` says that a page shows them, so nothing else lets a rule for
pages with ads fire (`PageContext.reads_any_object`).

Objects are those of values, with their members sorted by key and no two of one name, at every depth, as
all values that were read are.  A page is written with the plain form of each signal, and comes back as
it is.
-/
import Exclusion.Proofs.Json.Lookup
import Exclusion.Proofs.Json.Sorted
import Exclusion.Proofs.Page.Wire
import Exclusion.Proofs.Rule.Gate

namespace Exclusion

set_option autoImplicit false

open Exclusion.Json

/-! ## What signals are made of -/

namespace PageContext

/-- The text that is made of what is given for a signal, if anything is. -/
inductive IsTextOf : Option Json → String → Prop where
  | absent : IsTextOf none ""
  | null : IsTextOf (some .null) ""
  | string (s : String) : IsTextOf (some (.string s)) s
  /-- Numbers, truth values, lists and objects are told by their compact JSON text. -/
  | other {v : Json} (given : v ≠ .null) (noString : ∀ s, v ≠ .string s) : IsTextOf (some v) v.render

/-- The keywords that are made of what is given for them, if anything is. -/
inductive AreKeywordsOf : Option Json → List String → Prop where
  | absent : AreKeywordsOf none []
  | null : AreKeywordsOf (some .null) []
  /-- What stands between commas, trimmed, unless it is blank. -/
  | string (s : String) : AreKeywordsOf (some (.string s)) (Text.parts s)
  | items {items : List Json} {texts : List String}
      (each : List.Forall₂ (fun v text => IsTextOf (some v) text) items texts) :
      AreKeywordsOf (some (.array items)) texts
  | other {v : Json} (given : v ≠ .null) (noString : ∀ s, v ≠ .string s)
      (noArray : ∀ items, v ≠ .array items) : AreKeywordsOf (some v) [v.render]

theorem isTextOf_scalarText (v : Json) : IsTextOf (some v) (scalarText v) := by
  cases v with
  | null => exact .null
  | string s => exact .string s
  | _ => exact .other nofun nofun

theorem areKeywordsOf_keywordTexts (v : Json) : AreKeywordsOf (some v) (keywordTexts v) := by
  cases v with
  | null => exact .null
  | string s => exact .string s
  | array items =>
      refine .items (List.forall₂_map_right_iff.2 (List.forall₂_same.2 fun v _ => ?_))
      exact isTextOf_scalarText v
  | _ => exact .other nofun nofun nofun

theorem isTrue_iff {v : Json} : isTrue v = true ↔ v = .bool true := by
  cases v <;> simp [isTrue]

/-! ## Reading an object -/

/-- What a reader makes of the member with this name, and otherwise this. -/
def madeOf {α : Type} (reader : Json → α) (otherwise : α) (members : List (String × Json))
    (name : String) : α :=
  ((members.lookup name).map reader).getD otherwise

/-- The page that is made of the members of an object. -/
def ofMembers (members : List (String × Json)) : PageContext where
  site := madeOf scalarText "" members "site"
  keywords := madeOf keywordTexts [] members "keywords"
  sectionName := madeOf scalarText "" members "section"
  topSection := madeOf scalarText "" members "top_section"
  pageType := madeOf scalarText "" members "page_type"
  contentId := madeOf scalarText "" members "content_id"
  descriptionUrl := madeOf scalarText "" members "description_url"
  domain := madeOf scalarText "" members "domain"
  abTest := madeOf scalarText "" members "ab_test"
  adsEnabled := madeOf isTrue false members "ads_enabled"

variable {members : List (String × Json)}

/-- What is made fits what was given if the reader's part and the default do. -/
theorem madeOf_spec {α : Type} {reader : Json → α} {otherwise : α} {R : Option Json → α → Prop}
    (absent : R none otherwise) (given : ∀ v, R (some v) (reader v)) (name : String) :
    R (members.lookup name) (madeOf reader otherwise members name) := by
  unfold madeOf
  cases members.lookup name with
  | none => exact absent
  | some v => exact given v

/-- A field whose codec takes any value is read of what is found. -/
theorem reads_default {σ α : Type} {codec : Codec α} {reader : Json → α}
    (lenient : ∀ node : Node, codec.decode .value node = (node.toJson .value).map reader)
    (are : MembersAreSorted members) {name : String} {get : σ → α} {otherwise : α} :
    (Field.default name get codec otherwise).Reads members (madeOf reader otherwise members name) := by
  unfold Field.Reads madeOf Field.default
  simp only
  cases found : members.lookup name with
  | none => rfl
  | some v =>
      obtain ⟨before, after, rfl, -⟩ := List.lookup_eq_some_iff.1 found
      have sorted : v.IsSorted := isSorted_of_mem are (List.mem_append_right _ List.mem_cons_self)
      simp only [Codec.readValue, lenient, toJson_toNode, sorted_of_isSorted sorted]
      rfl

/-- **A page is read of any object, each signal of the member with its name.** -/
theorem readValue_object (value : (Json.object members).IsSorted) :
    PageContext.codec.readValue (.object members) = .ok (ofMembers members) := by
  obtain ⟨ordered, are⟩ := value
  have distinct : (keys members).Nodup := ordered.imp fun below => ne_of_lt below
  have reads : PageContext.fields.Reads members
      (madeOf scalarText "" members "site", madeOf keywordTexts [] members "keywords",
        madeOf scalarText "" members "section", madeOf scalarText "" members "top_section",
        madeOf scalarText "" members "page_type", madeOf scalarText "" members "content_id",
        madeOf scalarText "" members "description_url", madeOf scalarText "" members "domain",
        madeOf scalarText "" members "ab_test", madeOf isTrue false members "ads_enabled", ()) :=
    ⟨reads_default (fun _ => rfl) are, reads_default (fun _ => rfl) are,
      reads_default (fun _ => rfl) are, reads_default (fun _ => rfl) are,
      reads_default (fun _ => rfl) are, reads_default (fun _ => rfl) are,
      reads_default (fun _ => rfl) are, reads_default (fun _ => rfl) are,
      reads_default (fun _ => rfl) are, reads_default (fun _ => rfl) are, trivial⟩
  exact Codec.readValue_record (by decide) distinct reads

theorem adsEnabled_ofMembers :
    (ofMembers members).adsEnabled = true ↔ members.lookup "ads_enabled" = some (.bool true) :=
  madeOf_spec (R := fun given ads => ads = true ↔ given = some (.bool true)) (by simp)
    (fun v => isTrue_iff.trans Option.some_inj.symm) "ads_enabled"

/-- Members with other names do not count. -/
theorem ofMembers_congr {others : List (String × Json)}
    (agree : ∀ signal ∈ Signal.all, others.lookup signal.name = members.lookup signal.name) :
    ofMembers others = ofMembers members := by
  simp only [Signal.all, List.forall_mem_cons, Signal.name] at agree
  obtain ⟨site, keywords, sectionName, topSection, pageType, contentId, descriptionUrl, domain, abTest,
    adsEnabled, -⟩ := agree
  simp only [ofMembers, madeOf, site, keywords, sectionName, topSection, pageType, contentId,
    descriptionUrl, domain, abTest, adsEnabled]

/-- **A page is read of any object, and only `true` opens it for ads.** -/
theorem reads_any_object (members : List (String × Json)) (value : (Json.object members).IsSorted) :
    ∃ page, PageContext.codec.readValue (.object members) = .ok page ∧
      (∀ signal ∈ Signal.all, signal ≠ .keywords → signal ≠ .adsEnabled →
        ∃ text, page.value? signal = some (.scalar text) ∧
          IsTextOf (members.lookup signal.name) text) ∧
      AreKeywordsOf (members.lookup "keywords") page.keywords ∧
      (page.adsEnabled = true ↔ members.lookup "ads_enabled" = some (.bool true)) ∧
      (∀ r : Rule, r.respectsAds = true → (r.matchOn page).fired = true →
        members.lookup "ads_enabled" = some (.bool true)) ∧
      (∀ others : List (String × Json), (Json.object others).IsSorted →
        (∀ signal ∈ Signal.all, others.lookup signal.name = members.lookup signal.name) →
        PageContext.codec.readValue (.object others) = .ok page) ∧
      PageContext.codec.readText (PageContext.codec.text page) = .ok page ∧
      PageContext.codec.readValue (PageContext.codec.encode page).sorted = .ok page := by
  refine ⟨ofMembers members, readValue_object value, ?_,
    madeOf_spec .absent areKeywordsOf_keywordTexts _, adsEnabled_ofMembers, ?_, ?_, ?_, ?_⟩
  · intro signal listed noKeywords noAds
    cases signal with
    | keywords => exact absurd rfl noKeywords
    | adsEnabled => exact absurd rfl noAds
    | unknown => exact absurd listed (by decide)
    | _ => exact ⟨_, rfl, madeOf_spec .absent isTextOf_scalarText _⟩
  · intro r respects fires
    exact adsEnabled_ofMembers.1 (Rule.adsEnabled_of_fired respects fires)
  · intro others value' agree
    rw [readValue_object value', ofMembers_congr agree]
  · exact ((restores _).mono (by decide)).readText_text
  · exact (carries _).carried

/-- The members of an article's object. -/
def articleMembers : List (String × Json) := [
  ("ads_enabled", .string "true"),
  ("content_id", .int 958381),
  ("keywords", .array [.string "a, b", .null, .object [("tags", .array [.bool true])]]),
  ("reads", .object [("daily", .int 7)]),
  ("section", .null)]

/-- The number is told by its text, and the word for true is not true. -/
theorem reads_any_object_articleMembers :
    ∃ page, PageContext.codec.readValue (.object articleMembers) = .ok page ∧
      page.value? .contentId = some (.scalar "958381") ∧ page.adsEnabled = false ∧
      ∀ r : Rule, r.respectsAds = true → (r.matchOn page).fired = false := by
  have value : (Json.object articleMembers).IsSorted := by
    refine ⟨by decide, ?_⟩
    simp [articleMembers, MembersAreSorted, IsSorted, AreSorted, keys, Json.int]
  obtain ⟨page, read, texts, -, ads, fires, -⟩ := reads_any_object articleMembers value
  have noAds : articleMembers.lookup "ads_enabled" ≠ some (.bool true) := by
    simp [articleMembers]
  obtain ⟨text, shown, told⟩ := texts .contentId (by decide) (by decide) (by decide)
  obtain rfl : text = "958381" := by
    cases told with
    | other given noString => rfl
  refine ⟨page, read, shown, Bool.eq_false_iff.2 (mt ads.1 noAds), ?_⟩
  intro r respects
  exact Bool.eq_false_iff.2 (mt (fires r respects) noAds)

end PageContext

end Exclusion
