/-
# Exclusion.Proofs.Page.Wire -- a page comes back as it was written

The signals of a page are read from any JSON, and whatever does not fit is made to fit.  What was
written for a page does fit, so all of it comes back: a text with commas as one text where one is
expected, and as one keyword where it stands in a list of keywords (`PageContext.restores`).  The same
comes back by way of a value, where the signals are sorted by name (`PageContext.carries`).
-/
import Exclusion.Page.Context
import Exclusion.Proofs.Json.Carry

namespace Exclusion.PageContext

set_option autoImplicit false

open Exclusion.Json

variable {levels : Nat}

theorem restores_scalar (s : String) : scalarCodec.Restores levels s s :=
  ⟨trivial, fun _ => rfl⟩

theorem restores_ads (b : Bool) : adsCodec.Restores levels b b :=
  ⟨trivial, fun _ => rfl⟩

/-- Texts are read as the list of these texts, whatever is in them. -/
theorem toJsons_strings (source : Source) (texts : List String) :
    Node.toJsons source (toNodes (texts.map .string)) = .ok (texts.map .string) := by
  induction texts with
  | nil => rfl
  | cons text texts ih =>
      simp only [List.map_cons, toNodes, Node.toJsons, toNode, Node.toJson, ih, bind, Except.bind]
      rfl

theorem areIntegral_strings (texts : List String) : AreIntegral (texts.map .string) := by
  induction texts with
  | nil => trivial
  | cons text texts ih => exact ⟨trivial, ih⟩

theorem restores_keywords (keywords : List String) :
    keywordsCodec.Restores (levels + 1) keywords keywords where
  integral := areIntegral_strings keywords
  decode {source} allows := by
    obtain ⟨inner, entered, -⟩ := allows.enter
    have read : Node.toJson source (.array (toNodes (keywords.map .string)) .closed) =
        .ok (.array (keywords.map .string)) := by
      simp only [Node.toJson, entered, toJsons_strings, Node.finish, bind, Except.bind]
      rfl
    have texts : (keywords.map Json.string).map scalarText = keywords := by
      rw [List.map_map]
      exact List.map_id _
    show (Node.toJson source (.array (toNodes (keywords.map .string)) .closed)).map keywordTexts = _
    rw [read]
    exact congrArg Except.ok texts

theorem carries_scalar (s : String) : scalarCodec.Carries levels s s :=
  .of_isAtom (restores_scalar s) trivial

theorem carries_ads (b : Bool) : adsCodec.Carries levels b b :=
  .of_isAtom (restores_ads b) trivial

theorem sortedItems_strings (texts : List String) :
    sortedItems (texts.map .string) = texts.map .string := by
  induction texts with
  | nil => rfl
  | cons text texts ih => exact congrArg (Json.string text :: ·) ih

theorem carries_keywords (keywords : List String) :
    keywordsCodec.Carries (levels + 1) keywords keywords where
  toRestores := restores_keywords keywords
  toJson :=
    have strings : (Codec.list .string).Carries (levels + 1) keywords keywords :=
      .list (List.forall₂_same.2 fun text _ => Codec.carries_string text)
    strings.toJson
  carried := by
    have sorted : (keywordsCodec.encode keywords).sorted = keywordsCodec.encode keywords :=
      congrArg Json.array (sortedItems_strings keywords)
    have restores : keywordsCodec.Restores (levels + 1) keywords keywords := restores_keywords keywords
    rw [sorted]
    exact restores.decode trivial

/-- **A page comes back, also by way of a value.** -/
theorem carries (page : PageContext) : PageContext.codec.Carries 2 page page :=
  .record PageContext.fields
    (page.site, page.keywords, page.sectionName, page.topSection, page.pageType, page.contentId,
      page.descriptionUrl, page.domain, page.abTest, page.adsEnabled, ())
    (by decide)
    ⟨Field.carries_default (carries_scalar _), Field.carries_default (carries_keywords _),
      Field.carries_default (carries_scalar _), Field.carries_default (carries_scalar _),
      Field.carries_default (carries_scalar _), Field.carries_default (carries_scalar _),
      Field.carries_default (carries_scalar _), Field.carries_default (carries_scalar _),
      Field.carries_default (carries_scalar _), Field.carries_default (carries_ads _), trivial⟩

theorem restores (page : PageContext) : PageContext.codec.Restores 2 page page :=
  page.carries.toRestores

/-- A text with a comma is two keywords where keywords are given as one text, and one keyword where
they are given as a list. -/
example :
    keywordTexts (.string "a, b") = ["a", "b"] ∧ keywordTexts (.array [.string "a, b"]) = ["a, b"] := by
  decide +kernel

end Exclusion.PageContext
