/-
# Exclusion.Proofs.Script.Style -- which selectors stay in front of their block

A style rule is put into the page as a text: a selector, a space, and a block of declarations in
braces.  It is a single block (`IsSingleBlock`) if the text opens and closes once, at its very end, names
something before it opens, and begins no markup.  This is so exactly for the selectors that validation
accepts (`Effect.isSingleBlock_styleRule_iff`): a forbidden character would open or close a block of
its own or end the style element, and a blank selector names nothing.
-/
import Exclusion.Proofs.Rule.Validity
import Exclusion.Proofs.Script.Reading
import Exclusion.Script.Style

namespace Exclusion

set_option autoImplicit false

/-- The text is one style rule, and nothing that begins or ends another. -/
structure IsSingleBlock (css : String) : Prop where
  opens : css.toList.count '\x7b' = 1
  closes : css.toList.count '\x7d' = 1
  closed : css.toList.getLast? = some '\x7d'
  /-- What stands before the block is not blank. -/
  selects : (css.toList.takeWhile (· != '\x7b')).all Text.isBlank = false
  inert : '<' ∉ css.toList

/-! ## Selectors -/

theorem isForbiddenInSelector_iff {c : Char} :
    isForbiddenInSelector c = true ↔ c = '\x7b' ∨ c = '\x7d' ∨ c = '<' := by
  simp [isForbiddenInSelector, or_assoc]

/-- A selector is accepted if it is not blank and has none of the forbidden characters. -/
theorem selectorFlaws_eq_nil_iff {selector : String} :
    selectorFlaws selector = [] ↔ Text.isBlankText selector = false ∧
      ∀ c ∈ selector.toList, isForbiddenInSelector c = false := by
  rw [selectorFlaws]
  cases Text.isBlankText selector <;> simp [flawIf]

theorem Rule.selectorFlaws_eq_nil {r : Rule} (sound : r.flaws = []) :
    selectorFlaws r.selector = [] := by
  simp only [flaws, List.append_eq_nil_iff] at sound
  exact sound.1.2

/-! ## Style rules -/

namespace Effect

variable {effect : Effect} {selector : String}

theorem toList_styleRule (effect : Effect) (selector : String) :
    (effect.styleRule selector).toList =
      selector.toList ++ ' ' :: '\x7b' :: ' ' :: (effect.declarationText.toList ++ [' ', '\x7d']) := by
  simp [styleRule]

theorem isForbiddenInSelector_declarationText (effect : Effect) :
    ∀ c ∈ effect.declarationText.toList, isForbiddenInSelector c = false := by
  have plain : effect.declarationText.toList.any isForbiddenInSelector = false := by
    -- short texts are quicker to look through than the whole one
    rw [declarationText, String.toList_intercalate, List.map_map]
    simp only [Function.comp_def, String.toList_append]
    cases effect <;> decide +kernel
  intro c member
  exact Bool.eq_false_iff.2 (List.any_eq_false.1 plain c member)

/-- A style rule has the braces of its block and the forbidden characters of its selector. -/
theorem count_styleRule {c : Char} (forbidden : isForbiddenInSelector c = true) :
    (effect.styleRule selector).toList.count c =
      selector.toList.count c + if c = '<' then 0 else 1 := by
  have absent : effect.declarationText.toList.count c = 0 := by
    refine List.count_eq_zero.2 fun member => ?_
    rw [effect.isForbiddenInSelector_declarationText c member] at forbidden
    cases forbidden
  rw [toList_styleRule]
  rcases isForbiddenInSelector_iff.1 forbidden with rfl | rfl | rfl <;>
    simp [absent]

theorem not_mem_selector_iff {c : Char} (forbidden : isForbiddenInSelector c = true) :
    c ∉ selector.toList ↔
      (effect.styleRule selector).toList.count c = if c = '<' then 0 else 1 := by
  rw [count_styleRule forbidden, ← List.count_eq_zero]
  omega

/-- What stands before the block is the selector and a space. -/
theorem takeWhile_styleRule (plain : '\x7b' ∉ selector.toList) :
    (effect.styleRule selector).toList.takeWhile (· != '\x7b') = selector.toList ++ [' '] := by
  have passed : ∀ c ∈ selector.toList, (c != '\x7b') = true :=
    fun c member => bne_iff_ne.2 fun same => plain (same ▸ member)
  rw [toList_styleRule, List.takeWhile_append_of_pos passed]
  rfl

/-- **A style rule is a single block exactly if its selector is one that may be stored.** -/
theorem isSingleBlock_styleRule_iff :
    IsSingleBlock (effect.styleRule selector) ↔ selectorFlaws selector = [] := by
  have blank : (selector.toList ++ [' ']).all Text.isBlank = Text.isBlankText selector := by
    rw [List.all_append, Text.isBlankText, show [' '].all Text.isBlank = true by decide,
      Bool.and_true]
  rw [selectorFlaws_eq_nil_iff]
  constructor
  · intro block
    have opens : '\x7b' ∉ selector.toList := (not_mem_selector_iff rfl).2 block.opens
    have closes : '\x7d' ∉ selector.toList := (not_mem_selector_iff rfl).2 block.closes
    have inert : '<' ∉ selector.toList :=
      (not_mem_selector_iff rfl).2 (List.count_eq_zero.2 block.inert)
    refine ⟨?_, fun c member => ?_⟩
    · rw [← blank, ← takeWhile_styleRule opens]
      exact block.selects
    · by_contra forbidden
      rcases isForbiddenInSelector_iff.1 (Bool.not_eq_false _ ▸ forbidden) with rfl | rfl | rfl
      · exact opens member
      · exact closes member
      · exact inert member
  · rintro ⟨selects, plain⟩
    have absent : ∀ {c}, isForbiddenInSelector c = true → c ∉ selector.toList := by
      intro c forbidden member
      cases (plain c member).symm.trans forbidden
    exact {
      opens := (not_mem_selector_iff rfl).1 (absent rfl)
      closes := (not_mem_selector_iff rfl).1 (absent rfl)
      closed := by
        refine List.getLast?_eq_some_iff.2
          ⟨selector.toList ++ ' ' :: '\x7b' :: ' ' :: (effect.declarationText.toList ++ [' ']), ?_⟩
        simp [toList_styleRule]
      selects := by
        rw [takeWhile_styleRule (absent rfl), blank]
        exact selects
      inert := List.count_eq_zero.1 ((not_mem_selector_iff rfl).1 (absent rfl)) }

end Effect

namespace Script

/-- **The rules of a script that was compiled from rules that may be stored have single blocks.** -/
theorem isSingleBlock_of_compiled {rules : List Rule} (valid : isValidRuleSet rules = true)
    (generatedAt : Instant) :
    ∃ published, readPayload (compile rules generatedAt).source = .ok published ∧
      ∀ p ∈ published, IsSingleBlock (p.effect.styleRule p.selector) := by
  refine ⟨payload rules, readPayload_compile rules generatedAt, fun p member => ?_⟩
  obtain ⟨r, active, rfl⟩ := List.mem_map.1 member
  have sound := (isValidRuleSet_iff.1 valid).1 r (List.mem_of_mem_filter active)
  exact Effect.isSingleBlock_styleRule_iff.2 (Rule.selectorFlaws_eq_nil sound)

end Script

end Exclusion
