/-
# Exclusion.Proofs.Script.Reading -- a script carries the rules that it was compiled from

Whatever the names, values and selectors of the rules are, `readPayload` finds the published forms of
the active rules in their script, all of them and in their order: `Script.readPayload_compile`.  A
script is the placeholder exactly if no rule is active (`Script.isPlaceholder_compile`).

The rules stand on a line of their own (`Script.lineChars_frame`), and it is the first line that begins
as it does because the three lines before it are fixed but for a time and a number.
-/
import Exclusion.Proofs.Script.Layout

namespace Exclusion

set_option autoImplicit false

open Exclusion.Json

/-- The text of a value is read back when it was escaped for a script. -/
theorem Json.Codec.Restores.readText_safeChars {α : Type} {codec : Codec α} {a b : α}
    (restores : codec.Restores maxLevels a b) :
    codec.readText (.ofList (Script.safeChars (codec.encode a).chars)) = .ok b := by
  have document : Document.ofChars (codec.encode a).chars = ⟨(codec.encode a).toNode, false⟩ := by
    rw [← Document.ofText_render restores.integral, Document.ofText, Json.render,
      String.toList_ofList]
  have intact : (Document.ofChars (codec.encode a).chars).isIntact = true := by
    rw [document]
    simp [Document.isIntact, isIntact_toNode]
  have same : Document.ofText (.ofList (Script.safeChars (codec.encode a).chars)) =
      Document.ofText (codec.text a) := by
    rw [Document.ofText, String.toList_ofList, Document.ofChars_safeChars intact, Document.ofText,
      Codec.text, Json.render, String.toList_ofList]
  have read := restores.readText_text
  unfold Codec.readText at read ⊢
  rwa [same]

namespace Script

open Text

theorem readText_payloadData (rules : List Rule) :
    PublishedRule.listCodec.readText (payloadData (payload rules)) = .ok (payload rules) :=
  ((PublishedRule.restores_payload rules).mono (by decide)).readText_safeChars

/-! ## The line with the rules -/

/-- The rules are found where they were put. -/
theorem payloadText?_script (generatedAt : Instant) (count : Nat) (rules : List Rule) :
    payloadText? (header generatedAt count ++ body (payload rules)) =
      some (payloadData (payload rules)) := by
  have lines := lineChars_frame (isInert_payloadData rules) generatedAt count
  have passed : dropLeading? payloadStart.toList (headerLine generatedAt count) = none := rfl
  have found : (lineChars (header generatedAt count ++ body (payload rules)).toList).findSome?
      (dropLeading? payloadStart.toList) =
      some ((payloadData (payload rules)).toList ++ [';']) := by
    rw [header_body, lines, frameLines, List.findSome?_cons_of_isNone (by rw [passed]; rfl),
      List.findSome?_cons_of_isNone (by decide), List.findSome?_cons_of_isNone (by decide),
      List.findSome?_cons, dataLine, dropLeading?_append]
  have trimmed := trimEnd_append (c := ';') (by decide) (payloadData (payload rules)).toList
  rw [payloadText?, found]
  simp [trimmed]

/-! ## The whole script -/

/-- A script with a header is not the placeholder. -/
theorem isPlaceholder_header (generatedAt : Instant) (count : Nat) (rest : String) :
    isPlaceholder (header generatedAt count ++ rest) = false := by
  by_contra same
  simp only [Bool.not_eq_false, isPlaceholder, beq_iff_eq] at same
  obtain ⟨more, begins⟩ : ∃ more, (header generatedAt count ++ rest).toList =
      '/' :: '*' :: '*' :: more :=
    ⟨_, by rw [String.toList_append, toList_header]; rfl⟩
  have untrimmed : trimStart ('/' :: '*' :: '*' :: more) = '/' :: '*' :: '*' :: more :=
    List.dropWhile_cons_of_neg (by decide)
  have trimmed : placeholder.toList <+: '/' :: '*' :: '*' :: more := by
    rw [← same, toList_trim, begins, trimChars, untrimmed]
    exact trimEnd_prefix _
  obtain ⟨left, same⟩ := trimmed
  have third : (' ' : Char) = '*' := congrArg (fun cs : List Char => cs.getD 2 'x') same
  exact absurd third (by decide)

theorem isPlaceholder_placeholder : isPlaceholder placeholder = true := by
  decide

/-- A script is the placeholder exactly if it has no rules. -/
theorem isPlaceholder_compile (rules : List Rule) (generatedAt : Instant) :
    isPlaceholder (compile rules generatedAt).source = (payload rules).isEmpty := by
  by_cases idle : payload rules = []
  · rw [compile_of_payload_eq_nil idle, idle]
    exact isPlaceholder_placeholder
  · rw [source_compile idle, isPlaceholder_header]
    simp [idle]

/-- **A script carries the rules that it was compiled from.** -/
theorem readPayload_compile (rules : List Rule) (generatedAt : Instant) :
    readPayload (compile rules generatedAt).source = .ok (payload rules) := by
  rw [readPayload, isPlaceholder_compile]
  by_cases idle : payload rules = []
  · simp [idle]
  · rw [source_compile idle, payloadText?_script]
    simp [idle, readText_payloadData, Except.mapError]

end Script

end Exclusion
