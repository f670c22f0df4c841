/-
# Exclusion.Proofs.Script.SafeText -- escaping keeps the value of any JSON text

A text that holds a value holds the same value after it was escaped for a script, whoever wrote it and
however deep it is nested; none of the characters that could end the script element or the line is left,
and nothing is escaped twice (`Script.escaping_keeps_value`).

The value is what matters here.  A text that holds none may hold one afterwards: a backslash before an
angle bracket begins no escape of JSON, but it goes with the backslash of the escape that takes the place
of the bracket.
-/
import Exclusion.Proofs.Json.Origin
import Exclusion.Proofs.Script.Escaping

namespace Exclusion

set_option autoImplicit false

open Exclusion.Json

namespace Json

/-! ## Texts that hold a value -/

/-- The value that a text holds, all of it, if arrays and objects are nested at most so deep. -/
def valueOf (levels : Nat) (text : String) : Except DecodeError Json := do
  let document := Document.ofText text
  let v ← document.root.toJson (.text levels)
  if document.trailing then stopped .malformed else return v

theorem valueOf_ofList (levels : Nat) (cs : List Char) :
    valueOf levels (.ofList cs) = (do
      let v ← (Document.ofChars cs).root.toJson (.text levels)
      if (Document.ofChars cs).trailing then stopped .malformed else return v) := by
  rw [valueOf, Document.ofText, String.toList_ofList]

/-- What is read as any JSON value is a text that is nested at most 127 levels deep. -/
theorem readText_json (text : String) : Codec.json.readText text = valueOf maxLevels text :=
  rfl

theorem finish_eq_ok {ending : Ending} (finished : Node.finish ending = .ok ()) : ending = .closed := by
  cases ending with
  | closed => rfl
  | severed fault afterComma => cases finished

/-- Only of an intact node a value is made. -/
theorem isIntact_of_toJson {source : Source} {node : Node} {v : Json}
    (made : node.toJson source = .ok v) : node.isIntact = true := by
  cases node with
  | array items ending =>
      rw [Node.toJson] at made
      obtain ⟨inner, -, made⟩ := except_bind_eq_ok.1 made
      obtain ⟨values, -, made⟩ := except_bind_eq_ok.1 made
      obtain ⟨⟨⟩, finished, -⟩ := except_bind_eq_ok.1 made
      rw [finish_eq_ok finished]
      rfl
  | object members ending =>
      rw [Node.toJson] at made
      obtain ⟨inner, -, made⟩ := except_bind_eq_ok.1 made
      obtain ⟨values, -, made⟩ := except_bind_eq_ok.1 made
      obtain ⟨⟨⟩, finished, -⟩ := except_bind_eq_ok.1 made
      rw [finish_eq_ok finished]
      rfl
  | broken fault => cases made
  | null | bool b | number n | string s => rfl

/-- A text that holds a value is JSON to its end. -/
theorem isIntact_of_valueOf {levels : Nat} {text : String} {v : Json}
    (parses : valueOf levels text = .ok v) : (Document.ofText text).isIntact = true := by
  obtain ⟨w, made, ends⟩ := except_bind_eq_ok.1 parses
  rw [Document.isIntact, isIntact_of_toJson made]
  cases trailing : (Document.ofText text).trailing with
  | false => rfl
  | true =>
      rw [trailing] at ends
      cases ends

end Json

namespace Script

/-- A text as it stands in a script. -/
def safeText (text : String) : String :=
  .ofList (safeChars text.toList)

theorem safeChars_of_plain {cs : List Char} (plain : ∀ c ∈ cs, ¬ IsEscaped c) : safeChars cs = cs := by
  induction cs with
  | nil => rfl
  | cons c cs ih =>
      obtain ⟨first, rest⟩ := List.forall_mem_cons.1 plain
      show safeChar c ++ safeChars cs = _
      rw [safeChar_of_plain first, ih rest, List.singleton_append]

/-- Nothing is escaped twice. -/
theorem safeText_safeText (text : String) : safeText (safeText text) = safeText text := by
  have plain : ∀ c ∈ safeChars text.toList, ¬ IsEscaped c :=
    fun c member escaped => not_mem_safeChars escaped _ member
  rw [safeText, safeText, String.toList_ofList, safeChars_of_plain plain]

/-- **Escaping keeps the value of a text.**  What is escaped holds the same value, has no angle bracket and
no separator of lines or paragraphs, and stays as it is when it is escaped again. -/
theorem escaping_keeps_value {levels : Nat} {text : String} {v : Json}
    (parses : valueOf levels text = .ok v) :
    valueOf levels (safeText text) = .ok v ∧
      (∀ c ∈ (safeText text).toList, c ≠ '<' ∧ c ≠ '\u2028' ∧ c ≠ '\u2029') ∧
      safeText (safeText text) = safeText text := by
  refine ⟨?_, ?_, safeText_safeText text⟩
  · have same : Document.ofText (safeText text) = Document.ofText text := by
      rw [Document.ofText, safeText, String.toList_ofList,
        Document.ofChars_safeChars (isIntact_of_valueOf parses), Document.ofText]
    rw [valueOf, same]
    exact parses
  · intro c member
    rw [safeText, String.toList_ofList] at member
    refine ⟨?_, ?_, ?_⟩
    · rintro rfl
      exact not_mem_safeChars (.inl rfl) _ member
    · rintro rfl
      exact not_mem_safeChars (.inr (.inl rfl)) _ member
    · rintro rfl
      exact not_mem_safeChars (.inr (.inr rfl)) _ member

/-- An object in an array: a bracket in its key, one after two backslashes, one that is an escape, and one
after a separator. -/
def bracketedChars : List Char :=
  ['[', '\x7b', '"', '<', 'a', '"', ':', '"', '\\', '\\', '<', '\\', 'u', '0', '0', '3', 'c', '\u2028', '<',
    '"', '\x7d', ']']

theorem escaping_keeps_value_bracketedChars :
    Codec.json.readText (.ofList bracketedChars) =
        .ok (.array [.object [("<a", .string "\\<<\u2028<")]]) ∧
      Codec.json.readText (safeText (.ofList bracketedChars)) =
        .ok (.array [.object [("<a", .string "\\<<\u2028<")]]) ∧
      (∀ c ∈ (safeText (.ofList bracketedChars)).toList, c ≠ '<' ∧ c ≠ '\u2028' ∧ c ≠ '\u2029') ∧
      safeText (safeText (.ofList bracketedChars)) = safeText (.ofList bracketedChars) := by
  have parses : valueOf maxLevels (.ofList bracketedChars) =
      .ok (.array [.object [("<a", .string "\\<<\u2028<")]]) := by
    rw [valueOf_ofList]
    rfl
  rw [readText_json, readText_json]
  exact ⟨parses, escaping_keeps_value parses⟩

/-- The text of a backslash and a bracket holds no value, and holds one when it is escaped. -/
example :
    valueOf 0 (.ofList ['"', '\\', '<', '"']) = .error (.stopped .malformed) ∧
      valueOf 0 (.ofList (safeChars ['"', '\\', '<', '"'])) = .ok (.string "\\u003c") := by
  rw [valueOf_ofList, valueOf_ofList]
  exact ⟨rfl, rfl⟩

end Script

end Exclusion
