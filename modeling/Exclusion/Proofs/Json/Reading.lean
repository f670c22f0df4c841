/-
# Exclusion.Proofs.Json.Reading -- the document of a value's text is that value

Doubles aside, a value is read from its compact text as it was written: `Document.ofText_render`.  The
induction is on the value, its items and its members at once, with any containers open around it
(`Scan.run_chars`).
-/
import Exclusion.Proofs.Json.Token

namespace Exclusion.Json

set_option autoImplicit false

/-! ## Values with whole numbers -/

mutual

/-- All numbers of the value are whole numbers of 64 bits. -/
def IsIntegral : Json → Prop
  | .number n => n.IsIntegral
  | .array items => AreIntegral items
  | .object members => MembersAreIntegral members
  | .null | .bool _ | .string _ => True

/-- All numbers of the items are whole numbers of 64 bits. -/
def AreIntegral : List Json → Prop
  | [] => True
  | v :: rest => IsIntegral v ∧ AreIntegral rest

/-- All numbers of the members are whole numbers of 64 bits. -/
def MembersAreIntegral : List (String × Json) → Prop
  | [] => True
  | (_, v) :: rest => IsIntegral v ∧ MembersAreIntegral rest

end

/-! ## Reading -/

namespace Scan

theorem run_word {p : Phase} (awaits : AwaitsValue p) (frames : List Frame) (rest : List Char) :
    run ⟨p, frames⟩ ("null".toList ++ rest) = run (complete frames .null) rest ∧
      run ⟨p, frames⟩ ("true".toList ++ rest) = run (complete frames (.bool true)) rest ∧
      run ⟨p, frames⟩ ("false".toList ++ rest) = run (complete frames (.bool false)) rest := by
  refine ⟨?_, ?_, ?_⟩ <;>
  · show run ⟨p, frames⟩ (_ :: _) = _
    rw [run_cons (step?_begin awaits frames (by decide) (by decide))]
    rfl

/-- A string is read as a value. -/
theorem run_string {p : Phase} (awaits : AwaitsValue p) (s : String) (frames : List Frame)
    (rest : List Char) :
    run ⟨p, frames⟩ (stringChars s ++ rest) = run (complete frames (.string (some s))) rest := by
  have begun : (Scan.mk p frames).step? '"' = some ⟨.text false {}, frames⟩ := by
    rw [step?_begin awaits frames (by decide) (by decide)]
    rfl
  rw [stringChars, List.cons_append, List.cons_append, List.append_assoc, run_cons begun]
  exact run_stringChars s false frames rest

/-- A key with its colon is read. -/
theorem run_key {p : Phase} (awaits : p = .firstKey ∨ p = .nextKey) (k : String)
    (done : List (Option String × Node)) (outer : List Frame) (rest : List Char) :
    run ⟨p, .object done :: outer⟩ (stringChars k ++ ':' :: rest) =
      run ⟨.start, .member done (some k) :: outer⟩ rest := by
  have begun : (Scan.mk p (.object done :: outer)).step? '"' =
      some ⟨.text true {}, .object done :: outer⟩ := by
    rcases awaits with rfl | rfl <;> rfl
  rw [stringChars, List.cons_append, List.cons_append, List.append_assoc, run_cons begun]
  exact run_stringChars k true (.object done :: outer) (':' :: rest)

mutual

/-- The text of a value is read as that value, wherever it stands. -/
theorem run_chars : ∀ (v : Json) (_ : IsIntegral v) {p : Phase} (_ : AwaitsValue p)
    (frames : List Frame) {rest : List Char} (_ : EndsNumber rest),
    run ⟨p, frames⟩ (chars v ++ rest) = run (complete frames (toNode v)) rest
  | .null, _, _, awaits, frames, rest, _ => (run_word awaits frames rest).1
  | .bool true, _, _, awaits, frames, rest, _ => (run_word awaits frames rest).2.1
  | .bool false, _, _, awaits, frames, rest, _ => (run_word awaits frames rest).2.2
  | .number (.int i), integral, _, awaits, frames, _, ends => run_renderInt integral awaits frames ends
  | .number (.float _), integral, _, _, _, _, _ => absurd integral id
  | .string s, _, _, awaits, frames, rest, _ => run_string awaits s frames rest
  | .array items, integral, p, awaits, frames, rest, _ => by
      have begun : (Scan.mk p frames).step? '[' = some ⟨.firstItem, .array [] :: frames⟩ := by
        rw [step?_begin awaits frames (by decide) (by decide)]
        rfl
      rw [chars, List.cons_append, List.cons_append, List.append_assoc, run_cons begun]
      cases items with
      | nil => rfl
      | cons v items => exact 
              run_itemChars (v :: items) (by simp) integral (p := .firstItem) trivial [] frames rest
  | .object members, integral, p, awaits, frames, rest, _ => by
      have begun : (Scan.mk p frames).step? '\x7b' = some ⟨.firstKey, .object [] :: frames⟩ := by
        rw [step?_begin awaits frames (by decide) (by decide)]
        rfl
      rw [chars, List.cons_append, List.cons_append, List.append_assoc, run_cons begun]
      cases members with
      | nil => rfl
      | cons m members =>
          exact run_memberChars (m :: members) (by simp) integral (.inl rfl) [] frames rest

/-- The items of an array are read up to its bracket. -/
theorem run_itemChars : ∀ (items : List Json) (_ : items ≠ []) (_ : AreIntegral items) {p : Phase}
    (_ : AwaitsValue p) (done : List Node) (outer : List Frame) (rest : List Char),
    run ⟨p, .array done :: outer⟩ (itemChars items ++ ']' :: rest) =
      run (complete outer (.array (done.reverse ++ toNodes items) .closed)) rest
  | [v], _, integral, _, awaits, done, outer, rest => by
      have ends : EndsNumber (']' :: rest) := .inr (.inl rfl)
      rw [itemChars, run_chars v integral.1 awaits _ ends]
      simp [complete, run, step?, stepAfter?, isSpace, close?, toNodes]
  | v :: w :: items, _, integral, _, awaits, done, outer, rest => by
      have ends : EndsNumber (',' :: (itemChars (w :: items) ++ ']' :: rest)) := .inl rfl
      have next : (Scan.mk .after (.array (toNode v :: done) :: outer)).step? ',' =
          some ⟨.nextItem, .array (toNode v :: done) :: outer⟩ := rfl
      rw [itemChars, List.append_assoc, List.cons_append, run_chars v integral.1 awaits _ ends,
        complete, run_cons next,
        run_itemChars (w :: items) (by simp) integral.2 (p := .nextItem) trivial]
      simp [toNodes]

/-- The members of an object are read up to its bracket. -/
theorem run_memberChars : ∀ (members : List (String × Json)) (_ : members ≠ [])
    (_ : MembersAreIntegral members) {p : Phase} (_ : p = .firstKey ∨ p = .nextKey)
    (done : List (Option String × Node)) (outer : List Frame) (rest : List Char),
    run ⟨p, .object done :: outer⟩ (memberChars members ++ '\x7d' :: rest) =
      run (complete outer (.object (done.reverse ++ toMembers members) .closed)) rest
  | [(k, v)], _, integral, _, awaits, done, outer, rest => by
      have ends : EndsNumber ('\x7d' :: rest) := .inr (.inr rfl)
      rw [memberChars, List.append_assoc, List.cons_append, run_key awaits,
        run_chars v integral.1 (p := .start) trivial _ ends]
      simp [complete, run, step?, stepAfter?, isSpace, close?, toMembers]
  | (k, v) :: m :: members, _, integral, _, awaits, done, outer, rest => by
      have ends : EndsNumber (',' :: (memberChars (m :: members) ++ '\x7d' :: rest)) := .inl rfl
      have next : (Scan.mk .after (.object ((some k, toNode v) :: done) :: outer)).step? ',' =
          some ⟨.nextKey, .object ((some k, toNode v) :: done) :: outer⟩ := rfl
      rw [memberChars, List.append_assoc, List.append_assoc, List.cons_append, List.cons_append,
        run_key awaits, run_chars v integral.1 (p := .start) trivial _ ends, complete, run_cons next,
        run_memberChars (m :: members) (by simp) integral.2 (.inr rfl)]
      simp [toMembers]

end

end Scan

/-- **Reading what was written.**  The document of a value's text holds that value and nothing else. -/
theorem Document.ofText_render {v : Json} (integral : v.IsIntegral) :
    Document.ofText v.render = ⟨v.toNode, false⟩ := by
  have ends : Scan.EndsNumber [] := trivial
  have read := Scan.run_chars v integral (p := .start) trivial [] ends
  rw [List.append_nil] at read
  rw [ofText, render, String.toList_ofList, ofChars]
  exact read

end Exclusion.Json
