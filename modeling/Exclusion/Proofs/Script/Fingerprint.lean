/-
# Exclusion.Proofs.Script.Fingerprint -- a script tells two lists of rules apart

What stands in a script after its header is a function of the published rules (`Script.compile_congr`),
and they can be read back from it (`Script.body_inj`).  So scripts agree after their first lines exactly
if the same rules are published, and scripts compiled at one time agree altogether:
`Script.sources_agree_iff`.  A cache that compares texts compares what the rules do.

The placeholder is one line with nothing after it, which no script with rules is.
-/
import Exclusion.Proofs.Script.Reading

namespace Exclusion

set_option autoImplicit false

/-! ## After the first line -/

namespace Text

/-- The characters after the first line feed, if there is one. -/
def afterFirstLine (cs : List Char) : List Char :=
  (cs.dropWhile (· != '\n')).drop 1

/-- Everything is passed over up to the first line feed. -/
theorem dropWhile_append_of_not_mem {line : List Char} (free : '\n' ∉ line) (rest : List Char) :
    (line ++ rest).dropWhile (· != '\n') = rest.dropWhile (· != '\n') := by
  refine List.dropWhile_append_of_pos fun c member => ?_
  have other : c ≠ '\n' := fun same => free (same ▸ member)
  simpa using other

theorem afterFirstLine_append {line : List Char} (free : '\n' ∉ line) (rest : List Char) :
    afterFirstLine (line ++ '\n' :: rest) = rest := by
  rw [afterFirstLine, dropWhile_append_of_not_mem free]
  simp

theorem afterFirstLine_of_not_mem {line : List Char} (free : '\n' ∉ line) :
    afterFirstLine line = [] := by
  have passed := dropWhile_append_of_not_mem free []
  rw [List.append_nil] at passed
  rw [afterFirstLine, passed]
  rfl

end Text

/-- The rules do the same for pages: they may differ in id and date of creation. -/
def Rule.SameForPages (r r' : Rule) : Prop :=
  r' = { r with id := r'.id, createdAt := r'.createdAt }

theorem payload_eq_of_sameForPages {a b : List Rule}
    (same : List.Forall₂ Rule.SameForPages (activeRules a) (activeRules b)) :
    payload a = payload b := by
  unfold payload
  generalize activeRules a = rules, activeRules b = others at same ⊢
  induction same with
  | nil => rfl
  | @cons r r' _ _ first _ ih =>
      have published : PublishedRule.ofRule r = PublishedRule.ofRule r' := by
        rw [first]
        rfl
      rw [List.map_cons, List.map_cons, published, ih]

namespace Script

open Text

/-! ## The same rules, the same text -/

/-- A script depends on nothing but the published rules and the time. -/
theorem compile_congr {a b : List Rule} (same : payload a = payload b) (generatedAt : Instant) :
    compile a generatedAt = compile b generatedAt := by
  unfold compile
  rw [same]

theorem afterFirstLine_placeholder : afterFirstLine placeholder.toList = [] :=
  afterFirstLine_of_not_mem (by decide)

theorem afterFirstLine_header (generatedAt : Instant) (count : Nat) (rest : String) :
    afterFirstLine (header generatedAt count ++ rest).toList = rest.toList := by
  have line := isInline_headerLine generatedAt count
  have text : (header generatedAt count ++ rest).toList =
      headerLine generatedAt count ++ '\n' :: rest.toList := by
    rw [String.toList_append, toList_header, List.append_assoc, List.singleton_append]
  rw [text, afterFirstLine_append line.newline_not_mem]

/-! ## Other rules, another text -/

/-- The rules can be read back from the data that they stand for. -/
theorem payloadData_inj {a b : List Rule} :
    payloadData (payload a) = payloadData (payload b) ↔ payload a = payload b := by
  constructor
  · intro same
    have first := readText_payloadData a
    have second := readText_payloadData b
    rw [same] at first
    exact Except.ok.inj (first.symm.trans second)
  · intro same
    rw [same]

/-- So they can from all that follows the header: what is around the data is fixed. -/
theorem body_inj {a b : List Rule} : body (payload a) = body (payload b) ↔ payload a = payload b := by
  simp only [body, payloadLine, String.append_left_inj, String.append_right_inj, payloadData_inj]

theorem body_ne_empty (published : List PublishedRule) : (body published).toList ≠ [] := by
  intro nothing
  have length := congrArg List.length nothing
  simp [body, toList_opening] at length

/-- **Scripts agree after their first lines exactly if the same rules are published.** -/
theorem afterFirstLine_source_inj {a b : List Rule} (s t : Instant) :
    afterFirstLine (compile a s).source.toList = afterFirstLine (compile b t).source.toList ↔
      payload a = payload b := by
  by_cases idleA : payload a = [] <;> by_cases idleB : payload b = []
  · rw [compile_of_payload_eq_nil idleA, compile_of_payload_eq_nil idleB, idleA, idleB]
    exact iff_of_true rfl rfl
  · rw [compile_of_payload_eq_nil idleA, source_compile idleB, afterFirstLine_header]
    rw [afterFirstLine_placeholder, idleA]
    exact iff_of_false (body_ne_empty _).symm (Ne.symm idleB)
  · rw [source_compile idleA, compile_of_payload_eq_nil idleB, afterFirstLine_header]
    rw [afterFirstLine_placeholder, idleB]
    exact iff_of_false (body_ne_empty _) idleA
  · rw [source_compile idleA, source_compile idleB, afterFirstLine_header, afterFirstLine_header]
    rw [String.toList_inj, body_inj]

/-- Scripts compiled at one time agree exactly if the same rules are published. -/
theorem source_inj {a b : List Rule} (t : Instant) :
    (compile a t).source = (compile b t).source ↔ payload a = payload b := by
  constructor
  · intro same
    have first := readPayload_compile a t
    have second := readPayload_compile b t
    rw [same] at first
    exact Except.ok.inj (first.symm.trans second)
  · intro same
    rw [compile_congr same]

/-- The rule under another id, after one that is switched off. -/
def disguisedRules : List Rule :=
  [{ hostileRule with isActive := false }, { hostileRule with id := "r2" }]

end Script

end Exclusion
