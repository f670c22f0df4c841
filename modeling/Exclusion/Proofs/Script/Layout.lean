/-
# Exclusion.Proofs.Script.Layout -- the lines of a script

A script with rules is made of lines: the header, two fixed lines, the line with the rules, the lines of
the interpreter and the line that closes the function (`Script.lineChars_frame`).  What rules say goes
into one of them only, and there nothing can end the line or the script element
(`Script.isInert_payloadData`).  So whatever the rules are, their script is the same text around
other data: `Script.compile_confines_rules`.
-/
import Exclusion.Proofs.Rule.Firing
import Exclusion.Proofs.Script.Escaping
import Exclusion.Proofs.Text.Markup

namespace Exclusion.Script

set_option autoImplicit false

open Exclusion.Json Exclusion.Text

/-! ## The data -/

theorem isInline_safeChars {cs : List Char} (inline : IsInline cs) : IsInline (safeChars cs) := by
  refine isInline_flatMap (fun c visible => ?_) inline
  unfold safeChar
  split_ifs
  iterate 3 decide
  simpa using visible

/-- The characters can neither end the line or the script element that they stand in, nor begin
another: there is no control character, no `<` and no line end of any other kind. -/
structure IsInert (cs : List Char) : Prop where
  inline : IsInline cs
  noMarkup : '<' ∉ cs
  noLineSeparator : '\u2028' ∉ cs
  noParagraphSeparator : '\u2029' ∉ cs

theorem isInert_safeChars {cs : List Char} (inline : IsInline cs) : IsInert (safeChars cs) where
  inline := isInline_safeChars inline
  noMarkup := not_mem_safeChars (.inl rfl) cs
  noLineSeparator := not_mem_safeChars (.inr (.inl rfl)) cs
  noParagraphSeparator := not_mem_safeChars (.inr (.inr rfl)) cs

/-- **Rules stand in a script as inert data**, whatever their names, values and selectors are. -/
theorem isInert_payloadData (rules : List Rule) : IsInert (payloadData (payload rules)).toList := by
  have written : IsInline (PublishedRule.listCodec.encode (payload rules)).chars :=
    isInline_chars _ (PublishedRule.restores_payload rules).integral
  rw [payloadData, String.toList_ofList]
  exact isInert_safeChars written

/-! ## Fixed lines -/

/-- The header without its line feed. -/
def headerLine (generatedAt : Instant) (count : Nat) : List Char :=
  headerStart.toList ++ generatedAt.renderMillis.toList ++ headerMiddle.toList ++
    (Number.renderInt count).toList ++ " */".toList

theorem toList_header (generatedAt : Instant) (count : Nat) :
    (header generatedAt count).toList = headerLine generatedAt count ++ ['\n'] := by
  simp [header, headerLine]

theorem isInline_headerLine (generatedAt : Instant) (count : Nat) :
    IsInline (headerLine generatedAt count) := by
  have fixed : IsInline headerStart.toList ∧ IsInline headerMiddle.toList ∧
      IsInline " */".toList := by decide
  simp [headerLine, fixed, Instant.isInline_renderMillis, isInline_renderInt]

theorem hasNoMarkup_headerLine (generatedAt : Instant) (count : Nat) :
    HasNoMarkup (headerLine generatedAt count) := by
  have fixed : '<' ∉ headerStart.toList ∧ '<' ∉ headerMiddle.toList ∧ '<' ∉ " */".toList := by
    decide
  have time : '<' ∉ generatedAt.renderMillis.toList := by
    intro member
    rcases Instant.isDateText_renderMillis generatedAt _ member with digit | mark
    · exact absurd digit (by decide)
    · exact absurd mark (by decide)
  have number : '<' ∉ (Number.renderInt count).toList := by
    intro member
    rcases mem_renderInt member with minus | digit
    · exact absurd minus (by decide)
    · exact absurd digit (by decide)
  refine hasNoMarkup_of_not_mem ?_
  simp only [headerLine, List.mem_append, fixed, time, number, or_self, not_false_eq_true]

/-- The first line after the header. -/
def functionLine : List Char :=
  "(function () \x7b".toList

/-- The line before the rules. -/
def strictLine : List Char :=
  "  \"use strict\";".toList

theorem toList_opening : opening.toList = functionLine ++ '\n' :: (strictLine ++ ['\n']) := by
  decide

/-- The last line. -/
def closingLine : List Char :=
  "\x7d)();".toList

theorem toList_closing : closing.toList = closingLine ++ ['\n'] := by
  decide

/-- The line stays a line, and no markup begins in it. -/
def IsPlainLine (line : List Char) : Prop :=
  IsInline line ∧ HasNoMarkup line

instance (line : List Char) : Decidable (IsPlainLine line) :=
  inferInstanceAs (Decidable (_ ∧ _))

theorem IsPlainLine.of_chars {s : String} {cs : List Char} (written : s = .ofList cs)
    (plain : IsPlainLine cs) : IsPlainLine s.toList := by
  rw [written, String.toList_ofList]
  exact plain

/-- Every line of the interpreter is one line, and compares with `<` where no markup begins. -/
theorem isPlainLine_interpreter : ∀ line ∈ interpreterLines, IsPlainLine line.toList := by
  unfold interpreterLines
  -- the characters of each line are checked as a list: texts are slow to take apart in the kernel
  repeat refine List.forall_mem_cons.2 ⟨.of_chars rfl (by decide +kernel), ?_⟩
  exact List.forall_mem_nil _

theorem toList_interpreter :
    interpreter.toList = (interpreterLines.map String.toList).flatMap (· ++ ['\n']) := by
  simp [interpreter, String.toList_join, List.flatMap_map]

/-! ## All lines -/

/-- A script with this data in the place of its rules. -/
def frame (generatedAt : Instant) (count : Nat) (data : String) : String :=
  header generatedAt count ++ (opening ++ (payloadStart ++ data ++ ";\n") ++ interpreter ++ closing)

/-- The line with the data, without its line feed. -/
def dataLine (data : String) : List Char :=
  payloadStart.toList ++ (data.toList ++ [';'])

/-- The lines of a script with this data. -/
def frameLines (generatedAt : Instant) (count : Nat) (data : String) : List (List Char) :=
  headerLine generatedAt count :: functionLine :: strictLine :: dataLine data ::
    (interpreterLines.map String.toList ++ [closingLine])

theorem toList_frame (generatedAt : Instant) (count : Nat) (data : String) :
    (frame generatedAt count data).toList =
      (frameLines generatedAt count data).flatMap (· ++ ['\n']) := by
  have last : (";\n" : String).toList = [';'] ++ ['\n'] := by decide
  simp only [frame, frameLines, dataLine, String.toList_append, toList_header, toList_opening,
    toList_interpreter, toList_closing, last, List.flatMap_cons, List.flatMap_append,
    List.flatMap_nil, List.append_assoc, List.cons_append, List.nil_append]

variable {data : String} (inert : IsInert data.toList)
include inert

theorem isPlainLine_frameLines (generatedAt : Instant) (count : Nat) :
    ∀ line ∈ frameLines generatedAt count data, IsPlainLine line := by
  have fixed : IsPlainLine functionLine ∧ IsPlainLine strictLine ∧ IsPlainLine closingLine := by
    decide
  have inline : IsInline (dataLine data) := by
    have ends : IsInline payloadStart.toList ∧ IsInline [';'] := by decide
    simp [dataLine, ends, inert.inline]
  have noMarkup : '<' ∉ dataLine data := by
    have ends : '<' ∉ payloadStart.toList ∧ '<' ∉ [';'] := by decide
    simp only [dataLine, List.mem_append, ends, inert.noMarkup, or_self, not_false_eq_true]
  intro line member
  simp only [frameLines, List.mem_cons, List.mem_append, List.mem_map, List.not_mem_nil,
    or_false] at member
  rcases member with rfl | rfl | rfl | rfl | ⟨text, listed, rfl⟩ | rfl
  · exact ⟨isInline_headerLine generatedAt count, hasNoMarkup_headerLine generatedAt count⟩
  · exact fixed.1
  · exact fixed.2.1
  · exact ⟨inline, hasNoMarkup_of_not_mem noMarkup⟩
  · exact isPlainLine_interpreter text listed
  · exact fixed.2.2

/-- **The lines of a script are those that it was put together from.** -/
theorem lineChars_frame (generatedAt : Instant) (count : Nat) :
    lineChars (frame generatedAt count data).toList = frameLines generatedAt count data := by
  rw [toList_frame]
  exact lineChars_flatMap fun line member =>
    (isPlainLine_frameLines inert generatedAt count line member).1

/-- No markup begins anywhere in a script. -/
theorem hasNoMarkup_frame (generatedAt : Instant) (count : Nat) :
    HasNoMarkup (frame generatedAt count data).toList := by
  rw [toList_frame]
  exact hasNoMarkup_flatMap fun line member =>
    (isPlainLine_frameLines inert generatedAt count line member).2

omit inert

/-! ## Compiled scripts -/

theorem header_body (generatedAt : Instant) (count : Nat) (published : List PublishedRule) :
    header generatedAt count ++ body published = frame generatedAt count (payloadData published) :=
  rfl

/-- The script of rules some of which are active. -/
theorem source_compile {rules : List Rule} (live : payload rules ≠ []) (generatedAt : Instant) :
    (compile rules generatedAt).source =
      header generatedAt (payload rules).length ++ body (payload rules) := by
  unfold compile
  split
  · contradiction
  · rfl

/-- The script of rules none of which is active. -/
theorem compile_of_payload_eq_nil {rules : List Rule} (idle : payload rules = [])
    (generatedAt : Instant) : compile rules generatedAt = ⟨placeholder, 0, generatedAt⟩ := by
  unfold compile
  rw [idle]

/-- The number of rules in a script is the number of active rules. -/
theorem ruleCount_compile (rules : List Rule) (generatedAt : Instant) :
    (compile rules generatedAt).ruleCount = (activeRules rules).length := by
  have count : (payload rules).length = (activeRules rules).length := List.length_map _
  rw [← count, compile]
  split
  · rename_i idle
    rw [idle]
    rfl
  · rfl

/-- **Rules cannot break out of their script.**  Whatever they say, their script is the text that it is
for all other rules, but for the time and the count in the header and the data on its one line.  The
data is inert, so the script has always as many lines, and no markup begins in it. -/
theorem compile_confines_rules {rules : List Rule} (live : ∃ r ∈ rules, r.isActive = true)
    (generatedAt : Instant) :
    ∃ data : String, IsInert data.toList ∧
      (compile rules generatedAt).source =
        frame generatedAt (activeRules rules).length data ∧
      lineChars (compile rules generatedAt).source.toList =
        frameLines generatedAt (activeRules rules).length data ∧
      (lineChars (compile rules generatedAt).source.toList).length = interpreterLines.length + 5 ∧
      contains (compile rules generatedAt).source "</" = false ∧
      contains (compile rules generatedAt).source "<!" = false := by
  have inert := isInert_payloadData rules
  have count : (payload rules).length = (activeRules rules).length := List.length_map _
  have source : (compile rules generatedAt).source =
      frame generatedAt (activeRules rules).length (payloadData (payload rules)) := by
    rw [source_compile (payload_ne_nil.2 live), header_body, count]
  have lines := lineChars_frame inert generatedAt (activeRules rules).length
  have free := hasNoMarkup_frame inert generatedAt (activeRules rules).length
  rw [source]
  refine ⟨payloadData (payload rules), inert, rfl, lines, ?_, ?_, ?_⟩
  · rw [lines]
    simp [frameLines]
  · exact free.contains_eq_false (d := '/') (by decide) (.inl rfl)
  · exact free.contains_eq_false (d := '!') (by decide) (.inr rfl)

/-- A rule whose name and selector would end the script element, the line and the list of rules. -/
def hostileRule : Rule :=
  (Rule.new "r1" "</script><script>alert(1)</script>\u2028" "];\n</script><!--" .epoch).addCondition
    { signal := .keywords, operator := .unknown, value := "\\u003c\"", caseSensitive := false }

theorem compile_confines_hostileRule :
    (∃ r ∈ [hostileRule], r.isActive = true) ∧
    ∃ data : String, IsInert data.toList ∧
      (compile [hostileRule] .epoch).source = frame .epoch (activeRules [hostileRule]).length data ∧
      lineChars (compile [hostileRule] .epoch).source.toList =
        frameLines .epoch (activeRules [hostileRule]).length data ∧
      (lineChars (compile [hostileRule] .epoch).source.toList).length =
        interpreterLines.length + 5 ∧
      contains (compile [hostileRule] .epoch).source "</" = false ∧
      contains (compile [hostileRule] .epoch).source "<!" = false :=
  ⟨⟨hostileRule, List.mem_singleton_self _, rfl⟩,
    compile_confines_rules ⟨hostileRule, List.mem_singleton_self _, rfl⟩ .epoch⟩

end Exclusion.Script
