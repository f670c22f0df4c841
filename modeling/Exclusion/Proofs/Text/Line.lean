/-
# Exclusion.Proofs.Text.Line -- texts that stay on one line

A text without control characters has no line feed (`Text.IsInline`), and JSON is such a text: line
feeds inside of strings are escaped (`Json.isInline_chars`).  So is a date, which has nothing but digits
and a few marks (`Instant.isDateText_renderMillis`).  Put before a line feed, such a text is the first
line of what comes out (`Text.lineChars_cons`), and a list of them is found again as the lines of the
whole (`Text.lineChars_flatMap`).
-/
import Exclusion.Proofs.Json.Reading
import Exclusion.Script.Compile

namespace Exclusion

set_option autoImplicit false

namespace Text

/-! ## Control characters -/

/-- The characters have no control character among them. -/
def IsInline (cs : List Char) : Prop :=
  ∀ c ∈ cs, 0x20 ≤ c.toNat

instance (cs : List Char) : Decidable (IsInline cs) :=
  List.decidableBAll (fun c : Char => 0x20 ≤ c.toNat) cs

@[simp] theorem isInline_nil : IsInline [] :=
  List.forall_mem_nil _

@[simp] theorem isInline_cons {c : Char} {cs : List Char} :
    IsInline (c :: cs) ↔ 0x20 ≤ c.toNat ∧ IsInline cs :=
  List.forall_mem_cons

@[simp] theorem isInline_append {a b : List Char} :
    IsInline (a ++ b) ↔ IsInline a ∧ IsInline b :=
  List.forall_mem_append

theorem isInline_flatMap {f : Char → List Char} (kept : ∀ c, 0x20 ≤ c.toNat → IsInline (f c))
    {cs : List Char} (inline : IsInline cs) : IsInline (cs.flatMap f) := by
  intro d member
  obtain ⟨c, listed, made⟩ := List.mem_flatMap.1 member
  exact kept c (inline c listed) d made

theorem IsInline.newline_not_mem {cs : List Char} (inline : IsInline cs) : '\n' ∉ cs :=
  fun member => absurd (inline '\n' member) (by decide)

/-- Digits are no control characters. -/
theorem toNat_of_isDigit {c : Char} (digit : isDigit c = true) : 0x20 ≤ c.toNat := by
  simp only [isDigit, Bool.and_eq_true, decide_eq_true_eq, Char.le_def, UInt32.le_iff_toNat_le] at digit
  exact le_trans (by decide) digit.1

/-! ## Lines -/

theorem fields_of_not_mem {sep : Char} {cs : List Char} (free : sep ∉ cs) :
    fields sep cs = [cs] := by
  induction cs with
  | nil => rfl
  | cons c cs ih =>
      obtain ⟨other, free⟩ := not_or.1 (mt List.mem_cons.2 free)
      simp only [fields, if_neg (Ne.symm other), ih free]

/-- What stands before the first line feed is the first line. -/
theorem lineChars_cons {line : List Char} (free : '\n' ∉ line) (rest : List Char) :
    lineChars (line ++ '\n' :: rest) = dropReturn line :: lineChars rest := by
  simp only [lineChars, fields_append_sep, fields_of_not_mem free, List.reverse_append,
    List.reverse_singleton]
  cases h : (fields '\n' rest).reverse with
  | nil => exact absurd (List.reverse_eq_nil_iff.1 h) (fields_ne_nil '\n' rest)
  | cons last before => simp

/-- A line without control characters has no carriage return at its end. -/
theorem IsInline.dropReturn {line : List Char} (inline : IsInline line) :
    dropReturn line = line := by
  have other : line.getLast? ≠ some '\r' := by
    intro ends
    have visible := inline '\r' (List.mem_of_getLast? ends)
    exact absurd visible (by decide)
  rw [Text.dropReturn, if_neg other]

/-- Lines without control characters, a line feed after each, are the lines of the text. -/
theorem lineChars_flatMap {lines : List (List Char)} (inline : ∀ line ∈ lines, IsInline line) :
    lineChars (lines.flatMap (· ++ ['\n'])) = lines := by
  induction lines with
  | nil => rfl
  | cons line lines ih =>
      obtain ⟨first, others⟩ := List.forall_mem_cons.1 inline
      have text : (line :: lines).flatMap (· ++ ['\n']) =
          line ++ '\n' :: lines.flatMap (· ++ ['\n']) := by
        simp
      rw [text, lineChars_cons first.newline_not_mem, first.dropReturn, ih others]

theorem dropLeading?_append (start cs : List Char) : dropLeading? start (start ++ cs) = some cs := by
  induction start with
  | nil => rfl
  | cons c start ih => simpa [dropLeading?] using ih

end Text

/-! ## JSON -/

namespace Json

open Text

theorem isInline_escapedChar (c : Char) : IsInline (escapedChar c) := by
  have digit : ∀ d < 16, 0x20 ≤ (Nat.digitChar d).toNat := by decide
  unfold escapedChar
  split_ifs with special _ _ _ _ _ small
  · rcases special with rfl | rfl <;> decide
  iterate 5 decide
  · simp only [isInline_cons, isInline_nil, and_true]
    exact ⟨by decide, by decide, by decide, by decide, digit _ (by omega), digit _ (by omega)⟩
  · simpa using Nat.not_lt.1 small

theorem isInline_stringChars (s : String) : IsInline (stringChars s) := by
  have escaped : IsInline (s.toList.flatMap escapedChar) := by
    intro d member
    obtain ⟨c, -, made⟩ := List.mem_flatMap.1 member
    exact isInline_escapedChar c d made
  rw [stringChars]
  simp [escaped]

/-- A whole number is written with digits, and a minus before them if it is negative. -/
theorem mem_renderInt {i : Int} {c : Char} (member : c ∈ (Number.renderInt i).toList) :
    c = '-' ∨ isDigit c = true := by
  rw [Number.renderInt, String.toList_ofList] at member
  split at member
  · rcases List.mem_cons.1 member with rfl | digit
    · exact .inl rfl
    · exact .inr (isDigit_of_mem_toDigits digit)
  · exact .inr (isDigit_of_mem_toDigits member)

theorem isInline_renderInt (i : Int) : IsInline (Number.renderInt i).toList := by
  intro c member
  rcases mem_renderInt member with rfl | digit
  · decide
  · exact toNat_of_isDigit digit

mutual

/-- **The compact text of a value has no control character.** -/
theorem isInline_chars : ∀ (v : Json) (_ : IsIntegral v), IsInline (chars v)
  | .null, _ => by rw [chars]; decide
  | .bool true, _ => by rw [chars]; decide
  | .bool false, _ => by rw [chars]; decide
  | .number (.int i), _ => by
      rw [chars]
      exact isInline_renderInt i
  | .number (.float _), integral => absurd integral id
  | .string s, _ => by
      rw [chars]
      exact isInline_stringChars s
  | .array items, integral => by
      rw [chars]
      simp [isInline_itemChars items integral]
  | .object members, integral => by
      rw [chars]
      simp [isInline_memberChars members integral]

theorem isInline_itemChars : ∀ (items : List Json) (_ : AreIntegral items), IsInline (itemChars items)
  | [], _ => by
      rw [itemChars]
      exact isInline_nil
  | [v], integral => by
      rw [itemChars]
      exact isInline_chars v integral.1
  | v :: w :: rest, integral => by
      rw [itemChars]
      simp [isInline_chars v integral.1, isInline_itemChars (w :: rest) integral.2]

theorem isInline_memberChars : ∀ (members : List (String × Json)) (_ : MembersAreIntegral members),
    IsInline (memberChars members)
  | [], _ => by
      rw [memberChars]
      exact isInline_nil
  | [(k, v)], integral => by
      rw [memberChars]
      simp [isInline_stringChars, isInline_chars v integral.1]
  | (k, v) :: m :: rest, integral => by
      rw [memberChars]
      simp [isInline_stringChars, isInline_chars v integral.1,
        isInline_memberChars (m :: rest) integral.2]

end

end Json

/-! ## Times -/

namespace Instant

open Text

theorem isDigit_of_mem_padded {width n : Nat} {c : Char} (member : c ∈ (padded width n).toList) :
    isDigit c = true := by
  simp only [padded, String.toList_ofList, List.mem_append] at member
  rcases member with zero | digit
  · rw [List.eq_of_mem_replicate zero]
    decide
  · exact Json.isDigit_of_mem_toDigits digit

/-- What stands between the digits of a date and time. -/
def marks : List Char :=
  ['+', '-', '.', ':', 'T', 'Z']

/-- There are only digits and marks. -/
def IsDateText (cs : List Char) : Prop :=
  ∀ c ∈ cs, isDigit c = true ∨ c ∈ marks

instance (cs : List Char) : Decidable (IsDateText cs) :=
  List.decidableBAll (fun c => isDigit c = true ∨ c ∈ marks) cs

theorem isDateText_append {a b : List Char} :
    IsDateText (a ++ b) ↔ IsDateText a ∧ IsDateText b :=
  List.forall_mem_append

/-- A date and time is written with digits and marks. -/
theorem isDateText_renderMillis (t : Instant) : IsDateText t.renderMillis.toList := by
  have number : ∀ width n, IsDateText (padded width n).toList :=
    fun _ _ _ member => .inl (isDigit_of_mem_padded member)
  have fixed : IsDateText "-".toList ∧ IsDateText "+".toList ∧ IsDateText "T".toList ∧
      IsDateText ":".toList ∧ IsDateText ".".toList ∧ IsDateText "Z".toList := by
    decide
  obtain ⟨minus, plus, letter, colon, point, zone⟩ := fixed
  have year : ∀ year, IsDateText (renderYear year).toList := by
    intro year
    unfold renderYear
    split_ifs
    · exact number _ _
    · rw [String.toList_append]
      exact isDateText_append.2 ⟨minus, number _ _⟩
    · rw [String.toList_append]
      exact isDateText_append.2 ⟨plus, number _ _⟩
  simp only [renderMillis, renderIn, renderFraction, String.toList_append, isDateText_append, year,
    number, minus, letter, colon, point, zone, and_self]

theorem isInline_renderMillis (t : Instant) : IsInline t.renderMillis.toList := by
  intro c member
  rcases isDateText_renderMillis t c member with digit | mark
  · exact toNat_of_isDigit digit
  · exact (by decide : IsInline marks) c mark

end Instant

end Exclusion
