/-
# Exclusion.Proofs.Json.Token -- strings and whole numbers are read as they are written

A character is written in a string as itself or by an escape, a whole number by its decimal digits.
Reading either back one character at a time gives the same string and the same number:
`Scan.run_stringChars` and `Scan.run_renderInt` say so in the midst of any text, with any containers
open.  A number has no end of its own, so what follows it must not be able to go on with it
(`Scan.EndsNumber`).
-/
import Exclusion.Json.Scan
import Mathlib.Tactic

namespace Exclusion.Json

set_option autoImplicit false

open Exclusion.Text

/-! ## Strings -/

/-- A digit of base sixteen has its value. -/
theorem hexValue?_digitChar : ∀ d < 16, hexValue? (Nat.digitChar d) = some d := by
  decide

theorem digitChar_ne_quote : ∀ d < 16, Nat.digitChar d ≠ '"' := by
  decide

namespace TextScan

/-- The string after these characters, none of which is its closing quote. -/
def takeAll? (t : TextScan) : List Char → Option TextScan
  | [] => some t
  | c :: cs => if c = '"' && t.endsAtQuote then none else (t.step? c).bind (·.takeAll? cs)

theorem takeAll?_hexDigit {t : TextScan} {count value : Nat} {high : Option Nat}
    (within : t.phase = .hex count value high) {d : Nat} (small : d < 16) (cs : List Char) :
    t.takeAll? (Nat.digitChar d :: cs) =
      (if count = 3 then t.unit (16 * value + d) high
        else { t with phase := .hex (count + 1) (16 * value + d) high }).takeAll? cs := by
  simp [takeAll?, step?, within, hexValue?_digitChar d small, digitChar_ne_quote d small]

theorem unit_of_phase (t : TextScan) (phase : TextPhase) (value : Nat) (high : Option Nat) :
    unit { t with phase } value high = t.unit value high := by
  cases high <;> rfl

/-- Four digits are a code unit. -/
theorem takeAll?_hexDigits {t : TextScan} {high : Option Nat} (within : t.phase = .hex 0 0 high)
    {a b c d : Nat} (ha : a < 16) (hb : b < 16) (hc : c < 16) (hd : d < 16) :
    t.takeAll? [Nat.digitChar a, Nat.digitChar b, Nat.digitChar c, Nat.digitChar d] =
      some (t.unit (16 * (16 * (16 * a + b) + c) + d) high) := by
  rw [takeAll?_hexDigit within ha, if_neg (by decide), takeAll?_hexDigit rfl hb,
    if_neg (by decide), takeAll?_hexDigit rfl hc, if_neg (by decide), takeAll?_hexDigit rfl hd,
    if_pos rfl]
  simp only [takeAll?, unit_of_phase, Nat.mul_zero, Nat.zero_add]

theorem takeAll?_codeUnit {t : TextScan} (plain : t.phase = .plain) {a b c d : Nat} (ha : a < 16)
    (hb : b < 16) (hc : c < 16) (hd : d < 16) :
    t.takeAll? ['\\', 'u', Nat.digitChar a, Nat.digitChar b, Nat.digitChar c, Nat.digitChar d] =
      some (t.unit (16 * (16 * (16 * a + b) + c) + d) none) := by
  obtain ⟨phase, chars, sound⟩ := t
  subst plain
  exact takeAll?_hexDigits (t := ⟨.hex 0 0 none, chars, sound⟩) rfl ha hb hc hd

/-- After the first half of a pair the code unit is taken for the second. -/
theorem takeAll?_secondUnit {t : TextScan} {first : Nat} (half : t.phase = .high first)
    {a b c d : Nat} (ha : a < 16) (hb : b < 16) (hc : c < 16) (hd : d < 16) :
    t.takeAll? ['\\', 'u', Nat.digitChar a, Nat.digitChar b, Nat.digitChar c, Nat.digitChar d] =
      some (t.unit (16 * (16 * (16 * a + b) + c) + d) (some first)) := by
  obtain ⟨phase, chars, sound⟩ := t
  subst half
  exact takeAll?_hexDigits (t := ⟨.hex 0 0 (some first), chars, sound⟩) rfl ha hb hc hd

theorem takeAll?_single {t : TextScan} (plain : t.phase = .plain) {c : Char} (quote : c ≠ '"')
    (backslash : c ≠ '\\') (printable : ¬ c.toNat < 0x20) : t.takeAll? [c] = some (t.push c) := by
  simp [takeAll?, step?, stepPlain?, plain, quote, backslash, printable]

/-- A character as it is written in a string is read as that character. -/
theorem takeAll?_escapedChar {t : TextScan} (plain : t.phase = .plain) (c : Char) :
    t.takeAll? (escapedChar c) = some (t.push c) := by
  unfold escapedChar
  split_ifs with special _ _ _ _ _ small
  · obtain ⟨phase, chars, sound⟩ := t
    subst plain
    rcases special with rfl | rfl <;> rfl
  iterate 5
    · obtain ⟨phase, chars, sound⟩ := t
      subst plain
      subst_vars
      rfl
  · have value : 16 * (16 * (16 * 0 + 0) + c.toNat / 16) + c.toNat % 16 = c.toNat := by omega
    have whole : t.unit c.toNat none = t.push c := by
      have low : isLow c.toNat = false := by simp [isLow]; omega
      have high : isHigh c.toNat = false := by simp [isHigh]; omega
      simp [unit, low, high, Char.ofNat_toNat]
    have taken := takeAll?_codeUnit plain (a := 0) (b := 0) (c := c.toNat / 16) (d := c.toNat % 16)
      (by decide) (by decide) (by omega) (by omega)
    rwa [value, whole] at taken
  · rw [not_or] at special
    exact takeAll?_single plain special.1 special.2 small

end TextScan

namespace Scan

theorem run_cons {s s' : Scan} {c : Char} (stepped : s.step? c = some s') (cs : List Char) :
    s.run (c :: cs) = s'.run cs := by
  simp only [run, stepped]

theorem run_text {t t' : TextScan} {cs : List Char} (taken : t.takeAll? cs = some t')
    (isKey : Bool) (frames : List Frame) (rest : List Char) :
    run ⟨.text isKey t, frames⟩ (cs ++ rest) = run ⟨.text isKey t', frames⟩ rest := by
  induction cs generalizing t with
  | nil =>
      simp only [TextScan.takeAll?, Option.some.injEq] at taken
      rw [taken, List.nil_append]
  | cons c cs ih =>
      simp only [TextScan.takeAll?] at taken
      split at taken
      · simp at taken
      · rename_i open_
        obtain ⟨u, stepped, left⟩ := Option.bind_eq_some_iff.1 taken
        rw [List.cons_append, run]
        simp only [step?, open_, stepped]
        exact ih left

/-- What stands between the quotes of a string is read as its characters. -/
theorem run_escaped (s : List Char) {t : TextScan} (plain : t.phase = .plain) (isKey : Bool)
    (frames : List Frame) (rest : List Char) :
    run ⟨.text isKey t, frames⟩ (s.flatMap escapedChar ++ rest) =
      run ⟨.text isKey { t with chars := s.reverse ++ t.chars }, frames⟩ rest := by
  induction s generalizing t with
  | nil => rfl
  | cons c s ih =>
      rw [List.flatMap_cons, List.append_assoc, run_text (TextScan.takeAll?_escapedChar plain c),
        ih (t := t.push c) rfl]
      simp [TextScan.push, plain]

/-- A string is read up to its closing quote. -/
theorem run_stringChars (s : String) (isKey : Bool) (frames : List Frame) (rest : List Char) :
    run ⟨.text isKey {}, frames⟩ (s.toList.flatMap escapedChar ++ '"' :: rest) =
      run (completeText frames isKey (some s)) rest := by
  rw [run_escaped s.toList rfl, run]
  simp [step?, TextScan.endsAtQuote, TextScan.string?]

end Scan

/-! ## Numbers -/

theorem isDigit_eq (c : Char) : isDigit c = c.isDigit := by
  simp only [isDigit, Char.isDigit, Char.le_def, UInt32.le_iff_toNat_le, ge_iff_le]

theorem isDigit_of_mem_toDigits {n : Nat} {c : Char} (member : c ∈ Nat.toDigits 10 n) :
    isDigit c = true := by
  rw [isDigit_eq]
  exact Nat.isDigit_of_mem_toDigits (by decide) (by decide) member

theorem digitValue_digitChar : ∀ d < 10, digitValue (Nat.digitChar d) = d := by
  decide

theorem digitChar_ne_zero : ∀ d < 10, 0 < d → Nat.digitChar d ≠ '0' := by
  decide

/-- The digits of a positive number do not begin with a zero. -/
theorem toDigits_eq_cons {n : Nat} (positive : 0 < n) :
    ∃ d ds, Nat.toDigits 10 n = d :: ds ∧ d ≠ '0' := by
  induction n using Nat.strongRecOn with
  | ind n ih =>
      rw [Nat.toDigits_eq_if (by decide)]
      split
      · rename_i small
        exact ⟨_, [], rfl, digitChar_ne_zero n small positive⟩
      · obtain ⟨d, ds, digits, nonzero⟩ := ih (n / 10) (by omega) (by omega)
        exact ⟨d, ds ++ [Nat.digitChar (n % 10)], by rw [digits, List.cons_append], nonzero⟩

namespace Number

theorem gather_append {n m : Nat} {cs : List Char} (gathered : gather n cs = (m, 0)) (c : Char)
    (fits : 10 * m + digitValue c ≤ maxNatural) :
    gather n (cs ++ [c]) = (10 * m + digitValue c, 0) := by
  induction cs generalizing n with
  | nil =>
      simp only [gather, Prod.mk.injEq, and_true] at gathered
      subst gathered
      simp only [List.nil_append, gather, if_pos fits]
  | cons d cs ih =>
      simp only [gather] at gathered
      split at gathered
      · rename_i within
        simp only [List.cons_append, gather, if_pos within]
        exact ih gathered
      · simp at gathered

/-- A number of 64 bits is read from its digits. -/
theorem gather_toDigits {n : Nat} (fits : n ≤ maxNatural) :
    gather 0 (Nat.toDigits 10 n) = (n, 0) := by
  induction n using Nat.strongRecOn with
  | ind n ih =>
      rw [Nat.toDigits_eq_if (by decide)]
      split
      · rename_i small
        simp only [gather, digitValue_digitChar n small, Nat.mul_zero, Nat.zero_add, if_pos fits]
      · have value : 10 * (n / 10) + digitValue (Nat.digitChar (n % 10)) = n := by
          rw [digitValue_digitChar _ (Nat.mod_lt n (by decide))]
          omega
        rw [gather_append (ih (n / 10) (by omega) (by omega)) _ (by rw [value]; exact fits), value]

/-- The number is a whole number of 64 bits. -/
def IsIntegral : Number → Prop
  | .int i => -(maxNegative : Int) ≤ i ∧ i ≤ maxNatural
  | .float _ => False

theorem ofParts?_toDigits {n : Nat} {negative : Bool}
    (fits : n ≤ if negative then maxNegative else maxNatural) (nonzero : negative = true → n ≠ 0) :
    ofParts? ⟨negative, Nat.toDigits 10 n, none, none⟩ = some (.int (if negative then -n else n)) := by
  have within : n ≤ maxNatural := by
    refine fits.trans ?_
    split <;> decide
  simp only [ofParts?, gather_toDigits within]
  cases negative with
  | false => simp
  | true =>
      have exact_ : ¬ (n = 0 ∨ maxNegative < n) := not_or.2 ⟨nonzero rfl, Nat.not_lt.2 fits⟩
      simp [exact_]

end Number

namespace Scan

/-- A value may begin here. -/
def AwaitsValue : Phase → Prop
  | .start | .firstItem | .nextItem => True
  | _ => False

/-- A number cannot go on with this text. -/
def EndsNumber : List Char → Prop
  | [] => True
  | c :: _ => c = ',' ∨ c = ']' ∨ c = '\x7d'

theorem step?_begin {p : Phase} (awaits : AwaitsValue p) (frames : List Frame) {c : Char}
    (visible : isSpace c = false) (bracket : c ≠ ']') :
    (Scan.mk p frames).step? c = begin? frames c := by
  cases p <;> simp_all [AwaitsValue, step?]

theorem complete_phase (frames : List Frame) (value : Node) :
    (complete frames value).phase = .after ∨ (complete frames value).phase = .finished value := by
  unfold complete
  split <;> simp

theorem step?_complete (frames : List Frame) (value : Node) (c : Char) :
    (complete frames value).step? c = (complete frames value).stepAfter? c := by
  rcases complete_phase frames value with h | h <;> simp only [step?, h]

theorem abandon_complete (frames : List Frame) (value : Node) (rest : List Char) :
    (complete frames value).abandon rest = (complete frames value).abandonPlain rest := by
  rcases complete_phase frames value with h | h <;> simp only [abandon, h]

theorem run_numeral {n : Numeral} (whole : n.phase = .zero ∨ n.phase = .whole)
    (frames : List Frame) {rest : List Char} (ends : EndsNumber rest) :
    run ⟨.numeral n, frames⟩ rest = run (complete frames (.number n.number?)) rest := by
  have isComplete : n.isComplete = true := by
    rcases whole with h | h <;> simp [Numeral.isComplete, h]
  cases rest with
  | nil =>
      rw [run, run, abandon_complete]
      simp [abandon, isComplete]
  | cons c rest =>
      have stops : n.step? c = none ∧ n.refuses c = false := by
        rcases ends with rfl | rfl | rfl <;> rcases whole with h | h <;>
          simp [Numeral.step?, Numeral.refuses, h, isDigit]
      rw [run, run, step?_complete, abandon_complete]
      simp [step?, stops, isComplete, abandon]

theorem run_digits {ds : List Char} (digits : ∀ c ∈ ds, isDigit c = true) {n : Numeral}
    (whole : n.phase = .whole) (frames : List Frame) (rest : List Char) :
    run ⟨.numeral n, frames⟩ (ds ++ rest) =
      run ⟨.numeral { n with whole := ds.reverse ++ n.whole }, frames⟩ rest := by
  induction ds generalizing n with
  | nil => rfl
  | cons d ds ih =>
      have stepped : n.step? d = some { n with whole := d :: n.whole } := by
        simp [Numeral.step?, whole, digits d]
      rw [List.cons_append, run]
      simp only [step?, stepped]
      rw [ih (n := { n with whole := d :: n.whole })
        (fun c member => digits c (List.mem_cons_of_mem d member)) whole]
      simp

/-- The first digit of a number has been read: the others follow. -/
theorem run_whole {d : Char} {ds : List Char} {negative : Bool}
    (digits : ∀ c ∈ ds, isDigit c = true) (frames : List Frame) {rest : List Char}
    (ends : EndsNumber rest) :
    run ⟨.numeral { phase := .whole, negative, whole := [d] }, frames⟩ (ds ++ rest) =
      run (complete frames (.number (Number.ofParts? ⟨negative, d :: ds, none, none⟩))) rest := by
  rw [run_digits digits rfl, run_numeral (.inr rfl) frames ends]
  simp [Numeral.number?]

theorem begin?_digit {d : Char} (digit : isDigit d = true) (nonzero : d ≠ '0')
    (frames : List Frame) :
    begin? frames d = some ⟨.numeral { phase := .whole, whole := [d] }, frames⟩ := by
  have ne : ∀ c : Char, isDigit c = false → d ≠ c := by
    rintro c other rfl
    simp [digit] at other
  simp [begin?, ne 'n' rfl, ne 't' rfl, ne 'f' rfl, ne '-' rfl, nonzero, digit]

theorem isSpace_of_isDigit {d : Char} (digit : isDigit d = true) : isSpace d = false ∧ d ≠ ']' := by
  have ne : ∀ c : Char, isDigit c = false → d ≠ c := by
    rintro c other rfl
    simp [digit] at other
  simp [isSpace, ne ' ' rfl, ne '\n' rfl, ne '\t' rfl, ne '\r' rfl, ne ']' rfl]

theorem run_renderInt_neg {i : Int} (negative : i < 0) (lower : -(Number.maxNegative : Int) ≤ i)
    {p : Phase} (awaits : AwaitsValue p) (frames : List Frame) {rest : List Char}
    (ends : EndsNumber rest) :
    run ⟨p, frames⟩ ((Number.renderInt i).toList ++ rest) =
      run (complete frames (.number (some (.int i)))) rest := by
  obtain ⟨d, ds, digits, nonzero⟩ := toDigits_eq_cons (n := i.natAbs) (by omega)
  have isDigits : ∀ c ∈ d :: ds, isDigit c = true := by
    intro c member
    exact isDigit_of_mem_toDigits (digits ▸ member)
  have begun : (Scan.mk p frames).step? '-' =
      some ⟨.numeral { phase := .minus, negative := true }, frames⟩ := by
    rw [step?_begin awaits frames (by decide) (by decide)]
    rfl
  have first : (Scan.mk (.numeral { phase := .minus, negative := true }) frames).step? d =
      some ⟨.numeral { phase := .whole, negative := true, whole := [d] }, frames⟩ := by
    simp [step?, Numeral.step?, nonzero, isDigits d (List.mem_cons_self ..)]
  have value : Number.ofParts? ⟨true, d :: ds, none, none⟩ = some (.int i) := by
    rw [← digits, Number.ofParts?_toDigits (by simp only [if_true]; omega) (by omega)]
    simp only [if_true, Option.some.injEq, Number.int.injEq]
    omega
  rw [Number.renderInt, if_pos negative, String.toList_ofList, digits, List.cons_append,
    run_cons begun, List.cons_append, run_cons first,
    run_whole (fun c member => isDigits c (List.mem_cons_of_mem d member)) frames ends, value]

theorem run_renderInt_zero {p : Phase} (awaits : AwaitsValue p) (frames : List Frame)
    {rest : List Char} (ends : EndsNumber rest) :
    run ⟨p, frames⟩ ((Number.renderInt 0).toList ++ rest) =
      run (complete frames (.number (some (.int 0)))) rest := by
  have begun : (Scan.mk p frames).step? '0' =
      some ⟨.numeral { phase := .zero, whole := ['0'] }, frames⟩ := by
    rw [step?_begin awaits frames (by decide) (by decide)]
    rfl
  have digits : (Number.renderInt 0).toList = ['0'] := by
    simp [Number.renderInt, Nat.toDigits_zero]
  rw [digits, List.cons_append, run_cons begun, List.nil_append, run_numeral (.inl rfl) frames ends]
  rfl

theorem run_renderInt_pos {i : Int} (positive : 0 < i) (upper : i ≤ Number.maxNatural) {p : Phase}
    (awaits : AwaitsValue p) (frames : List Frame) {rest : List Char} (ends : EndsNumber rest) :
    run ⟨p, frames⟩ ((Number.renderInt i).toList ++ rest) =
      run (complete frames (.number (some (.int i)))) rest := by
  obtain ⟨d, ds, digits, nonzero⟩ := toDigits_eq_cons (n := i.natAbs) (by omega)
  have isDigits : ∀ c ∈ d :: ds, isDigit c = true := by
    intro c member
    exact isDigit_of_mem_toDigits (digits ▸ member)
  have digit := isDigits d (List.mem_cons_self ..)
  have begun : (Scan.mk p frames).step? d =
      some ⟨.numeral { phase := .whole, whole := [d] }, frames⟩ := by
    obtain ⟨visible, bracket⟩ := isSpace_of_isDigit digit
    rw [step?_begin awaits frames visible bracket, begin?_digit digit nonzero]
  have value : Number.ofParts? ⟨false, d :: ds, none, none⟩ = some (.int i) := by
    rw [← digits, Number.ofParts?_toDigits (by simp only [Bool.false_eq_true, if_false]; omega)
      (by simp)]
    simp only [Bool.false_eq_true, if_false, Option.some.injEq, Number.int.injEq]
    omega
  rw [Number.renderInt, if_neg (by omega), String.toList_ofList, digits, List.cons_append,
    run_cons begun,
    run_whole (fun c member => isDigits c (List.mem_cons_of_mem d member)) frames ends, value]

/-- A whole number of 64 bits is read back. -/
theorem run_renderInt {i : Int} (fits : Number.IsIntegral (.int i)) {p : Phase}
    (awaits : AwaitsValue p) (frames : List Frame) {rest : List Char} (ends : EndsNumber rest) :
    run ⟨p, frames⟩ ((Number.renderInt i).toList ++ rest) =
      run (complete frames (.number (some (.int i)))) rest := by
  obtain ⟨lower, upper⟩ := fits
  rcases lt_trichotomy i 0 with negative | rfl | positive
  · exact run_renderInt_neg negative lower awaits frames ends
  · exact run_renderInt_zero awaits frames ends
  · exact run_renderInt_pos positive upper awaits frames ends

end Scan

end Exclusion.Json
