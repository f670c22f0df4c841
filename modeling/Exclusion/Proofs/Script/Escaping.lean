/-
# Exclusion.Proofs.Script.Escaping -- escaping for a script does not change what is read

Before JSON goes into a script, the characters that could end the script element or the line are
written as escapes (`Script.safeChars`).  Outside of strings no such character can stand in JSON, and
in a string the escape stands for the character itself.  So a text that is JSON to its end makes the
same document as before: `Document.ofChars_safeChars`.

There is one place where the two readers part: after the first half of a surrogate pair.  The string
is spoilt either way, with or without the character, and spoilt strings are not told apart
(`Scan.run_unsound`).  This is why the theorem is one about readers and not about strings.
-/
import Exclusion.Proofs.Json.Token
import Exclusion.Script.Compile

namespace Exclusion

set_option autoImplicit false

open Exclusion.Json

/-! ## Texts that are JSON to their end -/

namespace Json

/-- The value ends as JSON does.  A fault inside would cut off the containers around it. -/
def Node.isIntact : Node → Bool
  | .broken _ | .array _ (.severed _ _) | .object _ (.severed _ _) => false
  | _ => true

/-- The text is JSON to its end. -/
def Document.isIntact (document : Document) : Bool :=
  document.root.isIntact && !document.trailing

theorem isIntact_toNode (v : Json) : (toNode v).isIntact = true := by
  cases v <;> rfl

namespace Scan

theorem isIntact_enclose {value : Node} (fault : value.isIntact = false) (frames : List Frame) :
    (enclose value frames).isIntact = false := by
  induction frames generalizing value with
  | nil => exact fault
  | cons frame outer ih => cases frame <;> exact ih rfl

theorem isIntact_sever (frames : List Frame) (fault : Fault) (afterComma : Bool) :
    (sever frames (.severed fault afterComma)).isIntact = false := by
  cases frames with
  | nil => rfl
  | cons frame outer => cases frame <;> exact isIntact_enclose rfl outer

theorem isIntact_abandonPlain (s : Scan) (c : Char) (rest : List Char) :
    (s.abandonPlain (c :: rest)).isIntact = false := by
  have broken : ∀ f, (enclose (.broken f) s.frames).isIntact = false :=
    fun f => isIntact_enclose rfl s.frames
  simp only [abandonPlain]
  split <;> simp_all [Document.isIntact, isIntact_sever]

/-- A text that cannot go on is not JSON to its end. -/
theorem isIntact_abandon (s : Scan) (c : Char) (rest : List Char) :
    (s.abandon (c :: rest)).isIntact = false := by
  unfold abandon
  split
  · split <;> exact isIntact_abandonPlain _ c rest
  · exact isIntact_abandonPlain _ c rest

/-! ## Spoilt strings -/

/-- Strings that are spoilt both and read equally far. -/
structure Spoilt (t u : TextScan) : Prop where
  phase : t.phase = u.phase
  left : t.sound = false
  right : u.sound = false

theorem Spoilt.spoil (t u : TextScan) : Spoilt t.spoil u.spoil where
  phase := rfl
  left := rfl
  right := rfl

theorem Spoilt.stepPlain? {t u : TextScan} (spoilt : Spoilt t u) (c : Char) :
    Option.Rel Spoilt (t.stepPlain? c) (u.stepPlain? c) := by
  unfold TextScan.stepPlain?
  split_ifs
  · exact .some ⟨rfl, spoilt.left, spoilt.right⟩
  · exact .none
  · exact .some ⟨rfl, spoilt.left, spoilt.right⟩

theorem Spoilt.stepEscape? {t u : TextScan} (spoilt : Spoilt t u) (c : Char) :
    Option.Rel Spoilt (t.stepEscape? c) (u.stepEscape? c) := by
  unfold TextScan.stepEscape?
  split_ifs
  · exact .some ⟨rfl, spoilt.left, spoilt.right⟩
  · cases TextScan.escapeLetter? c with
    | none => exact .none
    | some d => exact .some ⟨rfl, spoilt.left, spoilt.right⟩

theorem Spoilt.unit {t u : TextScan} (spoilt : Spoilt t u) (value : Nat) (high : Option Nat) :
    Spoilt (t.unit value high) (u.unit value high) := by
  cases high with
  | none =>
      simp only [TextScan.unit]
      split_ifs
      · exact .spoil t u
      · exact ⟨rfl, spoilt.left, spoilt.right⟩
      · exact ⟨rfl, spoilt.left, spoilt.right⟩
  | some first =>
      simp only [TextScan.unit]
      split_ifs
      · exact ⟨rfl, spoilt.left, spoilt.right⟩
      · exact .spoil t u

/-- A character makes the same of both. -/
theorem Spoilt.step? {t u : TextScan} (spoilt : Spoilt t u) (c : Char) :
    Option.Rel Spoilt (t.step? c) (u.step? c) := by
  have same := spoilt.phase
  unfold TextScan.step?
  rw [← same]
  cases t.phase with
  | plain => exact spoilt.stepPlain? c
  | escape => exact spoilt.stepEscape? c
  | hex count value high =>
      cases Text.hexValue? c with
      | none => exact .none
      | some digit =>
          refine .some ?_
          dsimp only
          split_ifs
          · exact spoilt.unit _ _
          · exact ⟨rfl, spoilt.left, spoilt.right⟩
  | high first =>
      dsimp only
      split_ifs
      · exact .some ⟨rfl, spoilt.left, spoilt.right⟩
      · exact (Spoilt.spoil t u).stepPlain? c
  | highEscape first =>
      dsimp only
      split_ifs
      · exact .some ⟨rfl, spoilt.left, spoilt.right⟩
      · exact (Spoilt.spoil t u).stepEscape? c

theorem Spoilt.string? {t u : TextScan} (spoilt : Spoilt t u) : t.string? = u.string? := by
  simp [TextScan.string?, spoilt.left, spoilt.right]

theorem Spoilt.endsAtQuote {t u : TextScan} (spoilt : Spoilt t u) :
    t.endsAtQuote = u.endsAtQuote := by
  simp only [TextScan.endsAtQuote, spoilt.phase]

theorem Spoilt.fault {t u : TextScan} (spoilt : Spoilt t u) (rest : List Char) :
    t.fault rest = u.fault rest := by
  simp only [TextScan.fault, spoilt.phase, spoilt.left, spoilt.right]

/-- **Spoilt strings are not told apart.** -/
theorem run_unsound {t u : TextScan} (spoilt : Spoilt t u) (isKey : Bool) (frames : List Frame)
    (cs : List Char) : run ⟨.text isKey t, frames⟩ cs = run ⟨.text isKey u, frames⟩ cs := by
  have abandoned : ∀ {t u : TextScan}, Spoilt t u → ∀ rest,
      abandon ⟨.text isKey t, frames⟩ rest = abandon ⟨.text isKey u, frames⟩ rest := by
    intro t u spoilt rest
    cases isKey <;> simp only [abandon, abandonPlain, spoilt.fault rest]
  induction cs generalizing t u with
  | nil => exact abandoned spoilt []
  | cons c cs ih =>
      simp only [run, Scan.step?, spoilt.string?, spoilt.endsAtQuote]
      split_ifs
      · rfl
      · have alike := spoilt.step? c
        generalize t.step? c = t', u.step? c = u' at alike ⊢
        cases alike with
        | none =>
            simp only [Option.map_none]
            exact abandoned spoilt (c :: cs)
        | some spoilt' =>
            simp only [Option.map_some]
            exact ih spoilt'

end Scan

end Json

/-! ## The characters that are escaped -/

namespace Script

/-- The character stands as an escape in a script. -/
def IsEscaped (c : Char) : Prop :=
  c = '<' ∨ c = '\u2028' ∨ c = '\u2029'

instance (c : Char) : Decidable (IsEscaped c) :=
  inferInstanceAs (Decidable (_ ∨ _))

theorem safeChar_of_plain {c : Char} (plain : ¬ IsEscaped c) : safeChar c = [c] := by
  simp only [IsEscaped, not_or] at plain
  simp [safeChar, plain]

/-- An escape is the four digits of its character. -/
theorem safeChar_of_escaped {c : Char} (escaped : IsEscaped c) : ∃ p < 16, ∃ q < 16, ∃ r < 16, ∃ s < 16,
    safeChar c =
      ['\\', 'u', Nat.digitChar p, Nat.digitChar q, Nat.digitChar r, Nat.digitChar s] ∧
    16 * (16 * (16 * p + q) + r) + s = c.toNat := by
  rcases escaped with rfl | rfl | rfl
  · exact ⟨0, by decide, 0, by decide, 3, by decide, 12, by decide, by decide, by decide⟩
  · exact ⟨2, by decide, 0, by decide, 2, by decide, 8, by decide, by decide, by decide⟩
  · exact ⟨2, by decide, 0, by decide, 2, by decide, 9, by decide, by decide, by decide⟩

/-- No character that is escaped is left. -/
theorem not_mem_safeChars {c : Char} (escaped : IsEscaped c) (cs : List Char) : c ∉ safeChars cs := by
  have apart : ∀ d, c ∉ safeChar d := by
    intro d
    unfold safeChar
    split_ifs with less line paragraph
    iterate 3 rcases escaped with rfl | rfl | rfl <;> decide
    · intro member
      cases List.mem_singleton.1 member
      rcases escaped with rfl | rfl | rfl
      · exact less rfl
      · exact line rfl
      · exact paragraph rfl
  intro member
  obtain ⟨d, -, made⟩ := List.mem_flatMap.1 member
  exact apart d made

end Script

open Script

namespace Json.Scan

/-! ## Outside of strings -/

/-- A word that is being read has no character that is escaped. -/
def Literal : Phase → Prop
  | .word left _ => ∀ c ∈ left, ¬ IsEscaped c
  | _ => True

theorem literal_word {left : List Char} {value : Node}
    (plain : left.all (fun c => !decide (IsEscaped c)) = true) : Literal (.word left value) := by
  intro c member escaped
  have other := List.all_eq_true.1 plain c member
  simp [escaped] at other

theorem literal_complete (frames : List Frame) (value : Node) :
    Literal (complete frames value).phase := by
  rcases complete_phase frames value with h | h <;> simp [h, Literal]

theorem literal_close? {frames : List Frame} {c : Char} {s : Scan}
    (closed : close? frames c = some s) : Literal s.phase := by
  unfold close? at closed
  split at closed <;> simp at closed <;> rw [← closed.2] <;> exact literal_complete _ _

theorem literal_begin? {frames : List Frame} {c : Char} {s : Scan}
    (begun : begin? frames c = some s) : Literal s.phase := by
  unfold begin? at begun
  split_ifs at begun <;> cases begun <;> first | trivial | exact literal_word (by decide)

theorem literal_stepAfter? {s s' : Scan} (literal : Literal s.phase) {c : Char}
    (stepped : s.stepAfter? c = some s') : Literal s'.phase := by
  unfold stepAfter? at stepped
  split at stepped
  · cases stepped
    exact literal
  · split at stepped
    · split at stepped
      · cases stepped
        trivial
      · exact literal_close? stepped
    · split at stepped
      · cases stepped
        trivial
      · exact literal_close? stepped
    · cases stepped

theorem literal_completeText (frames : List Frame) (isKey : Bool) (string : Option String) :
    Literal (completeText frames isKey string).phase := by
  unfold completeText
  split
  · trivial
  · exact literal_complete _ _

theorem literal_step? {s s' : Scan} (literal : Literal s.phase) {c : Char}
    (stepped : s.step? c = some s') : Literal s'.phase := by
  obtain ⟨phase, frames⟩ := s
  cases phase with
  | start | nextItem =>
      simp only [step?] at stepped
      split_ifs at stepped
      · cases stepped
        trivial
      · exact literal_begin? stepped
  | firstItem =>
      simp only [step?] at stepped
      split_ifs at stepped
      · cases stepped
        trivial
      · exact literal_close? stepped
      · exact literal_begin? stepped
  | firstKey =>
      simp only [step?, beginKey?] at stepped
      split_ifs at stepped
      · cases stepped
        trivial
      · exact literal_close? stepped
      · cases stepped
        trivial
  | nextKey =>
      simp only [step?, beginKey?] at stepped
      split_ifs at stepped <;> cases stepped <;> trivial
  | colon =>
      simp only [step?] at stepped
      split_ifs at stepped <;> cases stepped <;> trivial
  | after => exact literal_stepAfter? literal stepped
  | finished value => exact literal_stepAfter? literal stepped
  | word left value =>
      cases left with
      | nil => cases stepped
      | cons l left =>
          simp only [step?] at stepped
          split_ifs at stepped
          · cases stepped
            exact literal_complete _ _
          · cases stepped
            exact fun c member => literal c (List.mem_cons_of_mem l member)
  | numeral n =>
      simp only [step?] at stepped
      split at stepped
      · cases stepped
        trivial
      · split_ifs at stepped
        exact literal_stepAfter? (literal_complete _ _) stepped
  | text isKey t =>
      simp only [step?] at stepped
      split_ifs at stepped
      · cases stepped
        exact literal_completeText _ _ _
      · obtain ⟨u, -, same⟩ := Option.map_eq_some_iff.1 stepped
        cases same
        trivial

theorem stepAfter?_escaped (s : Scan) {c : Char} (escaped : IsEscaped c) : s.stepAfter? c = none := by
  unfold stepAfter? close?
  rcases escaped with rfl | rfl | rfl <;> rw [if_neg (by decide)] <;> split <;> simp <;> split <;> rfl

/-- Outside of strings no character can stand that is escaped. -/
theorem step?_escaped {s : Scan} (literal : Literal s.phase)
    (outside : ∀ isKey t, s.phase ≠ .text isKey t) {c : Char} (escaped : IsEscaped c) :
    s.step? c = none := by
  obtain ⟨phase, frames⟩ := s
  cases phase with
  | start | firstItem | nextItem =>
      rcases escaped with rfl | rfl | rfl <;> rfl
  | firstKey | nextKey | colon =>
      rcases escaped with rfl | rfl | rfl <;> rfl
  | after => exact stepAfter?_escaped _ escaped
  | finished value => exact stepAfter?_escaped _ escaped
  | word left value =>
      cases left with
      | nil => rfl
      | cons l left =>
          have other : c ≠ l := by
            rintro rfl
            exact literal c (List.mem_cons_self ..) escaped
          simp only [step?, if_neg other]
  | numeral n =>
      have stops : n.step? c = none := by
        unfold Numeral.step?
        rcases escaped with rfl | rfl | rfl <;> cases n.phase <;> rfl
      simp only [step?, stops, stepAfter?_escaped _ escaped, ite_self]
  | text isKey t => exact absurd rfl (outside isKey t)

/-! ## In strings -/

/-- In an escape no character can stand that is escaped. -/
theorem step?_escaped_of_phase {t : TextScan} (open_ : t.endsAtQuote = false) {c : Char}
    (escaped : IsEscaped c) : t.step? c = none := by
  unfold TextScan.endsAtQuote at open_
  unfold TextScan.step?
  cases phase : t.phase with
  | plain | high => simp [phase] at open_
  | escape | hex | highEscape => rcases escaped with rfl | rfl | rfl <;> rfl

/-- The character itself and its escape are read alike where a string can go on with the character. -/
theorem run_safeChar {t t' : TextScan} {c : Char} (escaped : IsEscaped c)
    (stepped : t.step? c = some t') (isKey : Bool) (frames : List Frame) (rest : List Char) :
    run ⟨.text isKey t, frames⟩ (safeChar c ++ rest) = run ⟨.text isKey t', frames⟩ rest := by
  obtain ⟨p, hp, q, hq, r, hr, d, hd, escape, value⟩ := safeChar_of_escaped escaped
  have backslash : c ≠ '\\' := by rintro rfl; revert escaped; decide
  have printable : ¬ c.toNat < 0x20 := by rcases escaped with rfl | rfl | rfl <;> decide
  have low : TextScan.isLow c.toNat = false := by rcases escaped with rfl | rfl | rfl <;> decide
  have high : TextScan.isHigh c.toNat = false := by rcases escaped with rfl | rfl | rfl <;> decide
  rw [escape]
  cases phase : t.phase with
  | plain =>
      simp only [TextScan.step?, phase, TextScan.stepPlain?, if_neg backslash, if_neg printable,
        Option.some.injEq] at stepped
      have taken := TextScan.takeAll?_codeUnit phase hp hq hr hd
      rw [value, TextScan.unit, low, high] at taken
      rw [run_text taken, ← stepped]
      simp [Char.ofNat_toNat]
  | high first =>
      -- the half that came before is alone: the string is spoilt, whatever follows
      simp only [TextScan.step?, phase, if_neg backslash, TextScan.stepPlain?, if_neg printable,
        Option.some.injEq] at stepped
      have taken := TextScan.takeAll?_secondUnit phase hp hq hr hd
      rw [value, TextScan.unit, low] at taken
      have spoilt : Spoilt t.spoil (t.spoil.push c) := ⟨rfl, rfl, rfl⟩
      rw [run_text taken, ← stepped]
      exact run_unsound spoilt isKey frames rest
  | escape | hex | highEscape =>
      have refused : t.step? c = none :=
        step?_escaped_of_phase (by simp [TextScan.endsAtQuote, phase]) escaped
      cases refused.symm.trans stepped

/-! ## Everywhere -/

/-- The escaped text is read as the text is, if that is JSON to its end. -/
theorem run_safeChars {s : Scan} (literal : Literal s.phase) {cs : List Char}
    (intact : (run s cs).isIntact = true) : run s (safeChars cs) = run s cs := by
  induction cs generalizing s with
  | nil => rfl
  | cons c cs ih =>
      cases stepped : s.step? c with
      | none =>
          simp only [run, stepped, isIntact_abandon] at intact
          cases intact
      | some s' =>
          rw [run_cons stepped] at intact ⊢
          have rest := ih (literal_step? literal stepped) intact
          show run s (safeChar c ++ safeChars cs) = _
          by_cases escaped : IsEscaped c
          · cases phase : s.phase with
            | text isKey t =>
                obtain ⟨phase', frames⟩ := s
                cases phase
                have quote : c ≠ '"' := by rintro rfl; revert escaped; decide
                simp only [step?, quote, decide_false, Bool.false_and, Bool.false_eq_true,
                  if_false] at stepped
                obtain ⟨t', taken, rfl⟩ := Option.map_eq_some_iff.1 stepped
                rw [run_safeChar escaped taken, rest]
            | _ =>
                rw [step?_escaped literal (by simp [phase]) escaped] at stepped
                cases stepped
          · rw [safeChar_of_plain escaped]
            exact (run_cons stepped _).trans rest

end Json.Scan

/-- **Escaping does not change the document of a text that is JSON to its end.** -/
theorem Json.Document.ofChars_safeChars {cs : List Char}
    (intact : (Document.ofChars cs).isIntact = true) :
    Document.ofChars (safeChars cs) = Document.ofChars cs :=
  Scan.run_safeChars (s := {}) trivial intact

end Exclusion
