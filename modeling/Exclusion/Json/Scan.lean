/-
# Exclusion.Json.Scan -- reading a text one character at a time

`Scan.step` takes one character; containers that are still open are held in a list of frames, so
that reading is a fold over the characters.  When a character cannot be taken, or the text ends
before the value does, `Scan.abandon` closes the open containers around the fault.  `Document.ofText`
is total: every text has a document.
-/
import Exclusion.Json.Document

namespace Exclusion.Json

set_option autoImplicit false

open Exclusion.Text

/-! ## Numerals -/

/-- How far a number has been read. -/
inductive NumeralPhase where
  | minus
  /-- A whole part that is a single zero. -/
  | zero
  | whole
  | point
  | fraction
  | mark
  | sign
  | exponent
  deriving DecidableEq, Repr

/-- A number under construction; digits newest first. -/
structure Numeral where
  phase : NumeralPhase
  negative : Bool := false
  whole : List Char := []
  fraction : Option (List Char) := none
  exponentNegative : Bool := false
  exponent : Option (List Char) := none
  deriving DecidableEq, Repr

namespace Numeral

def isComplete (n : Numeral) : Bool :=
  match n.phase with
  | .zero | .whole | .fraction | .exponent => true
  | .minus | .point | .mark | .sign => false

/-- What a character makes of a number: none if it does not belong to it. -/
def step? (n : Numeral) (c : Char) : Option Numeral :=
  let wholeDigit : Option Numeral :=
    if c = '0' then some { n with phase := .zero, whole := [c] }
    else if isDigit c then some { n with phase := .whole, whole := [c] }
    else none
  let afterDigits : Option Numeral :=
    if c = 'e' ∨ c = 'E' then some { n with phase := .mark, exponent := some [] } else none
  let afterWhole : Option Numeral :=
    if c = '.' then some { n with phase := .point, fraction := some [] } else afterDigits
  let exponentDigit : Option Numeral :=
    if isDigit c then
      some { n with phase := .exponent, exponent := some (c :: n.exponent.getD []) }
    else none
  let fractionDigit : Option Numeral :=
    if isDigit c then
      some { n with phase := .fraction, fraction := some (c :: n.fraction.getD []) }
    else none
  match n.phase with
  | .minus => wholeDigit
  | .zero => afterWhole
  | .whole => if isDigit c then some { n with whole := c :: n.whole } else afterWhole
  | .point => fractionDigit
  | .fraction => if isDigit c then fractionDigit else afterDigits
  | .mark =>
    if c = '+' then some { n with phase := .sign }
    else if c = '-' then some { n with phase := .sign, exponentNegative := true }
    else exponentDigit
  | .sign => exponentDigit
  | .exponent => exponentDigit

/-- A character that cannot stand after the digits read so far: a digit after a leading zero. -/
def refuses (n : Numeral) (c : Char) : Bool :=
  n.phase == .zero && isDigit c

def number? (n : Numeral) : Option Number :=
  Number.ofParts? {
    negative := n.negative
    whole := n.whole.reverse
    fraction := n.fraction.map List.reverse
    exponent := n.exponent.map fun digits =>
      let size : Int := digitsValue digits.reverse
      if n.exponentNegative then -size else size }

end Numeral

/-! ## Strings -/

/-- How far a string has been read. -/
inductive TextPhase where
  | plain
  | escape
  /-- Inside a four digit escape: digits read, their value, and the first half of a pair before. -/
  | hex (count : Nat) (value : Nat) (high : Option Nat)
  /-- After the first half of a pair. -/
  | high (unit : Nat)
  /-- After the first half of a pair and a backslash. -/
  | highEscape (unit : Nat)
  deriving DecidableEq, Repr

/-- A string under construction; characters newest first.  It is sound as long as its escapes make
characters. -/
structure TextScan where
  phase : TextPhase := .plain
  chars : List Char := []
  sound : Bool := true
  deriving DecidableEq, Repr

namespace TextScan

def isHigh (unit : Nat) : Bool :=
  0xD800 ≤ unit && unit ≤ 0xDBFF

def isLow (unit : Nat) : Bool :=
  0xDC00 ≤ unit && unit ≤ 0xDFFF

def pairChar (high low : Nat) : Char :=
  Char.ofNat (0x10000 + (high - 0xD800) * 0x400 + (low - 0xDC00))

/-- The character that a letter stands for after a backslash. -/
def escapeLetter? (c : Char) : Option Char :=
  if c = '"' ∨ c = '\\' ∨ c = '/' then some c
  else if c = 'b' then some '\x08'
  else if c = 'f' then some '\x0c'
  else if c = 'n' then some '\n'
  else if c = 'r' then some '\r'
  else if c = 't' then some '\t'
  else none

def push (t : TextScan) (c : Char) : TextScan :=
  { t with phase := .plain, chars := c :: t.chars }

/-- The escapes read so far make no character. -/
def spoil (t : TextScan) : TextScan :=
  { t with phase := .plain, sound := false }

/-- Takes a code unit given by its four digits. -/
def unit (t : TextScan) (value : Nat) : Option Nat → TextScan
  | none =>
    if isLow value then t.spoil
    else if isHigh value then { t with phase := .high value }
    else t.push (Char.ofNat value)
  | some high => if isLow value then t.push (pairChar high value) else t.spoil

/-- Takes the character after a backslash; none if no escape begins so. -/
def stepEscape? (t : TextScan) (c : Char) : Option TextScan :=
  if c = 'u' then some { t with phase := .hex 0 0 none } else (escapeLetter? c).map t.push

/-- Takes a character that is not the closing quote; none if it cannot stand in a string. -/
def stepPlain? (t : TextScan) (c : Char) : Option TextScan :=
  if c = '\\' then some { t with phase := .escape }
  else if c.toNat < 0x20 then none
  else some (t.push c)

/-- Takes a character other than a closing quote. -/
def step? (t : TextScan) (c : Char) : Option TextScan :=
  match t.phase with
  | .plain => t.stepPlain? c
  | .escape => t.stepEscape? c
  | .hex count value high =>
    (hexValue? c).map fun digit =>
      let value := 16 * value + digit
      if count = 3 then t.unit value high else { t with phase := .hex (count + 1) value high }
  | .high unit =>
    if c = '\\' then some { t with phase := .highEscape unit } else t.spoil.stepPlain? c
  | .highEscape unit =>
    if c = 'u' then some { t with phase := .hex 0 0 (some unit) } else t.spoil.stepEscape? c

/-- A quote ends the string here. -/
def endsAtQuote (t : TextScan) : Bool :=
  match t.phase with
  | .plain | .high _ => true
  | _ => false

/-- The string that has been read up to its closing quote. -/
def string? (t : TextScan) : Option String :=
  if t.sound && t.phase == .plain then some (.ofList t.chars.reverse) else none

/-- How many bytes the characters take in UTF-8. -/
def byteCount (cs : List Char) : Nat :=
  cs.foldl (fun n c => n + c.utf8Size) 0

/-- What is wrong when the string cannot go on with `rest`.  An escape that the text is too short
for counts as cut off, whatever stands in its place. -/
def fault (t : TextScan) (rest : List Char) : Fault :=
  let stop : Stop :=
    match t.phase, rest with
    | _, [] => .truncated
    | .hex count _ _, rest => if count + byteCount rest < 4 then .truncated else .malformed
    | _, _ => .malformed
  let unpaired : Bool :=
    match t.phase, rest with
    | .high _, _ :: _ | .highEscape _, _ :: _ => true
    | _, _ => false
  let reading := if !t.sound || unpaired then .malformed else stop
  ⟨reading, stop, reading⟩

end TextScan

/-! ## Values -/

/-- A container that is still open; contents newest first. -/
inductive Frame where
  | array (items : List Node)
  | object (members : List (Option String × Node))
  /-- An object with a member whose value is being read. -/
  | member (members : List (Option String × Node)) (key : Option String)
  deriving Repr

/-- How far a value has been read. -/
inductive Phase where
  | start
  /-- After an opening bracket. -/
  | firstItem
  /-- After a comma of an array. -/
  | nextItem
  /-- After an opening brace. -/
  | firstKey
  /-- After a comma of an object. -/
  | nextKey
  | colon
  /-- After an item or a member of the open container. -/
  | after
  | finished (value : Node)
  /-- Inside `null`, `true` or `false`. -/
  | word (left : List Char) (value : Node)
  | numeral (n : Numeral)
  | text (isKey : Bool) (t : TextScan)
  deriving Repr

/-- A text read up to some place. -/
structure Scan where
  phase : Phase := .start
  frames : List Frame := []
  deriving Repr

namespace Scan

/-- White space between the parts of a JSON text. -/
def isSpace (c : Char) : Bool :=
  c == ' ' || c == '\n' || c == '\t' || c == '\r'

/-- A value has been read: it goes into the container around it. -/
def complete (frames : List Frame) (value : Node) : Scan :=
  match frames with
  | [] => ⟨.finished value, []⟩
  | .array items :: outer => ⟨.after, .array (value :: items) :: outer⟩
  | .member members key :: outer => ⟨.after, .object ((key, value) :: members) :: outer⟩
  | .object members :: outer => ⟨.after, .object members :: outer⟩

def begin? (frames : List Frame) (c : Char) : Option Scan :=
  if c = 'n' then some ⟨.word "ull".toList .null, frames⟩
  else if c = 't' then some ⟨.word "rue".toList (.bool true), frames⟩
  else if c = 'f' then some ⟨.word "alse".toList (.bool false), frames⟩
  else if c = '-' then some ⟨.numeral { phase := .minus, negative := true }, frames⟩
  else if c = '0' then some ⟨.numeral { phase := .zero, whole := [c] }, frames⟩
  else if isDigit c then some ⟨.numeral { phase := .whole, whole := [c] }, frames⟩
  else if c = '"' then some ⟨.text false {}, frames⟩
  else if c = '[' then some ⟨.firstItem, .array [] :: frames⟩
  else if c = '\x7b' then some ⟨.firstKey, .object [] :: frames⟩
  else none

def close? (frames : List Frame) (c : Char) : Option Scan :=
  match frames with
  | .array items :: outer =>
    if c = ']' then some (complete outer (.array items.reverse .closed)) else none
  | .object members :: outer =>
    if c = '\x7d' then some (complete outer (.object members.reverse .closed)) else none
  | _ => none

def stepAfter? (s : Scan) (c : Char) : Option Scan :=
  if isSpace c then some s
  else
    match s.phase, s.frames with
    | .after, .array items :: outer =>
      if c = ',' then some ⟨.nextItem, .array items :: outer⟩ else close? s.frames c
    | .after, .object members :: outer =>
      if c = ',' then some ⟨.nextKey, .object members :: outer⟩ else close? s.frames c
    | _, _ => none

def beginKey? (frames : List Frame) (c : Char) : Option Scan :=
  if c = '"' then some ⟨.text true {}, frames⟩ else none

/-- A string has been read: it is a key or a value. -/
def completeText (frames : List Frame) (isKey : Bool) (s : Option String) : Scan :=
  match isKey, frames with
  | true, .object members :: outer => ⟨.colon, .member members s :: outer⟩
  | _, _ => complete frames (.string s)

/-- Takes one character; none if the text cannot go on with it. -/
def step? (s : Scan) (c : Char) : Option Scan :=
  match s.phase with
  | .start | .nextItem => if isSpace c then some s else begin? s.frames c
  | .firstItem =>
    if isSpace c then some s else if c = ']' then close? s.frames c else begin? s.frames c
  | .firstKey =>
    if isSpace c then some s else if c = '\x7d' then close? s.frames c else beginKey? s.frames c
  | .nextKey => if isSpace c then some s else beginKey? s.frames c
  | .colon => if isSpace c then some s else if c = ':' then some ⟨.start, s.frames⟩ else none
  | .after | .finished _ => s.stepAfter? c
  | .word (l :: left) value =>
    if c = l then
      if left.isEmpty then some (complete s.frames value) else some ⟨.word left value, s.frames⟩
    else none
  | .word [] _ => none
  | .numeral n =>
    match n.step? c with
    | some n => some ⟨.numeral n, s.frames⟩
    | none =>
      if n.isComplete && !n.refuses c then
        (complete s.frames (.number n.number?)).stepAfter? c
      else none
  | .text isKey t =>
    if c = '"' && t.endsAtQuote then some (completeText s.frames isKey t.string?)
    else (t.step? c).map fun t => ⟨.text isKey t, s.frames⟩

/-! ## Where the text stops being JSON -/

/-- Closes the containers around a value that is broken or was cut off. -/
def enclose (value : Node) : List Frame → Node
  | [] => value
  | .array items :: outer =>
    enclose (.array (value :: items).reverse (.severed (Stop.fault .malformed) true)) outer
  | .member members key :: outer =>
    enclose (.object ((key, value) :: members).reverse (.severed (Stop.fault .malformed) true)) outer
  | .object members :: outer =>
    enclose (.object members.reverse (.severed (Stop.fault .malformed) true)) outer

/-- Ends the innermost container and closes the others around it. -/
def sever (frames : List Frame) (ending : Ending) : Node :=
  match frames with
  | .array items :: outer => enclose (.array items.reverse ending) outer
  | .object members :: outer => enclose (.object members.reverse ending) outer
  | .member members _ :: outer => enclose (.object members.reverse ending) outer
  | [] => .broken (Stop.fault .malformed)

/-- What is wrong where `rest` cannot go on: it is empty, or something else stands there. -/
def stopAt (rest : List Char) : Stop :=
  if rest.isEmpty then .truncated else .malformed

/-- The document of a text that cannot go on with `rest`, when no number is being read. -/
def abandonPlain (s : Scan) (rest : List Char) : Document :=
  let stop := stopAt rest
  let broken (f : Fault) : Document := ⟨enclose (.broken f) s.frames, false⟩
  let severed (afterComma : Bool) : Document :=
    ⟨sever s.frames (.severed stop.fault afterComma), false⟩
  match s.phase, rest with
  | .finished value, [] => ⟨value, false⟩
  | .finished value, _ :: _ => ⟨value, true⟩
  | .firstItem, [] => severed false
  | .nextItem, [] | .nextItem, ']' :: _ => severed true
  | .firstKey, _ => severed false
  | .nextKey, _ => severed true
  | .after, _ => severed false
  | .word _ _, _ => broken ⟨stop, stop, .malformed⟩
  | .text true t, rest =>
    let afterComma := match s.frames with
      | .object (_ :: _) :: _ => true
      | _ => false
    ⟨sever s.frames (.severed (t.fault rest) afterComma), false⟩
  | .text false t, rest => broken (t.fault rest)
  | .numeral _, rest => broken ⟨stopAt rest, .malformed, .malformed⟩
  | .start, _ | .firstItem, _ | .nextItem, _ | .colon, _ => broken stop.fault

/-- The document of a text that cannot go on with `rest`.  A number that is complete has been read. -/
def abandon (s : Scan) (rest : List Char) : Document :=
  match s.phase with
  | .numeral n =>
    if n.isComplete && !(rest.head?.any n.refuses) then
      (complete s.frames (.number n.number?)).abandonPlain rest
    else s.abandonPlain rest
  | _ => s.abandonPlain rest

/-- The document of a text that goes on with these characters. -/
def run (s : Scan) : List Char → Document
  | [] => s.abandon []
  | c :: cs =>
    match s.step? c with
    | some s => s.run cs
    | none => s.abandon (c :: cs)

end Scan

def Document.ofChars (cs : List Char) : Document :=
  Scan.run {} cs

def Document.ofText (text : String) : Document :=
  .ofChars text.toList

end Exclusion.Json
