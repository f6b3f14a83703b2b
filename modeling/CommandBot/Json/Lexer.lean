import CommandBot.Json.Basic

/-!
# Lexical parts of JSON

Readers for the parts of JSON text that contain no others: words, strings and numbers, each read or
merely skipped. Text is read from the left, and the first fault found is the one reported.
-/

namespace CommandBot.Json

/-- Why a text is not the JSON that is wanted: it breaks the grammar, it ends early, or it has a
value of another shape. -/
inductive Fault where
  | malformed
  | truncated
  | mistyped
  deriving Repr, DecidableEq

/-- The customary name of a fault's category. -/
def Fault.category : Fault → String
  | .malformed => "Syntax"
  | .truncated => "Eof"
  | .mistyped => "Data"

/-- Reads something at the head of a text and hands on the text after it. -/
abbrev Reader (α : Type) := Text → Except Fault (α × Text)

/-- The blanks that may stand between the parts of JSON text. -/
def isSpace (c : Char) : Bool := c == ' ' || c == '\t' || c == '\n' || c == '\r'

/-- A text without leading blanks. -/
def skipSpace (t : Text) : Text := t.dropWhile isSpace

/-- The text after the characters of a word. -/
def skipWord : Text → Text → Except Fault Text
  | [], t => .ok t
  | _, [] => .error .truncated
  | c :: word, d :: r => if c == d then skipWord word r else .error .malformed

/-- Hands on what was read if only blanks follow it. -/
def readWhole {α : Type} (read : Reader α) (t : Text) : Except Fault α := do
  let (a, r) ← read t
  if (skipSpace r).isEmpty then .ok a else .error .malformed

/-- The value of a hexadecimal digit. -/
def hexValue? (c : Char) : Option Nat :=
  if c.isDigit then some (c.toNat - 48)
  else if 'a' ≤ c && c ≤ 'f' then some (c.toNat - 87)
  else if 'A' ≤ c && c ≤ 'F' then some (c.toNat - 55)
  else none

/-- Reads four hexadecimal digits. Four bytes must be left for them. -/
def readUnit : Reader Nat
  | a :: b :: c :: d :: r =>
    match hexValue? a, hexValue? b, hexValue? c, hexValue? d with
    | some a, some b, some c, some d => .ok (((a * 16 + b) * 16 + c) * 16 + d, r)
    | _, _, _, _ => .error .malformed
  | t => if t.foldl (fun n c => n + c.utf8Size) 0 < 4 then .error .truncated else .error .malformed

/-- The character that a backslash and one more character stand for. -/
def shortEscape? : Char → Option Char
  | '"' => some '"'
  | '\\' => some '\\'
  | '/' => some '/'
  | 'b' => some '\x08'
  | 'f' => some '\x0c'
  | 'n' => some '\n'
  | 'r' => some '\r'
  | 't' => some '\t'
  | _ => none

/-- Whether a unit of 16 bits must be followed by another one. -/
def isLeadingUnit (n : Nat) : Bool := 0xD800 ≤ n && n ≤ 0xDBFF

/-- Whether a unit of 16 bits must follow another one. -/
def isTrailingUnit (n : Nat) : Bool := 0xDC00 ≤ n && n ≤ 0xDFFF

/-- Reads the second of two units and combines them into a character. -/
def readTrailingUnit (leading : Nat) : Reader Char
  | [] | ['\\'] => .error .truncated
  | '\\' :: 'u' :: r => do
    let (n, r) ← readUnit r
    if isTrailingUnit n then
      .ok (Char.ofNat (0x10000 + (leading - 0xD800) * 0x400 + (n - 0xDC00)), r)
    else .error .malformed
  | _ => .error .malformed

/-- Reads what follows a backslash. -/
def readEscape : Reader Char
  | [] => .error .truncated
  | 'u' :: r => do
    let (n, r) ← readUnit r
    if isTrailingUnit n then .error .malformed
    else if isLeadingUnit n then readTrailingUnit n r
    else .ok (Char.ofNat n, r)
  | c :: r =>
    match shortEscape? c with
    | some e => .ok (e, r)
    | none => .error .malformed

/-- Skips what follows a backslash; units need not form characters. -/
def skipEscape : Reader Unit
  | [] => .error .truncated
  | 'u' :: r => (readUnit r).map fun (_, r) => ((), r)
  | c :: r => if (shortEscape? c).isSome then .ok ((), r) else .error .malformed

/-- Reads characters up to a closing quote, escapes by `escaped`; the first argument exceeds the
number of characters left. -/
def stringFrom {α : Type} (escaped : Reader α) (plain : Char → α) :
    Nat → Text → Except Fault (List α × Text)
  | 0, _ | _, [] => .error .truncated
  | fuel + 1, c :: r =>
    if c == '"' then .ok ([], r)
    else if c == '\\' then do
      let (x, r) ← escaped r
      let (xs, r) ← stringFrom escaped plain fuel r
      .ok (x :: xs, r)
    else if c.toNat < 0x20 then .error .malformed
    else do
      let (xs, r) ← stringFrom escaped plain fuel r
      .ok (plain c :: xs, r)

/-- Reads a string after its opening quote. -/
def readString (t : Text) : Except Fault (Text × Text) := stringFrom readEscape id (t.length + 1) t

/-- Skips a string after its opening quote. -/
def skipString (t : Text) : Except Fault Text :=
  (stringFrom skipEscape (fun _ => ()) (t.length + 1) t).map (·.2)

/-- A number as it is written. -/
structure WrittenNumber where
  negative : Bool
  whole : Text
  fraction : Text
  exponent : Option (Bool × Text)
  isInteger : Bool

/-- Reads digits, at least one; a missing one is the fault `missing` at the end of the text. -/
def readDigitRun (missing : Fault) (t : Text) : Except Fault (Text × Text) :=
  match t.takeWhile Char.isDigit with
  | [] => .error (if t.isEmpty then missing else .malformed)
  | run => .ok (run, t.dropWhile Char.isDigit)

/-- Reads the sign and digits of an exponent: whether it is negative, and its digits. -/
def readWrittenExponent (missing : Fault) : Reader (Bool × Text)
  | '-' :: r => (readDigitRun missing r).map fun (ds, r) => ((true, ds), r)
  | '+' :: r => (readDigitRun missing r).map fun (ds, r) => ((false, ds), r)
  | r => (readDigitRun missing r).map fun (ds, r) => ((false, ds), r)

/-- Reads a number as it is written, after its sign. A leading zero stands alone. -/
def readWritten (missing : Fault) (negative : Bool) : Reader WrittenNumber := fun t => do
  let (whole, t) ← readDigitRun missing t
  if whole.head? == some '0' && whole.length != 1 then .error .malformed
  let (fraction, t) ← match t with
    | '.' :: r => (readDigitRun missing r).map fun (ds, r) => (some ds, r)
    | t => .ok (none, t)
  let (exponent, t) ← match t with
    | 'e' :: r | 'E' :: r => (readWrittenExponent missing r).map fun (e, r) => (some e, r)
    | t => .ok (none, t)
  .ok (⟨negative, whole, fraction.getD [], exponent, fraction.isNone && exponent.isNone⟩, t)

/-- Continues a significand with digits as long as it stays within 64 bits, and counts the digits
used. -/
def gatherDigits : Nat → Text → Nat × Nat
  | n, [] => (n, 0)
  | n, c :: r =>
    let next := 10 * n + (c.toNat - 48)
    if Numeral.maxWord < next then (n, 0)
    else
      let (n, used) := gatherDigits next r
      (n, used + 1)

/-- The float `x · 10 ^ exponent`, computed in floats: one multiplication, or divisions by at most
`10 ^ 308` each. -/
def scaleFloat : Nat → Float → Int → Except Fault Float
  | 0, x, _ => .ok x
  | fuel + 1, x, e =>
    if 308 < e.natAbs then
      if x == 0 then .ok x
      else if 0 ≤ e then .error .malformed
      else scaleFloat fuel (x / Binary64.powerOfTen 308) (e + 308)
    else
      let power := Binary64.powerOfTen e.natAbs
      if 0 ≤ e then
        if Binary64.isFinite (x * power) then .ok (x * power) else .error .malformed
      else .ok (x / power)

/-- The greatest exponent that is taken at its value. -/
def maxExponent : Nat := Numeral.maxInt32

/-- The value of a written number. Integers of 64 bits stay integers; every other number becomes a
float, from as many leading digits as fit in 64 bits. A float that would be infinite is a fault.
Two divisions take any significand of 64 bits to zero, so a few steps of scaling suffice. -/
def WrittenNumber.value (w : WrittenNumber) : Except Fault Number := do
  let signed (x : Float) : Number := .float (if w.negative then -x else x)
  let (significand, used) := gatherDigits 0 w.whole
  let dropped := w.whole.length - used
  if w.isInteger && dropped == 0 then
    if !w.negative then .ok (.int significand)
    else if significand == 0 || Binary64.signBit < significand then
      .ok (signed (Binary64.ofInt significand))
    else .ok (.int (-significand))
  else
    let (significand, used) := gatherDigits significand w.fraction
    let start : Int := Int.ofNat dropped - Int.ofNat used
    let (negative, written) := match w.exponent with
      | none => (false, 0)
      | some (negative, ds) => (negative, Numeral.ofDigits ds)
    if maxExponent < written then
      if significand == 0 || negative then .ok (signed 0) else .error .malformed
    else
      let e := if negative then start - Int.ofNat written else start + Int.ofNat written
      (scaleFloat 6 (Binary64.ofInt significand) e).map signed

/-- Reads a number after its sign. -/
def readNumber (negative : Bool) : Reader Number := fun t => do
  let (w, t) ← readWritten .truncated negative t
  .ok (← w.value, t)

/-- Skips a number after its sign; here a number that stops short breaks the grammar. -/
def skipNumber (t : Text) : Except Fault Text := (readWritten .malformed false t).map (·.2)

end CommandBot.Json
