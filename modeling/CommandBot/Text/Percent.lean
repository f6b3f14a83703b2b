import CommandBot.Text.Basic

/-!
# Percent encoding

Unreserved characters stand for themselves, and every other byte of the UTF-8 form becomes a
percent sign with two capital hexadecimal digits.
-/

namespace CommandBot.Text

/-- The bytes of a text in UTF-8. -/
def toUtf8 (t : Text) : List UInt8 := t.flatMap String.utf8EncodeChar

/-- The bytes that need no encoding: letters, digits, hyphen, full stop, underscore and tilde. -/
def isUnreserved (b : UInt8) : Bool :=
  let c := Char.ofNat b.toNat
  b < 0x80 && (c.isAlphanum || c == '-' || c == '.' || c == '_' || c == '~')

/-- The capital hexadecimal digit of a number below sixteen. -/
def capitalHexDigit (n : Nat) : Char :=
  if n < 10 then Char.ofNat (48 + n) else Char.ofNat (55 + n)

/-- One byte in percent encoding. -/
def percentByte (b : UInt8) : Text :=
  if isUnreserved b then [Char.ofNat b.toNat]
  else ['%', capitalHexDigit (b.toNat / 16), capitalHexDigit (b.toNat % 16)]

/-- A text in percent encoding. -/
def percentEncode (t : Text) : Text := t.toUtf8.flatMap percentByte

end CommandBot.Text
