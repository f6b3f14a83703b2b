import CommandBot.Text.Basic

/-!
# Decimal integers

Integers of limited size read from text, and their printed form. A numeral is an optional sign and
one or more ASCII digits; leading zeros are fine, blanks are not. The first fault from the left is
the one reported.
-/

namespace CommandBot

/-- Why a text is not an integer of the wanted size. -/
inductive IntegerFault where
  | empty
  | invalidDigit
  | tooLarge
  | tooSmall
  deriving Repr, DecidableEq

/-- The wording of a fault. -/
def IntegerFault.message : IntegerFault → String
  | .empty => "cannot parse integer from empty string"
  | .invalidDigit => "invalid digit found in string"
  | .tooLarge => "number too large to fit in target type"
  | .tooSmall => "number too small to fit in target type"

namespace Numeral

/-- The value of an ASCII digit. -/
def digit? (c : Char) : Option Nat := if c.isDigit then some (c.toNat - 48) else none

/-- The value of a text of digits. -/
def ofDigits (t : Text) : Nat := t.foldl (fun n c => 10 * n + (c.toNat - 48)) 0

/-- Continues a number with further digits as long as it stays within `limit`. -/
def readDigits (limit : Nat) (overflow : IntegerFault) : Nat → Text → Except IntegerFault Nat
  | n, [] => .ok n
  | n, c :: r =>
    match digit? c with
    | none => .error .invalidDigit
    | some d =>
      if limit < 10 * n + d then .error overflow
      else readDigits limit overflow (10 * n + d) r

/-- A number from 0 to `limit`. -/
def readNat (limit : Nat) : Text → Except IntegerFault Nat
  | [] => .error .empty
  | ['+'] => .error .invalidDigit
  | '+' :: r => readDigits limit .tooLarge 0 r
  | t => readDigits limit .tooLarge 0 t

/-- An integer from `-(limit + 1)` to `limit`. -/
def readInt (limit : Nat) : Text → Except IntegerFault Int
  | ['-'] => .error .invalidDigit
  | '-' :: r => (readDigits (limit + 1) .tooSmall 0 r).map fun n => -Int.ofNat n
  | t => (readNat limit t).map Int.ofNat

/-- The greatest number of 64 bits. -/
def maxWord : Nat := 0xFFFFFFFFFFFFFFFF

/-- The greatest signed number of 32 bits. -/
def maxInt32 : Nat := 0x7FFFFFFF

/-- A number in decimal digits. -/
def printNat (n : Nat) : Text := Nat.toDigits 10 n

/-- An integer in decimal digits, with a hyphen in front if it is negative. -/
def printInt (n : Int) : Text :=
  if n < 0 then '-' :: printNat n.natAbs else printNat n.natAbs

/-- The lower-case hexadecimal digit of a number below sixteen. -/
def hexDigit (n : Nat) : Char := if n < 10 then Char.ofNat (48 + n) else Char.ofNat (87 + n)

end Numeral

end CommandBot
