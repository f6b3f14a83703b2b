import CommandBot.Numeral.Binary64
import CommandBot.Numeral.Integer

/-!
# Floats in text

A float is written as an optional sign, digits with at most one decimal point among or beside
them, and an optional exponent; or as `inf`, `infinity` or `nan` in any case. It reads as the
nearest float.
-/

namespace CommandBot

/-- Why a text is not a float. -/
inductive FloatFault where
  | empty
  | invalid
  deriving Repr, DecidableEq

/-- The wording of a fault. -/
def FloatFault.message : FloatFault → String
  | .empty => "cannot parse float from empty string"
  | .invalid => "invalid float literal"

namespace FloatText

/-- The nearest float to `digits · 10 ^ exponent`. Magnitudes that are surely too large or too small
are settled by the number of digits. -/
def ofDecimal (negative : Bool) (digits : Nat) (exponent : Int) : Float :=
  let size := Int.ofNat (Numeral.printNat digits).length + exponent
  if digits = 0 || size < -400 then Binary64.ofQuotient negative 0 1
  else if 400 < size then Binary64.infinity negative
  else if 0 ≤ exponent then Binary64.ofQuotient negative (digits * Nat.pow 10 exponent.toNat) 1
  else Binary64.ofQuotient negative digits (Nat.pow 10 exponent.natAbs)

/-- Reads an exponent that takes up a whole text: nothing, or a mark, a sign if any, and digits. -/
def readExponent? : Text → Option Int
  | [] => some 0
  | mark :: r =>
    let (negative, ds) := match r with
      | '-' :: r => (true, r)
      | '+' :: r => (false, r)
      | r => (false, r)
    if (mark == 'e' || mark == 'E') && !ds.isEmpty && ds.all Char.isDigit then
      let n := Int.ofNat (Numeral.ofDigits ds)
      some (if negative then -n else n)
    else none

/-- Reads digits with at most one point and an optional exponent. -/
def readFinite? (negative : Bool) (t : Text) : Option Float :=
  let whole := t.takeWhile Char.isDigit
  let (fraction, rest) := match t.dropWhile Char.isDigit with
    | '.' :: r => (r.takeWhile Char.isDigit, r.dropWhile Char.isDigit)
    | r => ([], r)
  if whole.isEmpty && fraction.isEmpty then none
  else (readExponent? rest).map fun e =>
    ofDecimal negative (Numeral.ofDigits (whole ++ fraction)) (e - Int.ofNat fraction.length)

/-- Reads the names of the values that are not finite. -/
def readSpecial? (negative : Bool) (t : Text) : Option Float :=
  let name := t.map Char.toLower
  if name == "inf".toList || name == "infinity".toList then
    some (Binary64.infinity negative)
  else if name == "nan".toList then some (0.0 / 0.0)
  else none

/-- Reads a float that takes up a whole text. -/
def read (t : Text) : Except FloatFault Float :=
  if t.isEmpty then .error .empty
  else
    let (negative, r) := match t with
      | '-' :: r => (true, r)
      | '+' :: r => (false, r)
      | r => (false, r)
    match (readFinite? negative r).orElse fun _ => readSpecial? negative r with
    | some x => .ok x
    | none => .error .invalid

end FloatText

end CommandBot
