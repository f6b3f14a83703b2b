/-!
# Binary fractions of 64 bits

The value of a finite float is `m · 2 ^ q` for whole numbers `m` and `q`. This file takes a float
apart into these, and rounds a quotient of whole numbers to the nearest float, a tie going to the
even significand.
-/

namespace CommandBot.Binary64

/-- The magnitude of a finite float: `significand · 2 ^ exponent`. -/
structure Magnitude where
  significand : Nat
  exponent : Int
  deriving Repr, DecidableEq

/-- The bit above the fraction of a normal float's significand. -/
def hiddenBit : Nat := 0x10000000000000

/-- The bit that tells the sign of a float. -/
def signBit : Nat := 0x8000000000000000

/-- The bits of positive infinity. -/
def infinityBits : Nat := 0x7FF0000000000000

/-- Whether the sign bit of a float is set. -/
def isNegative (x : Float) : Bool := signBit ≤ x.toBits.toNat

/-- Whether a float is neither infinite nor not a number. -/
def isFinite (x : Float) : Bool := x.toBits.toNat % signBit < infinityBits

/-- The magnitude of a finite float. -/
def magnitude (x : Float) : Magnitude :=
  let bits := x.toBits.toNat % signBit
  let biased := bits / hiddenBit
  let fraction := bits % hiddenBit
  if biased = 0 then ⟨fraction, -1074⟩ else ⟨hiddenBit + fraction, Int.ofNat biased - 1075⟩

/-- A quotient times a power of two, as a quotient. -/
def scale (num den : Nat) (e : Int) : Nat × Nat :=
  if 0 ≤ e then (num * Nat.pow 2 e.toNat, den) else (num, den * Nat.pow 2 e.natAbs)

/-- The whole part of a finite float, rounded toward zero. -/
def truncate (x : Float) : Int :=
  let m := magnitude x
  let (num, den) := scale m.significand 1 m.exponent
  if isNegative x then -Int.ofNat (num / den) else Int.ofNat (num / den)

/-- The nearest whole number to a quotient, a tie going to the even one. -/
def roundQuotient (num den : Nat) : Nat :=
  let q := num / den
  let twice := 2 * (num % den)
  if den < twice || (twice == den && q % 2 == 1) then q + 1 else q

/-- The float with the given bits for its magnitude. -/
def ofMagnitudeBits (negative : Bool) (bits : Nat) : Float :=
  Float.ofBits (UInt64.ofNat (if negative then signBit + bits else bits))

/-- Infinity of either sign. -/
def infinity (negative : Bool) : Float := ofMagnitudeBits negative infinityBits

/-- The nearest float to `num / den`, negated if wanted; infinite where no finite one is near. The
exponent is chosen so that the significand has 53 bits, or is the least there is. -/
def ofQuotient (negative : Bool) (num den : Nat) : Float :=
  if num = 0 then ofMagnitudeBits negative 0
  else
    let low : Int := Int.ofNat num.log2 - Int.ofNat den.log2 - 53
    let (n, d) := scale num den (-low)
    let q := max (-1074) (if 2 * hiddenBit ≤ n / d then low + 1 else low)
    let (n, d) := scale num den (-q)
    ofMagnitudeBits negative <|
      min infinityBits ((q + 1074).toNat * hiddenBit + roundQuotient n d)

/-- The nearest float to an integer. -/
def ofInt (n : Int) : Float := ofQuotient (n < 0) n.natAbs 1

/-- The nearest float to a power of ten. -/
def powerOfTen (n : Nat) : Float := ofQuotient false (Nat.pow 10 n) 1

end CommandBot.Binary64
