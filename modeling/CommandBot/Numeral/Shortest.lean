import CommandBot.Numeral.Binary64
import CommandBot.Numeral.Integer

/-!
# Shortest decimals

The printed form of a float has the fewest digits that read back as the same float, and of the
decimals with that many digits the nearest one. A decimal reads back if it lies in the interval of
numbers that round to the float; its ends belong to it exactly if the significand is even.
-/

namespace CommandBot.Shortest

open Binary64

/-- A decimal `digits · 10 ^ exponent`. -/
structure Decimal where
  digits : Nat
  exponent : Int
  deriving Repr, DecidableEq

/-- A positive float in units of a quarter of its last place: the least and greatest number that
round to it, itself, and whether the ends count. -/
structure Neighbourhood where
  low : Nat
  value : Nat
  high : Nat
  closed : Bool

/-- The neighbourhood of a significand at an exponent. Below a power of two the floats lie twice as
close, unless they are as close as they can be. -/
def neighbourhood (m : Magnitude) : Neighbourhood :=
  let low := if m.significand = hiddenBit && -1074 < m.exponent then 4 * m.significand - 1
    else 4 * m.significand - 2
  ⟨low, 4 * m.significand, 4 * m.significand + 2, m.significand % 2 == 0⟩

/-- The point of the grid of multiples of `10 ^ e` that is nearest to the float among those that
round to it; a tie goes to the even multiple. -/
def onGrid? (m : Magnitude) (e : Int) : Option Nat :=
  let near := neighbourhood m
  let (num, den) := scale 1 1 (m.exponent - 2)
  let (up, down) := if 0 ≤ e then (1, Nat.pow 10 e.toNat) else (Nat.pow 10 e.natAbs, 1)
  -- `k · 10 ^ e` compares with `x · num / den` as `k · unit` with `x · part`
  let unit := down * den
  let part := up * num
  let inside (k : Nat) : Bool :=
    if near.closed then near.low * part ≤ k * unit && k * unit ≤ near.high * part
    else near.low * part < k * unit && k * unit < near.high * part
  let below := near.value * part / unit
  let above := below + 1
  let toBelow := near.value * part - below * unit
  let toAbove := above * unit - near.value * part
  match 0 < below && inside below, inside above with
  | true, true =>
    if toBelow < toAbove then some below
    else if toAbove < toBelow then some above
    else if below % 2 = 0 then some below else some above
  | true, false => some below
  | false, true => some above
  | false, false => none

/-- The first grid with a hit, from multiples of `10 ^ e` on to finer ones. -/
def search (m : Magnitude) : Nat → Int → Decimal
  | 0, e => ⟨0, e⟩
  | fuel + 1, e =>
    match onGrid? m e with
    | some k => ⟨k, e⟩
    | none => search m fuel (e - 1)

/-- The shortest decimal of a positive finite float. The greatest float is below `10 ^ 309`, and the
least one has a hit on the grid of `10 ^ -324`. -/
def decimal (x : Float) : Decimal := search (magnitude x) 634 309

/-- A decimal below `10 ^ 16` and not below `10 ^ -5` is written out with at least one digit on
both sides of the point, any other with one digit before the point and a signed exponent. -/
def Decimal.print (d : Decimal) : Text :=
  let ds := Numeral.printNat d.digits
  let point : Int := Int.ofNat ds.length + d.exponent
  if 16 < point || point < -4 then
    let fraction := match ds.drop 1 with
      | [] => []
      | r => '.' :: r
    let e := point - 1
    ds.take 1 ++ fraction ++ ['e', if e < 0 then '-' else '+'] ++ Numeral.printNat e.natAbs
  else if point ≤ 0 then "0.".toList ++ List.replicate point.natAbs '0' ++ ds
  else if 0 ≤ d.exponent then ds ++ List.replicate d.exponent.toNat '0' ++ ".0".toList
  else ds.take point.toNat ++ '.' :: ds.drop point.toNat

/-- The printed form of a finite float; zero keeps its sign. -/
def print (x : Float) : Text :=
  let unsigned := if x == 0 then "0.0".toList else (decimal x).print
  if isNegative x then '-' :: unsigned else unsigned

end CommandBot.Shortest
