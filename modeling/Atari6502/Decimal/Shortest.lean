import Atari6502.Decimal.Fixed

/-!
The shortest decimal text of a double: the fewest digits that read back as the same double, and
of those the nearest.
-/
namespace Atari6502.Decimal

/-- The number `digits * 10 ^ exponent`. -/
structure Scientific where
  digits : Nat
  exponent : Int
deriving DecidableEq, Repr

namespace Binary

/-- Neighbours of a power of two are nearer below than above. -/
def isLopsided (x : Binary) : Bool :=
  x.significand = 1 <<< fractionBits ∧ leastExponent < x.exponent

/-- The point of the grid of multiples of `10 ^ k` that is nearest to the magnitude, if it rounds
to the magnitude. All lengths are quarters of the last binary place, scaled to integers. -/
def onGrid? (x : Binary) (k : Int) : Option Scientific :=
  let quarter := tenPow (-k).toNat <<< (x.exponent - 2).toNat
  let step := tenPow k.toNat <<< (2 - x.exponent).toNat
  let value := 4 * x.significand * quarter
  let below := if x.isLopsided then quarter else 2 * quarter
  let above := 2 * quarter
  let closed := x.significand % 2 = 0
  let inside (n : Nat) : Bool :=
    let point := n * step
    if closed then value ≤ point + below ∧ point ≤ value + above
    else value < point + below ∧ point < value + above
  let lo := value / step
  let nearest := roundDiv value step
  let other := if nearest = lo then lo + 1 else lo
  if inside nearest then some ⟨nearest, k⟩
  else if inside other then some ⟨other, k⟩
  else none

/-- The first hit on the grids `10 ^ k`, `10 ^ (k - 1)` and so on. -/
def search (x : Binary) : Nat → Int → Scientific
  | 0, k => ⟨roundDiv ((x.significand * tenPow (-k).toNat) <<< x.exponent.toNat)
      (tenPow k.toNat <<< (-x.exponent).toNat), k⟩
  | steps + 1, k => (x.onGrid? k).getD (x.search steps (k - 1))

/-- The shortest decimal that rounds to the magnitude. The search starts on a grid coarser than
the number, and seventeen digits are always enough. -/
def shortest (x : Binary) : Scientific :=
  if x.significand = 0 then ⟨0, 0⟩
  else x.search 20 ((x.significand.log2 + 1 + x.exponent) * 30103 / 100000 + 1)

end Binary

/-- A decimal of which `point` digits stand before the point. -/
def positional (ds : List Char) (point : Int) : String :=
  let whole := ds.take point.toNat ++ List.replicate (point.toNat - ds.length) '0'
  let fraction := List.replicate (-point).toNat '0' ++ ds.drop point.toNat
  String.ofList (if whole = [] then ['0'] else whole) ++ "." ++
    String.ofList (if fraction = [] then ['0'] else fraction)

/-- A decimal with one digit before the point and a signed exponent. -/
def exponential (ds : List Char) (exponent : Int) : String :=
  let fraction := ds.drop 1
  String.ofList (ds.take 1) ++ (if fraction = [] then "" else "." ++ String.ofList fraction) ++
    (if exponent < 0 then "e-" else "e+") ++ digits 1 exponent.natAbs

/-- The shortest text of the number: positional from `1e-5` up to below `1e16`, and there always
with a point, elsewhere with an exponent. -/
def Binary.general (x : Binary) : String :=
  let short := x.shortest
  let ds := Nat.toDigits 10 short.digits
  let leading : Int := short.exponent + ds.length - 1
  let magnitude :=
    if -5 ≤ leading ∧ leading < 16 then positional ds (leading + 1) else exponential ds leading
  (if x.negative then "-" else "") ++ magnitude

end Atari6502.Decimal
