import Atari6502.Decimal.Binary

/-! Numbers with a fixed count of decimal places. -/
namespace Atari6502.Decimal

/-- The quotient rounded to the nearest integer, a half to the even one. -/
def roundDiv (num den : Nat) : Nat :=
  let quotient := num / den
  let twice := 2 * (num % den)
  if twice < den then quotient
  else if den < twice then quotient + 1
  else quotient + quotient % 2

/-- A power of ten. -/
def tenPow (n : Nat) : Nat :=
  Nat.pow 10 n

/-- The magnitude in units of `10 ^ -places`, rounded. -/
def Binary.inUnits (x : Binary) (places : Nat) : Nat :=
  roundDiv ((x.significand * tenPow places) <<< x.exponent.toNat) (1 <<< (-x.exponent).toNat)

/-- Decimal digits of `n`, at least `width` of them. -/
def digits (width n : Nat) : String :=
  let ds := Nat.toDigits 10 n
  String.ofList (List.replicate (width - ds.length) '0' ++ ds)

/-- The number with `places` digits after the point, never with an exponent. -/
def Binary.fixed (x : Binary) (places : Nat) : String :=
  let units := x.inUnits places
  (if x.negative then "-" else "") ++ digits 1 (units / tenPow places) ++ "." ++
    digits places (units % tenPow places)

end Atari6502.Decimal
