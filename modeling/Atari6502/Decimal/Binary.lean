/-! Finite doubles as integers scaled by a power of two. -/
namespace Atari6502.Decimal

/-- The number `significand * 2 ^ exponent`, negated if `negative`. -/
structure Binary where
  negative : Bool
  significand : Nat
  exponent : Int
deriving DecidableEq, Repr

namespace Binary

/-- Fraction bits of a double. -/
def fractionBits : Nat := 52

/-- The exponent of the smallest positive double. -/
def leastExponent : Int := -1074

/-- The value of a double, none for an infinity and for what is not a number. -/
def ofFloat? (x : Float) : Option Binary :=
  let bits := x.toBits.toNat
  let negative := 1 <<< 63 ≤ bits
  let biased : Nat := (bits >>> fractionBits) % 2048
  let fraction : Nat := bits % (1 <<< fractionBits)
  if biased = 2047 then none
  else if biased = 0 then some ⟨negative, fraction, leastExponent⟩
  else some ⟨negative, (1 <<< fractionBits) + fraction, leastExponent + biased - 1⟩

end Binary
end Atari6502.Decimal
