import Atari6502.Settings.Scan

/-!
Numbers of settings documents. Whole numbers up to 64 bits are exact. All others become doubles: the
digits that fit 64 bits are multiplied or divided by one power of ten.
-/
namespace Atari6502.Settings

inductive Number where
  | natural (value : Nat)
  /-- A whole number below zero, given by its magnitude. -/
  | negative (magnitude : Nat)
  | real (value : Float)

def Number.found : Number → Found
  | natural value => .integer value
  | negative magnitude => .integer (-magnitude)
  | real value => .real value

namespace Scan

/-- The largest significand. -/
def maxSignificand : Nat := 0xFFFFFFFFFFFFFFFF

/-- The largest exponent that can be written. -/
def maxExponent : Nat := 0x7FFFFFFF

/-- The largest power of ten that is a double. -/
def maxPower : Nat := 308

def startsWithDigit (s : Bytes) : Bool :=
  s.head?.any Ascii.isDigit

def skipDigits (s : Bytes) : Bytes :=
  s.dropWhile Ascii.isDigit

/-- Appends digits to `n`, up to the first that would lead beyond `limit`. -/
def digits (limit n : Nat) : Bytes → Nat × Bytes
  | [] => (n, [])
  | b :: s =>
    if Ascii.isDigit b ∧ n * 10 + Ascii.digit b ≤ limit then
      digits limit (n * 10 + Ascii.digit b) s
    else (n, b :: s)

/-- `x` times a power of ten, none if that is too large for a double. -/
def scale (x : Float) (exponent : Int) : Option Float :=
  if exponent.natAbs ≤ maxPower then
    let power := Float.ofScientific 1 false exponent.natAbs
    if exponent < 0 then some (x / power)
    else if (x * power).isInf then none
    else some (x * power)
  else if x == 0 then some x
  else if 0 < exponent then none
  else scale (x / Float.ofScientific 1 false maxPower) (exponent + maxPower)
termination_by exponent.natAbs
decreasing_by simp only [maxPower] at *; omega

/-- The sign of a number, and the digits of its significand. -/
structure Significand where
  isNegative : Bool
  value : Nat

namespace Significand

def signed (x : Significand) (magnitude : Float) : Number :=
  .real (if x.isNegative then -magnitude else magnitude)

/-- The number with this significand, which ends at `s`. -/
def scaled (x : Significand) (exponent : Int) (s : Bytes) : Except Stop (Number × Bytes) :=
  match scale (Float.ofNat x.value) exponent with
  | some magnitude => .ok (x.signed magnitude, s)
  | none => .error (.before .numberOutOfRange s)

/-- The digits of the exponent. An exponent too large to be written is an infinite one. -/
def exponentDigits (x : Significand) (start : Int) (isDown : Bool) :
    Bytes → Except Stop (Number × Bytes)
  | [] => .error (.before .endInValue [])
  | b :: s =>
    if !Ascii.isDigit b then .error (.before .badNumber s)
    else
      let (exponent, r) := digits maxExponent (Ascii.digit b) s
      if startsWithDigit r then
        if x.value ≠ 0 ∧ !isDown then .error (.before .numberOutOfRange (r.drop 1))
        else .ok (x.signed 0, skipDigits r)
      else
        x.scaled (if isDown then start - exponent else start + exponent) r

/-- The exponent, behind its letter. -/
def exponentPart (x : Significand) (start : Int) : Bytes → Except Stop (Number × Bytes)
  | [] => x.exponentDigits start false []
  | b :: s =>
    if b = Ascii.plus then x.exponentDigits start false s
    else if b = Ascii.minus then x.exponentDigits start true s
    else x.exponentDigits start false (b :: s)

/-- The exponent, if there is one. -/
def exponent? (x : Significand) (start : Int) : Bytes → Except Stop (Number × Bytes)
  | [] => x.scaled start []
  | b :: s =>
    if b = Ascii.lowerE ∨ b = Ascii.upperE then x.exponentPart start s
    else x.scaled start (b :: s)

/-- The digits behind the point, and all that follows. Digits that do not fit are dropped. -/
def fractionPart (x : Significand) (start : Int) (s : Bytes) : Except Stop (Number × Bytes) :=
  let (value, r) := digits maxSignificand x.value s
  let places : Nat := s.length - r.length
  if places = 0 ∧ !startsWithDigit r then
    .error (.behind (if r.isEmpty then .endInValue else .badNumber) r)
  else
    exponent? { x with value } (start - places) (skipDigits r)

/-- The whole number, if no point and no exponent follow. -/
def whole (x : Significand) : Number :=
  if !x.isNegative then .natural x.value
  else if x.value = 0 ∨ 0x8000000000000000 < x.value then x.signed (Float.ofNat x.value)
  else .negative x.value

/-- What follows the digits before the point. -/
def wholePart (x : Significand) : Bytes → Except Stop (Number × Bytes)
  | [] => .ok (x.whole, [])
  | b :: s =>
    if b = Ascii.point then x.fractionPart 0 s
    else if b = Ascii.lowerE ∨ b = Ascii.upperE then x.exponentPart 0 s
    else .ok (x.whole, b :: s)

/-- What follows `dropped` digits before the point that do not fit. -/
def longPart (x : Significand) (dropped : Nat) : Bytes → Except Stop (Number × Bytes)
  | [] => x.scaled dropped []
  | b :: s =>
    if b = Ascii.point then x.fractionPart dropped s else x.exponent? dropped (b :: s)

end Significand

/-- A number behind its sign. -/
def unsigned (isNegative : Bool) : Bytes → Except Stop (Number × Bytes)
  | [] => .error (.before .endInValue [])
  | b :: s =>
    if b = Ascii.zero then
      if startsWithDigit s then .error (.behind .badNumber s)
      else Significand.wholePart ⟨isNegative, 0⟩ s
    else if !Ascii.isDigit b then .error (.before .badNumber s)
    else
      let (value, r) := digits maxSignificand (Ascii.digit b) s
      let x : Significand := ⟨isNegative, value⟩
      if startsWithDigit r then
        let rest := skipDigits r
        x.longPart (r.length - rest.length) rest
      else x.wholePart r

/-- A number. The first byte is a minus sign or a digit. -/
def number : Bytes → Except Stop (Number × Bytes)
  | [] => unsigned false []
  | b :: s => if b = Ascii.minus then unsigned true s else unsigned false (b :: s)

/-- Passes over the exponent, behind its letter. -/
def skipExponent (s : Bytes) : Except Stop Bytes :=
  let s := match s with
    | [] => []
    | b :: r => if b = Ascii.plus ∨ b = Ascii.minus then r else s
  match s with
  | [] => .error (.before .badNumber [])
  | b :: s =>
    if Ascii.isDigit b then .ok (skipDigits s) else .error (.before .badNumber s)

/-- Passes over what follows the digits before the point. -/
def skipFraction : Bytes → Except Stop Bytes
  | [] => .ok []
  | b :: s =>
    if b = Ascii.point then
      if !startsWithDigit s then .error (.behind .badNumber s)
      else
        match skipDigits s with
        | [] => .ok []
        | b :: r =>
          if b = Ascii.lowerE ∨ b = Ascii.upperE then skipExponent r else .ok (b :: r)
    else if b = Ascii.lowerE ∨ b = Ascii.upperE then skipExponent s
    else .ok (b :: s)

/-- Passes over a number behind its sign. -/
def skipUnsigned : Bytes → Except Stop Bytes
  | [] => .error (.before .badNumber [])
  | b :: s =>
    if b = Ascii.zero then
      if startsWithDigit s then .error (.behind .badNumber s) else skipFraction s
    else if Ascii.isDigit b then skipFraction (skipDigits s)
    else .error (.before .badNumber s)

/-! A number leaves fewer bytes than it found. -/

theorem length_skipDigits_le (s : Bytes) : (skipDigits s).length ≤ s.length :=
  (List.dropWhile_sublist _).length_le

theorem length_digits_le (limit n : Nat) (s : Bytes) :
    (digits limit n s).2.length ≤ s.length := by
  induction s generalizing n with
  | nil => exact Nat.le_refl _
  | cons b s ih =>
    unfold digits
    split
    · exact Nat.le_succ_of_le (ih _)
    · exact Nat.le_refl _

namespace Significand

theorem length_scaled_le {x : Significand} {exponent : Int} {s r : Bytes} {n : Number}
    (h : x.scaled exponent s = .ok (n, r)) : r.length ≤ s.length := by
  unfold scaled at h
  cases hscale : scale (Float.ofNat x.value) exponent with
  | none =>
    rw [hscale] at h
    cases h
  | some magnitude =>
    rw [hscale] at h
    cases h
    exact Nat.le_refl _

theorem length_exponentDigits_le {x : Significand} {start : Int} {isDown : Bool} {s r : Bytes}
    {n : Number} (h : x.exponentDigits start isDown s = .ok (n, r)) : r.length ≤ s.length := by
  unfold exponentDigits at h
  cases s with
  | nil => cases h
  | cons b s =>
    have hdigits := length_digits_le maxExponent (Ascii.digit b) s
    cases hread : digits maxExponent (Ascii.digit b) s with
    | mk exponent t =>
      rw [hread] at hdigits
      simp only [hread] at h hdigits
      rw [List.length_cons]
      split at h
      · cases h
      · split at h
        · split at h
          · cases h
          · cases h
            have hskip := length_skipDigits_le t
            omega
        · have hscaled := length_scaled_le h
          omega

theorem length_exponentPart_le {x : Significand} {start : Int} {s r : Bytes} {n : Number}
    (h : x.exponentPart start s = .ok (n, r)) : r.length ≤ s.length := by
  unfold exponentPart at h
  cases s with
  | nil => exact length_exponentDigits_le h
  | cons b s =>
    dsimp only at h
    split at h
    · exact Nat.le_succ_of_le (length_exponentDigits_le h)
    · split at h
      · exact Nat.le_succ_of_le (length_exponentDigits_le h)
      · exact length_exponentDigits_le h

theorem length_exponent?_le {x : Significand} {start : Int} {s r : Bytes} {n : Number}
    (h : x.exponent? start s = .ok (n, r)) : r.length ≤ s.length := by
  unfold exponent? at h
  cases s with
  | nil => exact length_scaled_le h
  | cons b s =>
    dsimp only at h
    split at h
    · exact Nat.le_succ_of_le (length_exponentPart_le h)
    · exact length_scaled_le h

theorem length_fractionPart_le {x : Significand} {start : Int} {s r : Bytes} {n : Number}
    (h : x.fractionPart start s = .ok (n, r)) : r.length ≤ s.length := by
  unfold fractionPart at h
  have hdigits := length_digits_le maxSignificand x.value s
  cases hread : digits maxSignificand x.value s with
  | mk value t =>
    rw [hread] at hdigits
    simp only [hread] at h hdigits
    split at h
    · cases h
    · have hskip := length_skipDigits_le t
      have hexponent := length_exponent?_le h
      omega

theorem length_wholePart_le {x : Significand} {s r : Bytes} {n : Number}
    (h : x.wholePart s = .ok (n, r)) : r.length ≤ s.length := by
  unfold wholePart at h
  cases s with
  | nil =>
    cases h
    exact Nat.le_refl _
  | cons b s =>
    dsimp only at h
    split at h
    · exact Nat.le_succ_of_le (length_fractionPart_le h)
    · split at h
      · exact Nat.le_succ_of_le (length_exponentPart_le h)
      · cases h
        exact Nat.le_refl _

theorem length_longPart_le {x : Significand} {dropped : Nat} {s r : Bytes} {n : Number}
    (h : x.longPart dropped s = .ok (n, r)) : r.length ≤ s.length := by
  unfold longPart at h
  cases s with
  | nil => exact length_scaled_le h
  | cons b s =>
    dsimp only at h
    split at h
    · exact Nat.le_succ_of_le (length_fractionPart_le h)
    · exact length_exponent?_le h

end Significand

theorem length_unsigned_lt {isNegative : Bool} {s r : Bytes} {n : Number}
    (h : unsigned isNegative s = .ok (n, r)) : r.length < s.length := by
  unfold unsigned at h
  cases s with
  | nil => cases h
  | cons b s =>
    have hdigits := length_digits_le maxSignificand (Ascii.digit b) s
    cases hread : digits maxSignificand (Ascii.digit b) s with
    | mk value t =>
      rw [hread] at hdigits
      simp only [hread] at h hdigits
      rw [List.length_cons]
      split at h
      · split at h
        · cases h
        · exact Nat.lt_succ_of_le (Significand.length_wholePart_le h)
      · split at h
        · cases h
        · split at h
          · have hskip := length_skipDigits_le t
            have hlong := Significand.length_longPart_le h
            omega
          · have hwhole := Significand.length_wholePart_le h
            omega

theorem length_number_lt {s r : Bytes} {n : Number} (h : number s = .ok (n, r)) :
    r.length < s.length := by
  unfold number at h
  cases s with
  | nil => exact length_unsigned_lt h
  | cons b s =>
    dsimp only at h
    split at h
    · exact Nat.lt_succ_of_lt (length_unsigned_lt h)
    · exact length_unsigned_lt h

theorem length_skipExponent_le {s r : Bytes} (h : skipExponent s = .ok r) :
    r.length ≤ s.length := by
  -- For any bytes, since a sign may have been passed over before them.
  have hsigned : ∀ t : Bytes,
      (match t with
        | [] => .error (.before .badNumber [])
        | b :: t =>
          if Ascii.isDigit b then .ok (skipDigits t)
          else .error (.before .badNumber t) : Except Stop Bytes) = .ok r →
      r.length ≤ t.length := by
    intro t ht
    cases t with
    | nil => cases ht
    | cons b t =>
      dsimp only at ht
      split at ht
      · cases ht
        exact Nat.le_succ_of_le (length_skipDigits_le t)
      · cases ht
  unfold skipExponent at h
  cases s with
  | nil => cases h
  | cons b s =>
    dsimp only at h
    have hle := hsigned _ h
    split at hle
    · exact Nat.le_succ_of_le hle
    · exact hle

theorem length_skipFraction_le {s r : Bytes} (h : skipFraction s = .ok r) :
    r.length ≤ s.length := by
  unfold skipFraction at h
  cases s with
  | nil =>
    cases h
    exact Nat.le_refl _
  | cons b s =>
    dsimp only at h
    rw [List.length_cons]
    split at h
    · split at h
      · cases h
      · have hskip := length_skipDigits_le s
        cases hread : skipDigits s with
        | nil =>
          rw [hread] at h
          cases h
          exact Nat.zero_le _
        | cons c t =>
          rw [hread, List.length_cons] at hskip
          rw [hread] at h
          dsimp only at h
          split at h
          · have hexponent := length_skipExponent_le h
            omega
          · cases h
            exact Nat.le_succ_of_le hskip
    · split at h
      · exact Nat.le_succ_of_le (length_skipExponent_le h)
      · cases h
        exact Nat.le_refl _

theorem length_skipUnsigned_lt {s r : Bytes} (h : skipUnsigned s = .ok r) :
    r.length < s.length := by
  unfold skipUnsigned at h
  cases s with
  | nil => cases h
  | cons b s =>
    dsimp only at h
    rw [List.length_cons]
    split at h
    · split at h
      · cases h
      · exact Nat.lt_succ_of_le (length_skipFraction_le h)
    · split at h
      · have hskip := length_skipDigits_le s
        have hfraction := length_skipFraction_le h
        omega
      · cases h

end Scan
end Atari6502.Settings
