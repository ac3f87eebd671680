import Atari6502.Proofs.Scanning

/-! Reading numerals: a whole number is read exactly, as long as it fits 64 bits, and never taken
for another one. -/
namespace Atari6502.Settings

open Grammar

namespace Scan

/-- The number that digits lead to from `n` on. -/
def value (n : Nat) (s : Bytes) : Nat :=
  s.foldl (fun n b => n * 10 + Ascii.digit b) n

theorem le_value (n : Nat) (s : Bytes) : n ≤ value n s := by
  induction s generalizing n with
  | nil => exact Nat.le_refl n
  | cons b s ih =>
    have hstep : n * 10 + Ascii.digit b ≤ value n (b :: s) := ih _
    omega

variable {limit n : Nat} {s rest : Bytes}

theorem digits_of_value_le (hs : ∀ b ∈ s, Ascii.isDigit b = true)
    (hrest : startsWithDigit rest = false) (hle : value n s ≤ limit) :
    digits limit n (s ++ rest) = (value n s, rest) := by
  induction s generalizing n with
  | nil =>
    cases rest with
    | nil => rfl
    | cons b r =>
      have hb : ¬Ascii.isDigit b = true := by simpa [startsWithDigit] using hrest
      exact if_neg fun h => hb h.1
  | cons b s ih =>
    have hstep : n * 10 + Ascii.digit b ≤ limit :=
      Nat.le_trans (le_value (n * 10 + Ascii.digit b) s) hle
    rw [List.cons_append, digits, if_pos ⟨hs b List.mem_cons_self, hstep⟩]
    exact ih (fun d hd => hs d (List.mem_cons_of_mem b hd)) hle

theorem exists_digits_of_lt_value (hs : ∀ b ∈ s, Ascii.isDigit b = true) (hn : n ≤ limit)
    (hlt : limit < value n s) (rest : Bytes) :
    ∃ t, t ≠ [] ∧ (∀ b ∈ t, Ascii.isDigit b = true) ∧
      (digits limit n (s ++ rest)).2 = t ++ rest := by
  induction s generalizing n with
  | nil => exact absurd hlt (Nat.not_lt.mpr hn)
  | cons b s ih =>
    rw [List.cons_append, digits]
    by_cases hstep : n * 10 + Ascii.digit b ≤ limit
    · rw [if_pos ⟨hs b List.mem_cons_self, hstep⟩]
      exact ih (fun d hd => hs d (List.mem_cons_of_mem b hd)) hstep hlt
    · rw [if_neg fun h => hstep h.2]
      exact ⟨b :: s, List.cons_ne_nil b s, hs, rfl⟩

namespace Significand

theorem wholePart_delimited (x : Significand) (h : Delimited rest) :
    x.wholePart rest = .ok (x.whole, rest) := by
  cases rest with
  | nil => rfl
  | cons b r =>
    obtain ⟨hpoint, hletter⟩ := h.ne_of_cons
    rw [wholePart, if_neg hpoint, if_neg hletter]

theorem longPart_delimited (x : Significand) (dropped : Nat) (h : Delimited rest) :
    x.longPart dropped rest = x.scaled dropped rest := by
  cases rest with
  | nil => rfl
  | cons b r =>
    obtain ⟨hpoint, hletter⟩ := h.ne_of_cons
    rw [longPart, if_neg hpoint, exponent?, if_neg hletter]

theorem scaled_cases (x : Significand) (exponent : Int) (s : Bytes) :
    (∃ stop, x.scaled exponent s = .error stop) ∨ ∃ y, x.scaled exponent s = .ok (.real y, s) := by
  unfold scaled
  cases scale (Float.ofNat x.value) exponent with
  | none => exact .inl ⟨_, rfl⟩
  | some magnitude => exact .inr ⟨_, rfl⟩

end Significand

section Number

variable {text : String}

theorem number_digit {b : UInt8} (hb : Ascii.isDigit b = true) (s : Bytes) :
    number (b :: s) = unsigned false (b :: s) := by
  apply if_neg
  rintro rfl
  exact absurd hb (by decide)

theorem value_zero_cons (b : UInt8) (s : Bytes) : value 0 (b :: s) = value (Ascii.digit b) s := by
  rw [value, List.foldl_cons, Nat.zero_mul, Nat.zero_add]
  rfl

theorem number_of_value_le (h : IsWhole text) (hrest : Delimited rest)
    (hle : value 0 (Bytes.ofString text) ≤ maxSignificand) :
    number (Bytes.ofString text ++ rest) =
      .ok (.natural (value 0 (Bytes.ofString text)), rest) := by
  have hstop := hrest.startsWithDigit
  cases h with
  | zero =>
    show number (Ascii.zero :: rest) = _
    rw [number_digit rfl, unsigned, if_pos rfl, hstop]
    exact Significand.wholePart_delimited ⟨false, 0⟩ hrest
  | digits h hfirst =>
    obtain ⟨b, t, hcons, hb, ht, hzero⟩ := h.exists_cons
    rw [hcons, value_zero_cons] at hle
    have hdigits := digits_of_value_le ht hstop hle
    rw [hcons, value_zero_cons, List.cons_append, number_digit hb, unsigned,
      if_neg (fun hb => hfirst (hzero hb)), hb]
    simp only [hdigits, hstop]
    exact Significand.wholePart_delimited _ hrest

theorem number_of_lt_value (h : IsWhole text) (hrest : Delimited rest)
    (hlt : maxSignificand < value 0 (Bytes.ofString text)) :
    (∃ stop, number (Bytes.ofString text ++ rest) = .error stop) ∨
      ∃ x, number (Bytes.ofString text ++ rest) = .ok (.real x, rest) := by
  have hstop := hrest.startsWithDigit
  cases h with
  | zero => exact absurd hlt (by decide)
  | digits h hfirst =>
    obtain ⟨b, t, hcons, hb, ht, hzero⟩ := h.exists_cons
    rw [hcons, value_zero_cons] at hlt
    have hsmall : Ascii.digit b ≤ maxSignificand := by
      have hbounds := Ascii.isDigit_iff_toNat.mp hb
      simp only [Ascii.digit, maxSignificand]
      omega
    obtain ⟨r, hne, hr, hdigits⟩ := exists_digits_of_lt_value ht hsmall hlt rest
    rw [hcons, List.cons_append, number_digit hb, unsigned,
      if_neg (fun hb => hfirst (hzero hb)), hb]
    simp only [hdigits, startsWithDigit_append hne hr, skipDigits_append hr hstop]
    simp only [Bool.not_true, Bool.false_eq_true, if_false, if_true,
      Significand.longPart_delimited _ _ hrest]
    exact Significand.scaled_cases _ _ rest

end Number

end Scan

section Decimal

theorem value_flatMap_utf8EncodeChar {cs : List Char} (h : ∀ c ∈ cs, c.isDigit = true) (n : Nat) :
    Scan.value n (cs.flatMap String.utf8EncodeChar) = Nat.ofDigitChars 10 cs n := by
  induction cs generalizing n with
  | nil => rfl
  | cons c cs ih =>
    obtain ⟨hbytes, hvalue⟩ := utf8EncodeChar_of_isDigit (h c List.mem_cons_self)
    have hdigit : Ascii.digit (UInt8.ofNat c.toNat) = c.toNat - '0'.toNat := by
      rw [Ascii.digit, hvalue]
      rfl
    rw [List.flatMap_cons, hbytes, Nat.ofDigitChars_cons, Nat.mul_comm 10 n, ← hdigit]
    exact ih (fun d hd => h d (List.mem_cons_of_mem c hd)) _

theorem isDigit_of_mem_toString {n : Nat} {c : Char} (h : c ∈ (toString n).toList) :
    c.isDigit = true := by
  rw [Nat.toString_eq_ofList_toDigits, String.toList_ofList] at h
  exact Nat.isDigit_of_mem_toDigits (by decide) (by decide) h

theorem value_toString (n : Nat) : Scan.value 0 (Bytes.ofString (toString n)) = n := by
  rw [Bytes.ofString_eq_flatMap, value_flatMap_utf8EncodeChar fun c => isDigit_of_mem_toString,
    Nat.toString_eq_ofList_toDigits, String.toList_ofList, Nat.ofDigitChars_ten_toDigits]

theorem head?_toDigits_ne_zero {n : Nat} (h : 0 < n) : (Nat.toDigits 10 n).head? ≠ some '0' := by
  induction n using Nat.strongRecOn with
  | ind n ih =>
    by_cases hsmall : n < 10
    · have hdigits : ∀ n < 10, 0 < n → [n.digitChar].head? ≠ some '0' := by decide
      rw [Nat.toDigits_of_lt_base hsmall]
      exact hdigits n hsmall h
    · have hfirst := ih (n / 10) (by omega) (by omega)
      rw [Nat.toDigits_of_base_le (by decide) (Nat.not_lt.mp hsmall)]
      cases hdigits : Nat.toDigits 10 (n / 10) with
      | nil => exact absurd hdigits Nat.toDigits_ne_nil
      | cons c cs =>
        rw [hdigits] at hfirst
        exact hfirst

theorem isWhole_toString (n : Nat) : IsWhole (toString n) := by
  by_cases hzero : n = 0
  · subst hzero
    exact .zero
  · have hne : toString n ≠ "" := by
      rw [Nat.toString_eq_ofList_toDigits]
      intro hnil
      exact Nat.toDigits_ne_nil (String.ofList_injective hnil)
    refine .digits ⟨hne, fun c => isDigit_of_mem_toString⟩ ?_
    rw [Nat.toString_eq_ofList_toDigits, String.toList_ofList]
    exact head?_toDigits_ne_zero (Nat.pos_of_ne_zero hzero)

end Decimal

end Atari6502.Settings
