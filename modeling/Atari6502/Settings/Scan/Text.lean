import Atari6502.Settings.Scan

/-! Strings of settings documents. Scanners start behind the opening quote. -/
namespace Atari6502.Settings.Scan

/-- Four hexadecimal digits. -/
def hexEscape : Bytes → Except Stop (Nat × Bytes)
  | a :: b :: c :: d :: s =>
    match Ascii.hexDigit? a, Ascii.hexDigit? b, Ascii.hexDigit? c, Ascii.hexDigit? d with
    | some a, some b, some c, some d => .ok (((a * 16 + b) * 16 + c) * 16 + d, s)
    | _, _, _, _ => .error (.before .badEscape s)
  | _ => .error (.before .endInString [])

/-- The first half of a pair that stands for a character beyond the basic plane. -/
def isHighSurrogate (n : Nat) : Bool :=
  0xD800 ≤ n && n ≤ 0xDBFF

/-- The second half of such a pair. -/
def isLowSurrogate (n : Nat) : Bool :=
  0xDC00 ≤ n && n ≤ 0xDFFF

def utf8 (n : Nat) : Bytes :=
  String.utf8EncodeChar (Char.ofNat n)

/-- The second half of a pair, whose first half is `high`. -/
def lowEscape (high : Nat) : Bytes → Except Stop (Bytes × Bytes)
  | [] => .error (.before .endInString [])
  | b :: s =>
    if b ≠ Ascii.backslash then .error (.before .endOfHexEscape s)
    else
      match s with
      | [] => .error (.before .endInString [])
      | b :: s =>
        if b ≠ Ascii.lowerU then .error (.before .endOfHexEscape s)
        else do
          let (low, s) ← hexEscape s
          if isLowSurrogate low then
            .ok (utf8 ((high - 0xD800) * 0x400 + (low - 0xDC00) + 0x10000), s)
          else
            .error (.before .loneSurrogate s)

/-- The character of a numeric escape, behind its letter. -/
def unicodeEscape (s : Bytes) : Except Stop (Bytes × Bytes) := do
  let (n, s) ← hexEscape s
  if isLowSurrogate n then .error (.before .loneSurrogate s)
  else if isHighSurrogate n then lowEscape n s
  else .ok (utf8 n, s)

/-- The byte that a letter stands for behind a backslash. -/
def simpleEscape? (b : UInt8) : Option UInt8 :=
  if b = Ascii.quote ∨ b = Ascii.backslash ∨ b = Ascii.slash then some b
  else if b = Ascii.lowerB then some 0x08
  else if b = Ascii.lowerF then some 0x0C
  else if b = Ascii.lowerN then some 0x0A
  else if b = Ascii.lowerR then some 0x0D
  else if b = Ascii.lowerT then some 0x09
  else none

/-- The bytes that an escape stands for, behind its backslash. -/
def escape : Bytes → Except Stop (Bytes × Bytes)
  | [] => .error (.before .endInString [])
  | b :: s =>
    match simpleEscape? b with
    | some c => .ok ([c], s)
    | none => if b = Ascii.lowerU then unicodeEscape s else .error (.before .badEscape s)

theorem length_hexEscape_le {s r : Bytes} {n : Nat} (h : hexEscape s = .ok (n, r)) :
    r.length ≤ s.length := by
  unfold hexEscape at h
  split at h
  · split at h
    · obtain ⟨-, rfl⟩ := Prod.mk.inj (Except.ok.inj h)
      simp only [List.length_cons]
      omega
    · cases h
  · cases h

theorem length_lowEscape_le {high : Nat} {s r t : Bytes} (h : lowEscape high s = .ok (t, r)) :
    r.length ≤ s.length := by
  unfold lowEscape at h
  cases s with
  | nil => cases h
  | cons b s =>
    dsimp only at h
    split at h
    · cases h
    cases s with
    | nil => cases h
    | cons b s =>
      dsimp only at h
      split at h
      · cases h
      obtain ⟨⟨low, t⟩, hhex, hlow⟩ := exists_of_bind_eq_ok h
      have hle := length_hexEscape_le hhex
      dsimp only at hlow
      split at hlow
      · obtain ⟨-, rfl⟩ := Prod.mk.inj (Except.ok.inj hlow)
        exact Nat.le_succ_of_le (Nat.le_succ_of_le hle)
      · cases hlow

theorem length_unicodeEscape_le {s r t : Bytes} (h : unicodeEscape s = .ok (t, r)) :
    r.length ≤ s.length := by
  obtain ⟨⟨n, rest⟩, hhex, hnext⟩ := exists_of_bind_eq_ok h
  have hle := length_hexEscape_le hhex
  dsimp only at hnext
  split at hnext
  · cases hnext
  split at hnext
  · exact Nat.le_trans (length_lowEscape_le hnext) hle
  · cases hnext
    exact hle

theorem length_escape_lt {s r t : Bytes} (h : escape s = .ok (t, r)) :
    r.length < s.length := by
  unfold escape at h
  cases s with
  | nil => cases h
  | cons b s =>
    dsimp only at h
    cases hsimple : simpleEscape? b with
    | some c =>
      rw [hsimple] at h
      cases h
      exact Nat.lt_succ_self _
    | none =>
      rw [hsimple] at h
      dsimp only at h
      split at h
      · exact Nat.lt_succ_of_le (length_unicodeEscape_le h)
      · cases h

/-- The content of a string, of which `done` is read, the last byte first. -/
def textFrom (s : Bytes) (done : Bytes) : Except Stop (Bytes × Bytes) :=
  match s with
  | [] => .error (.before .endInString [])
  | b :: s =>
    if b = Ascii.quote then .ok (done.reverse, s)
    else if b = Ascii.backslash then
      match _h : escape s with
      | .error stop => .error stop
      | .ok (bytes, r) => textFrom r (bytes.reverse ++ done)
    else if b < 0x20 then .error (.before .controlCharacter s)
    else textFrom s (b :: done)
termination_by s.length
decreasing_by
  · have hlt := length_escape_lt _h
    simp only [List.length_cons]
    omega
  · simp

/-- The content of a string, with its escapes resolved. -/
def text (s : Bytes) : Except Stop (Bytes × Bytes) :=
  textFrom s []

theorem length_textFrom_lt {s done r t : Bytes} (h : textFrom s done = .ok (t, r)) :
    r.length < s.length := by
  fun_induction textFrom s done with
  | case1 => cases h
  | case2 =>
    cases h
    exact Nat.lt_succ_self _
  | case3 => cases h
  | case4 done s bytes rest hescape _ ih =>
    have hlt := length_escape_lt hescape
    have hrest := ih h
    rw [List.length_cons]
    omega
  | case5 => cases h
  | case6 done b s _ _ _ ih => exact Nat.lt_succ_of_lt (ih h)

theorem length_text_lt {s r t : Bytes} (h : text s = .ok (t, r)) : r.length < s.length :=
  length_textFrom_lt h

/-- Passes over an escape, behind its backslash. -/
def skipEscape : Bytes → Except Stop Bytes
  | [] => .error (.before .endInString [])
  | b :: s =>
    if (simpleEscape? b).isSome then .ok s
    else if b = Ascii.lowerU then (hexEscape s).map Prod.snd
    else .error (.before .badEscape s)

theorem length_skipEscape_lt {s r : Bytes} (h : skipEscape s = .ok r) : r.length < s.length := by
  unfold skipEscape at h
  cases s with
  | nil => cases h
  | cons b s =>
    dsimp only at h
    split at h
    · cases h
      exact Nat.lt_succ_self _
    · split at h
      · cases hhex : hexEscape s with
        | error stop =>
          rw [hhex] at h
          cases h
        | ok found =>
          have hle := length_hexEscape_le (n := found.1) (r := found.2) hhex
          rw [hhex] at h
          cases h
          exact Nat.lt_succ_of_le hle
      · cases h

/-- Passes over a string. Pairs of numeric escapes are not checked. -/
def skipText (s : Bytes) : Except Stop Bytes :=
  match s with
  | [] => .error (.before .endInString [])
  | b :: s =>
    if b = Ascii.quote then .ok s
    else if b = Ascii.backslash then
      match _h : skipEscape s with
      | .error stop => .error stop
      | .ok r => skipText r
    else if b < 0x20 then .error (.before .controlCharacter (b :: s))
    else skipText s
termination_by s.length
decreasing_by
  · have hlt := length_skipEscape_lt _h
    simp only [List.length_cons]
    omega
  · simp

theorem length_skipText_lt {s r : Bytes} (h : skipText s = .ok r) : r.length < s.length := by
  fun_induction skipText s with
  | case1 => cases h
  | case2 =>
    cases h
    exact Nat.lt_succ_self _
  | case3 => cases h
  | case4 s rest hescape _ ih =>
    have hlt := length_skipEscape_lt hescape
    have hrest := ih h
    rw [List.length_cons]
    omega
  | case5 => cases h
  | case6 b s _ _ _ ih => exact Nat.lt_succ_of_lt (ih h)

end Atari6502.Settings.Scan
