import Atari6502.Proofs.Grammar
import Atari6502.Settings.Scan.Skip

/-! Scanning the tokens of a settings document: blanks, words, digits and strings, each with any
bytes behind it. -/
namespace Atari6502

namespace Bytes

@[simp] theorem ofString_append (s t : String) : ofString (s ++ t) = ofString s ++ ofString t := by
  simp [ofString, String.toUTF8_eq_toByteArray, String.toByteArray_append]

theorem ofString_eq_flatMap (s : String) :
    ofString s = s.toList.flatMap String.utf8EncodeChar := by
  rw [ofString, String.toUTF8_eq_toByteArray, ← String.utf8Encode_toList]
  simp [List.utf8Encode]

@[simp] theorem ofString_singleton (c : Char) :
    ofString (String.singleton c) = String.utf8EncodeChar c := by
  simp [ofString_eq_flatMap]

theorem ofString_injective : Function.Injective ofString := by
  intro s t h
  apply String.toByteArray_inj.mp
  apply ByteArray.ext
  exact Array.toList_inj.mp h

theorem ofString_ne_nil {s : String} (h : s ≠ "") : ofString s ≠ [] := by
  intro hnil
  exact h (ofString_injective hnil)

theorem utf8EncodeChar_of_lt {c : Char} (h : c.toNat < 128) :
    String.utf8EncodeChar c = [UInt8.ofNat c.toNat] := by
  rw [String.utf8EncodeChar.eq_1]
  exact if_pos (Nat.le_of_lt_succ h)

/-- A character beyond ASCII has no byte in common with one of ASCII. -/
theorem le_of_mem_utf8EncodeChar {c : Char} {b : UInt8} (hc : 128 ≤ c.toNat)
    (hb : b ∈ String.utf8EncodeChar c) : 128 ≤ b.toNat := by
  have hlarge : ¬c.val.toNat ≤ 127 := by
    have hval : c.val.toNat = c.toNat := rfl
    omega
  rw [String.utf8EncodeChar.eq_1, if_neg hlarge] at hb
  split at hb
  · simp only [List.mem_cons, List.not_mem_nil, or_false] at hb
    rcases hb with rfl | rfl <;> rw [UInt8.toNat_ofNat'] <;> omega
  · split at hb
    · simp only [List.mem_cons, List.not_mem_nil, or_false] at hb
      rcases hb with rfl | rfl | rfl <;> rw [UInt8.toNat_ofNat'] <;> omega
    · simp only [List.mem_cons, List.not_mem_nil, or_false] at hb
      rcases hb with rfl | rfl | rfl | rfl <;> rw [UInt8.toNat_ofNat'] <;> omega

theorem forall_mem_ofString {p : UInt8 → Prop} {s : String}
    (h : ∀ c ∈ s.toList, ∀ b ∈ String.utf8EncodeChar c, p b) : ∀ b ∈ ofString s, p b := by
  intro b hb
  rw [ofString_eq_flatMap] at hb
  obtain ⟨c, hc, hmem⟩ := List.mem_flatMap.mp hb
  exact h c hc b hmem

end Bytes

namespace Settings

open Grammar

section Classes

variable {s : String} {c : Char}

theorem Grammar.IsBlanks.isBlank (h : IsBlanks s) :
    ∀ b ∈ Bytes.ofString s, Ascii.isBlank b = true := by
  apply Bytes.forall_mem_ofString
  intro c hc b hb
  have hblank := h c hc
  simp only [List.mem_cons, List.not_mem_nil, or_false] at hblank
  rcases hblank with rfl | rfl | rfl | rfl <;> obtain rfl := List.mem_singleton.mp hb <;> rfl

theorem isDigit_iff_toNat : c.isDigit = true ↔ 48 ≤ c.toNat ∧ c.toNat ≤ 57 := by
  rw [Char.isDigit, Bool.and_eq_true, decide_eq_true_iff, decide_eq_true_iff]
  exact Iff.rfl

theorem Ascii.isDigit_iff_toNat {b : UInt8} :
    Ascii.isDigit b = true ↔ 48 ≤ b.toNat ∧ b.toNat ≤ 57 := by
  rw [Ascii.isDigit, Bool.and_eq_true, decide_eq_true_iff, decide_eq_true_iff]
  exact Iff.rfl

theorem Ascii.isBlank_eq_false_of_toNat {b : UInt8} (h : 33 ≤ b.toNat) :
    Ascii.isBlank b = false := by
  have hne : ∀ x : UInt8, x.toNat < 33 → (b == x) = false := by
    intro x hx
    apply beq_false_of_ne
    rintro rfl
    omega
  simp only [Ascii.isBlank, hne 0x20 (by decide), hne 0x09 (by decide), hne 0x0A (by decide),
    hne 0x0D (by decide), Bool.or_self]

theorem utf8EncodeChar_of_isDigit (h : c.isDigit = true) :
    String.utf8EncodeChar c = [UInt8.ofNat c.toNat] ∧
      (UInt8.ofNat c.toNat).toNat = c.toNat := by
  obtain ⟨hlow, hhigh⟩ := isDigit_iff_toNat.mp h
  refine ⟨Bytes.utf8EncodeChar_of_lt (by omega), ?_⟩
  rw [UInt8.toNat_ofNat']
  omega

theorem Grammar.IsDigits.isDigit (h : IsDigits s) :
    ∀ b ∈ Bytes.ofString s, Ascii.isDigit b = true := by
  apply Bytes.forall_mem_ofString
  intro c hc b hb
  have hdigit := h.2 c hc
  obtain ⟨hbytes, hvalue⟩ := utf8EncodeChar_of_isDigit hdigit
  rw [hbytes] at hb
  obtain rfl := List.mem_singleton.mp hb
  rw [Ascii.isDigit_iff_toNat, hvalue]
  exact isDigit_iff_toNat.mp hdigit

theorem Grammar.IsDigits.exists_cons (h : IsDigits s) :
    ∃ b t, Bytes.ofString s = b :: t ∧ Ascii.isDigit b = true ∧
      (∀ d ∈ t, Ascii.isDigit d = true) ∧ (b = Ascii.zero → s.toList.head? = some '0') := by
  have hdigits := h.isDigit
  cases hchars : s.toList with
  | nil => exact absurd (String.toList_eq_nil_iff.mp hchars) h.1
  | cons c cs =>
    have hc : c.isDigit = true := h.2 c (hchars ▸ List.mem_cons_self)
    obtain ⟨hbytes, hvalue⟩ := utf8EncodeChar_of_isDigit hc
    have hcons : Bytes.ofString s = UInt8.ofNat c.toNat :: cs.flatMap String.utf8EncodeChar := by
      rw [Bytes.ofString_eq_flatMap, hchars, List.flatMap_cons, hbytes]
      rfl
    rw [hcons] at hdigits
    refine ⟨_, _, hcons, hdigits _ List.mem_cons_self,
      fun d hd => hdigits d (List.mem_cons_of_mem _ hd), ?_⟩
    intro hzero
    rw [hzero] at hvalue
    exact congrArg some (Char.toNat_inj.mp hvalue.symm)

theorem Grammar.IsWhole.exists_cons (h : IsWhole s) :
    ∃ b t, Bytes.ofString s = b :: t ∧ Ascii.isDigit b = true := by
  cases h with
  | zero => exact ⟨Ascii.zero, [], rfl, rfl⟩
  | digits h =>
    obtain ⟨b, t, hcons, hb, -⟩ := h.exists_cons
    exact ⟨b, t, hcons, hb⟩

/-- A byte that stands for itself in a string. -/
def Ascii.IsPlain (b : UInt8) : Prop :=
  b ≠ Ascii.quote ∧ b ≠ Ascii.backslash ∧ ¬b < 0x20

theorem Grammar.IsPlain.isPlain (h : IsPlain c) :
    ∀ b ∈ String.utf8EncodeChar c, Ascii.IsPlain b := by
  obtain ⟨hlow, hquote, hbackslash⟩ := h
  intro b hb
  by_cases hascii : c.toNat < 128
  · rw [Bytes.utf8EncodeChar_of_lt hascii] at hb
    obtain rfl := List.mem_singleton.mp hb
    have hvalue : (UInt8.ofNat c.toNat).toNat = c.toNat := by
      rw [UInt8.toNat_ofNat']
      omega
    refine ⟨?_, ?_, ?_⟩
    · intro heq
      apply hquote
      apply Char.toNat_inj.mp
      rw [← hvalue, heq]
      rfl
    · intro heq
      apply hbackslash
      apply Char.toNat_inj.mp
      rw [← hvalue, heq]
      rfl
    · rw [UInt8.lt_iff_toNat_lt, hvalue]
      exact Nat.not_lt.mpr hlow
  · have hlarge := Bytes.le_of_mem_utf8EncodeChar (Nat.not_lt.mp hascii) hb
    refine ⟨?_, ?_, ?_⟩
    · rintro rfl
      exact absurd hlarge (by decide)
    · rintro rfl
      exact absurd hlarge (by decide)
    · rw [UInt8.lt_iff_toNat_lt]
      exact Nat.not_lt.mpr (Nat.le_trans (by decide) hlarge)

theorem Grammar.IsHexDigit.exists_hexDigit? (h : IsHexDigit c) :
    ∃ (b : UInt8) (n : Nat), String.utf8EncodeChar c = [b] ∧ Ascii.hexDigit? b = some n := by
  have hranges : 48 ≤ c.toNat ∧ c.toNat ≤ 57 ∨ 65 ≤ c.toNat ∧ c.toNat ≤ 70 ∨
      97 ≤ c.toNat ∧ c.toNat ≤ 102 := by
    rcases h with hdigit | hupper | hlower
    · exact .inl (isDigit_iff_toNat.mp hdigit)
    · exact .inr (.inl hupper)
    · exact .inr (.inr hlower)
  have hascii : c.toNat < 128 := by omega
  have hdigits : ∀ n < 128, (48 ≤ n ∧ n ≤ 57 ∨ 65 ≤ n ∧ n ≤ 70 ∨ 97 ≤ n ∧ n ≤ 102) →
      (Ascii.hexDigit? (UInt8.ofNat n)).isSome = true := by decide
  obtain ⟨n, hn⟩ := Option.isSome_iff_exists.mp (hdigits c.toNat hascii hranges)
  exact ⟨UInt8.ofNat c.toNat, n, Bytes.utf8EncodeChar_of_lt hascii, hn⟩

end Classes

namespace Scan

variable {s t : Bytes}

theorem skipBlanks_eq {blanks : String} (h : IsBlanks blanks) {b : UInt8}
    (hb : Ascii.isBlank b = false) (s : Bytes) :
    skipBlanks (Bytes.ofString blanks ++ b :: s) = b :: s := by
  rw [skipBlanks, List.dropWhile_append_of_pos h.isBlank, List.dropWhile_cons_of_neg (by simp [hb])]

@[simp] theorem word_append (letters s : Bytes) : word letters (letters ++ s) = .ok s := by
  induction letters with
  | nil => rfl
  | cons letter letters ih =>
    rw [List.cons_append, word, if_pos rfl]
    exact ih

/-- What may follow a value: a number ends there. -/
def Delimited (rest : Bytes) : Prop :=
  ∀ b ∈ rest.head?, Ascii.isBlank b = true ∨ b = Ascii.comma ∨ b = Ascii.closeList ∨
    b = Ascii.closeObject

theorem delimited_append {blanks : String} (h : IsBlanks blanks) {b : UInt8}
    (hb : b ∈ [Ascii.comma, Ascii.closeList, Ascii.closeObject]) (s : Bytes) :
    Delimited (Bytes.ofString blanks ++ b :: s) := by
  intro first hfirst
  cases hbytes : Bytes.ofString blanks with
  | nil =>
    rw [hbytes] at hfirst
    obtain rfl : b = first := Option.some.inj hfirst
    exact .inr (by simpa using hb)
  | cons c others =>
    rw [hbytes] at hfirst
    obtain rfl : c = first := Option.some.inj hfirst
    exact .inl (h.isBlank c (hbytes ▸ List.mem_cons_self))

namespace Delimited

theorem all_of_cons {b : UInt8} (h : Delimited (b :: s)) {p : UInt8 → Bool}
    (hp : [0x20, 0x09, 0x0A, 0x0D, Ascii.comma, Ascii.closeList, Ascii.closeObject].all p = true) :
    p b = true := by
  have hb := h b rfl
  simp only [Ascii.isBlank, Bool.or_eq_true, beq_iff_eq] at hb
  refine List.all_eq_true.mp hp b ?_
  rcases hb with (((rfl | rfl) | rfl) | rfl) | rfl | rfl | rfl <;> decide

theorem startsWithDigit (h : Delimited s) : startsWithDigit s = false := by
  cases s with
  | nil => rfl
  | cons b s =>
    have hb := h.all_of_cons (p := fun b => !Ascii.isDigit b) (by decide)
    exact Bool.not_eq_true' _ ▸ hb

theorem ne_of_cons {b : UInt8} (h : Delimited (b :: s)) :
    b ≠ Ascii.point ∧ ¬(b = Ascii.lowerE ∨ b = Ascii.upperE) := by
  have hb := h.all_of_cons
    (p := fun b => b != Ascii.point && !(b == Ascii.lowerE || b == Ascii.upperE)) (by decide)
  simpa using hb

end Delimited

theorem skipDigits_append (hs : ∀ b ∈ s, Ascii.isDigit b = true) (ht : startsWithDigit t = false) :
    skipDigits (s ++ t) = t := by
  rw [skipDigits, List.dropWhile_append_of_pos hs]
  cases t with
  | nil => rfl
  | cons b t => exact List.dropWhile_cons_of_neg (by simpa [startsWithDigit] using ht)

theorem startsWithDigit_append (hne : s ≠ []) (hs : ∀ b ∈ s, Ascii.isDigit b = true) :
    startsWithDigit (s ++ t) = true := by
  cases s with
  | nil => exact absurd rfl hne
  | cons b s => exact hs b List.mem_cons_self

theorem textFrom_append (hs : ∀ b ∈ s, Ascii.IsPlain b) (done : Bytes) :
    textFrom (s ++ t) done = textFrom t (s.reverse ++ done) := by
  induction s generalizing done with
  | nil => rfl
  | cons b s ih =>
    obtain ⟨hquote, hbackslash, hcontrol⟩ := hs b List.mem_cons_self
    rw [List.cons_append, textFrom, if_neg hquote, if_neg hbackslash, if_neg hcontrol,
      ih (fun c hc => hs c (List.mem_cons_of_mem b hc)), List.reverse_cons, List.append_assoc]
    rfl

/-- A key without escapes is read as it stands. -/
theorem text_key {key : String} (h : ∀ c ∈ key.toList, IsPlain c) (s : Bytes) :
    text (Bytes.ofString key ++ Ascii.quote :: s) = .ok (Bytes.ofString key, s) := by
  have hplain := Bytes.forall_mem_ofString fun c hc => (h c hc).isPlain
  rw [text, textFrom_append hplain, textFrom, if_pos rfl, List.append_nil, List.reverse_reverse]

theorem skipText_append (hs : ∀ b ∈ s, Ascii.IsPlain b) : skipText (s ++ t) = skipText t := by
  induction s with
  | nil => rfl
  | cons b s ih =>
    obtain ⟨hquote, hbackslash, hcontrol⟩ := hs b List.mem_cons_self
    rw [List.cons_append, skipText, if_neg hquote, if_neg hbackslash, if_neg hcontrol]
    exact ih fun c hc => hs c (List.mem_cons_of_mem b hc)

theorem skipText_backslash (h : skipEscape s = .ok t) :
    skipText (Ascii.backslash :: s) = skipText t := by
  rw [skipText, if_neg (by decide), if_pos rfl]
  split
  · simp_all
  · rename_i r hr
    obtain rfl : t = r := Except.ok.inj (h.symm.trans hr)
    rfl

theorem skipEscape_escape {c : Char} (h : c ∈ ['"', '\\', '/', 'b', 'f', 'n', 'r', 't'])
    (s : Bytes) : skipEscape (String.utf8EncodeChar c ++ s) = .ok s := by
  simp only [List.mem_cons, List.not_mem_nil, or_false] at h
  rcases h with rfl | rfl | rfl | rfl | rfl | rfl | rfl | rfl <;> rfl

theorem skipEscape_numeric {c₁ c₂ c₃ c₄ : Char} (h₁ : IsHexDigit c₁) (h₂ : IsHexDigit c₂)
    (h₃ : IsHexDigit c₃) (h₄ : IsHexDigit c₄) (s : Bytes) :
    skipEscape (Ascii.lowerU :: (Bytes.ofString (String.ofList [c₁, c₂, c₃, c₄]) ++ s)) =
      .ok s := by
  obtain ⟨b₁, n₁, hb₁, hn₁⟩ := h₁.exists_hexDigit?
  obtain ⟨b₂, n₂, hb₂, hn₂⟩ := h₂.exists_hexDigit?
  obtain ⟨b₃, n₃, hb₃, hn₃⟩ := h₃.exists_hexDigit?
  obtain ⟨b₄, n₄, hb₄, hn₄⟩ := h₄.exists_hexDigit?
  have hbytes : Bytes.ofString (String.ofList [c₁, c₂, c₃, c₄]) = [b₁, b₂, b₃, b₄] := by
    simp [Bytes.ofString_eq_flatMap, hb₁, hb₂, hb₃, hb₄]
  have hletter : ¬(simpleEscape? Ascii.lowerU).isSome = true := by decide
  rw [hbytes, skipEscape, if_neg hletter, if_pos rfl]
  simp [hexEscape, hn₁, hn₂, hn₃, hn₄, Except.map]

/-- Strings are passed over up to the quote that ends them. -/
theorem skipText_content {content : String} (h : IsContent content) (s : Bytes) :
    skipText (Bytes.ofString content ++ Ascii.quote :: s) = .ok s := by
  induction h with
  | empty =>
    show skipText (Ascii.quote :: s) = _
    rw [skipText, if_pos rfl]
  | @plain c content hc _ ih =>
    rw [Bytes.ofString_append, Bytes.ofString_singleton, List.append_assoc,
      skipText_append hc.isPlain]
    exact ih
  | @escape c content hc _ ih =>
    rw [Bytes.ofString_append, Bytes.ofString_append, Bytes.ofString_singleton, List.append_assoc,
      List.append_assoc]
    exact (skipText_backslash (skipEscape_escape hc _)).trans ih
  | @numeric c₁ c₂ c₃ c₄ content h₁ h₂ h₃ h₄ _ ih =>
    rw [Bytes.ofString_append, Bytes.ofString_append, List.append_assoc, List.append_assoc]
    exact (skipText_backslash (skipEscape_numeric h₁ h₂ h₃ h₄ _)).trans ih

theorem takeColon_eq {blanks : String} (h : IsBlanks blanks) (s : Bytes) :
    takeColon (Bytes.ofString blanks ++ Ascii.colon :: s) = .ok s := by
  rw [takeColon, skipBlanks_eq h rfl]
  exact if_pos rfl

end Scan
end Settings
end Atari6502
