import Atari6502.Hex
import Atari6502.Text.Blank
import Mathlib.Data.List.DropRight

/-! Text that can be read back: hexadecimal digits, columns, and lines below one another. -/
namespace Atari6502

namespace Text

theorem isBlank_of_visible {c : Char} (hlow : 33 ≤ c.toNat) (hhigh : c.toNat ≤ 126) :
    isBlank c = false := by
  simp [isBlank, blankRanges]
  omega

theorem not_mem_of_isBlank {c : Char} {text : List Char} (hc : isBlank c = true)
    (h : ∀ c ∈ text, isBlank c = false) : c ∉ text := by
  intro hmem
  rw [h c hmem] at hc
  exact Bool.noConfusion hc

end Text

namespace Hex

theorem digit_inj {m n : Nat} (hm : m < 16) (hn : n < 16) (h : digit m = digit n) : m = n := by
  have hdigits : ∀ m < 16, ∀ n < 16, digit m = digit n → m = n := by decide
  exact hdigits m hm n hn h

theorem byte_injective : Function.Injective byte := by
  intro a b h
  obtain ⟨hhigh, hlow⟩ : digit (a.toNat / 16) = digit (b.toNat / 16) ∧
      digit (a.toNat % 16) = digit (b.toNat % 16) := by
    simpa [byte] using h
  have ha := a.toNat_lt
  have hb := b.toNat_lt
  have hdiv := digit_inj (by omega) (by omega) hhigh
  have hmod := digit_inj (by omega) (by omega) hlow
  apply UInt8.toNat_inj.mp
  omega

theorem word_injective : Function.Injective word := by
  intro v w h
  obtain ⟨h₃, h₂, h₁, h₀⟩ : digit (v.toNat / 4096) = digit (w.toNat / 4096) ∧
      digit (v.toNat / 256 % 16) = digit (w.toNat / 256 % 16) ∧
      digit (v.toNat / 16 % 16) = digit (w.toNat / 16 % 16) ∧
      digit (v.toNat % 16) = digit (w.toNat % 16) := by
    simpa [word] using h
  have hv := v.toNat_lt
  have hw := w.toNat_lt
  have e₃ := digit_inj (by omega) (by omega) h₃
  have e₂ := digit_inj (by omega) (by omega) h₂
  have e₁ := digit_inj (by omega) (by omega) h₁
  have e₀ := digit_inj (by omega) (by omega) h₀
  apply UInt16.toNat_inj.mp
  omega

@[simp] theorem length_toList_word (w : UInt16) : (word w).toList.length = 4 := by
  simp [word]

/-- The character without the value of a digit: all digits look alike. -/
def blur (c : Char) : Char :=
  if c.isDigit || ('A' ≤ c && c ≤ 'F') then '0' else c

theorem blur_digit {n : Nat} (h : n < 16) : blur (digit n) = '0' := by
  have hdigits : ∀ n < 16, blur (digit n) = '0' := by decide
  exact hdigits n h

theorem map_blur_byte (b : UInt8) : (byte b).toList.map blur = ['0', '0'] := by
  have hb := b.toNat_lt
  have hhigh := blur_digit (show b.toNat / 16 < 16 by omega)
  have hlow := blur_digit (show b.toNat % 16 < 16 by omega)
  simp [byte, hhigh, hlow]

theorem map_blur_word (w : UInt16) : (word w).toList.map blur = ['0', '0', '0', '0'] := by
  have hw := w.toNat_lt
  have h₃ := blur_digit (show w.toNat / 4096 < 16 by omega)
  have h₂ := blur_digit (show w.toNat / 256 % 16 < 16 by omega)
  have h₁ := blur_digit (show w.toNat / 16 % 16 < 16 by omega)
  have h₀ := blur_digit (show w.toNat % 16 < 16 by omega)
  simp [word, h₃, h₂, h₁, h₀]

theorem blur_of_isBlank {c : Char} (h : Text.isBlank c = true) : blur c = c := by
  apply if_neg
  intro hdigit
  simp only [Bool.or_eq_true, Bool.and_eq_true, decide_eq_true_eq, Char.isDigit] at hdigit
  have hvisible : Text.isBlank c = false := by
    obtain ⟨hlow, hhigh⟩ | ⟨hlow, hhigh⟩ := hdigit
    · exact Text.isBlank_of_visible (Nat.le_trans (by decide) hlow) (Nat.le_trans hhigh (by decide))
    · exact Text.isBlank_of_visible (Nat.le_trans (by decide) hlow) (Nat.le_trans hhigh (by decide))
  simp [hvisible] at h

theorem isBlank_of_map_blur {text form : List Char} (h : text.map blur = form)
    (hform : form.all (!Text.isBlank ·) = true) : ∀ c ∈ text, Text.isBlank c = false := by
  intro c hc
  cases hblank : Text.isBlank c with
  | false => rfl
  | true =>
    have hmem : c ∈ form := by
      rw [← h, ← blur_of_isBlank hblank]
      exact List.mem_map_of_mem hc
    have hnot := List.all_eq_true.mp hform c hmem
    simp [hblank] at hnot

theorem isBlank_of_mem_byte (b : UInt8) : ∀ c ∈ (byte b).toList, Text.isBlank c = false :=
  isBlank_of_map_blur (map_blur_byte b) (by decide)

theorem newline_not_mem_word (w : UInt16) : '\n' ∉ (word w).toList :=
  Text.not_mem_of_isBlank (by decide) (isBlank_of_map_blur (map_blur_word w) (by decide))

end Hex

namespace Text

theorem toList_column (width : Nat) (s : String) :
    (column width s).toList = s.toList ++ List.replicate (width - s.toList.length) ' ' := by
  rw [column, String.length_toList]
  generalize width - s.length = n
  induction n with
  | zero => simp [String.pushn, Nat.repeat]
  | succ n ih =>
    simp only [String.pushn, Nat.repeat] at ih ⊢
    simp [ih, List.replicate_succ']

/-- No white space at the end. -/
def IsTrimmed (text : List Char) : Prop :=
  text.rdropWhile isBlank = text

theorem toList_trimEnd (s : String) : (trimEnd s).toList = s.toList.rdropWhile isBlank :=
  String.toList_ofList

theorem isTrimmed_of_forall {text : List Char} (h : ∀ c ∈ text, isBlank c = false) :
    IsTrimmed text := by
  apply List.rdropWhile_eq_self_iff.mpr
  intro hne
  simp [h _ (List.getLast_mem hne)]

theorem IsTrimmed.append {front back : List Char} (h : IsTrimmed back) (hne : back ≠ []) :
    IsTrimmed (front ++ back) := by
  apply List.rdropWhile_eq_self_iff.mpr
  intro hne'
  rw [List.getLast_append_of_ne_nil hne' hne]
  exact List.rdropWhile_eq_self_iff.mp h hne

theorem rdropWhile_append_replicate (text : List Char) (n : Nat) :
    (text ++ List.replicate n ' ').rdropWhile isBlank = text.rdropWhile isBlank := by
  induction n with
  | zero => rw [List.replicate_zero, List.append_nil]
  | succ n ih =>
    rw [List.replicate_succ', ← List.append_assoc, List.rdropWhile_concat_pos _ _ _ (by decide), ih]

/-- A trimmed text can be read off its column. -/
theorem eq_of_column_eq {width : Nat} {s t : String} (hs : IsTrimmed s.toList)
    (ht : IsTrimmed t.toList) (h : (column width s).toList = (column width t).toList) : s = t := by
  have htrim := congrArg (List.rdropWhile isBlank) h
  rw [toList_column, toList_column, rdropWhile_append_replicate, rdropWhile_append_replicate, hs,
    ht] at htrim
  exact String.toList_inj.mp htrim

end Text

namespace Hex

/-- Induction along the text of several bytes: a byte, or a byte and a blank in front of the rest. -/
@[elab_as_elim]
theorem spacedInduction {motive : Bytes → List Char → Prop}
    (single : ∀ b, motive [b] (byte b).toList)
    (cons : ∀ b bytes, bytes ≠ [] → motive bytes (spaced bytes).toList →
      motive (b :: bytes) ((byte b).toList ++ ' ' :: (spaced bytes).toList))
    (bytes : Bytes) (hne : bytes ≠ []) : motive bytes (spaced bytes).toList := by
  induction bytes with
  | nil => exact absurd rfl hne
  | cons a bytes ih =>
    cases bytes with
    | nil =>
      have htext : (spaced [a]).toList = (byte a).toList := by simp [spaced]
      rw [htext]
      exact single a
    | cons b bytes =>
      have htext : (spaced (a :: b :: bytes)).toList =
          (byte a).toList ++ ' ' :: (spaced (b :: bytes)).toList := by
        simp [spaced, String.intercalate_cons_cons]
      rw [htext]
      exact cons a (b :: bytes) (List.cons_ne_nil b bytes) (ih (List.cons_ne_nil b bytes))

theorem length_toList_spaced (bytes : Bytes) (hne : bytes ≠ []) :
    (spaced bytes).toList.length + 1 = 3 * bytes.length := by
  refine spacedInduction ?single ?cons bytes hne
  case single => simp [byte]
  case cons =>
    intro b bytes hne ih
    simp only [byte, String.toList_ofList, List.length_append, List.length_cons, List.length_nil]
    omega

theorem isTrimmed_spaced (bytes : Bytes) (hne : bytes ≠ []) :
    Text.IsTrimmed (spaced bytes).toList := by
  refine spacedInduction ?single ?cons bytes hne
  case single => exact fun b => Text.isTrimmed_of_forall (isBlank_of_mem_byte b)
  case cons =>
    intro b bytes hne ih
    have hlength := length_toList_spaced bytes hne
    have htail : (spaced bytes).toList ≠ [] := by
      intro hnil
      rw [hnil, List.length_nil] at hlength
      omega
    rw [List.append_cons]
    exact ih.append htail

theorem newline_not_mem_spaced (bytes : Bytes) (hne : bytes ≠ []) :
    '\n' ∉ (spaced bytes).toList := by
  have hbyte : ∀ b, '\n' ∉ (byte b).toList := fun b =>
    Text.not_mem_of_isBlank (by decide) (isBlank_of_mem_byte b)
  refine spacedInduction ?single ?cons bytes hne
  case single => exact hbyte
  case cons =>
    intro b bytes hne ih
    simp [hbyte, ih]

theorem splitOn_spaced {bytes : Bytes} (hne : bytes ≠ []) :
    (spaced bytes).toList.splitOn ' ' = bytes.map fun b => (byte b).toList := by
  rw [spaced, String.toList_intercalate, List.map_map]
  apply List.splitOn_intercalate
  · intro text htext
    obtain ⟨b, -, rfl⟩ := List.mem_map.mp htext
    exact Text.not_mem_of_isBlank (by decide) (isBlank_of_mem_byte b)
  · simpa using hne

theorem eq_of_spaced_eq {one other : Bytes} (hone : one ≠ []) (hother : other ≠ [])
    (h : spaced one = spaced other) : one = other := by
  have hsplit := congrArg (fun text => text.toList.splitOn ' ') h
  simp only [splitOn_spaced hone, splitOn_spaced hother] at hsplit
  refine List.map_injective_iff.mpr (fun a b hbyte => ?_) hsplit
  exact byte_injective (String.toList_inj.mp hbyte)

end Hex

namespace Text

def IsLine (line : String) : Prop :=
  line ≠ "" ∧ '\n' ∉ line.toList

/-- The lines that are joined in a text. The empty text joins none. -/
def joined (s : String) : List String :=
  if s = "" then [] else (s.toList.splitOn '\n').map String.ofList

theorem splitOn_joinLines {lines : List String} (hne : lines ≠ [])
    (h : ∀ line ∈ lines, '\n' ∉ line.toList) :
    (joinLines lines).toList.splitOn '\n' = lines.map String.toList := by
  rw [joinLines, String.toList_intercalate]
  apply List.splitOn_intercalate
  · simpa using h
  · simpa using hne

theorem joined_joinLines {lines : List String} (h : ∀ line ∈ lines, IsLine line) :
    joined (joinLines lines) = lines := by
  cases lines with
  | nil => rfl
  | cons line lines =>
    have hsplit := splitOn_joinLines (List.cons_ne_nil line lines)
      fun other hother => (h other hother).2
    have hne : joinLines (line :: lines) ≠ "" := by
      intro hempty
      rw [hempty] at hsplit
      have hline : [] = line.toList := List.head_eq_of_cons_eq hsplit
      exact (h line List.mem_cons_self).1 (String.toList_eq_nil_iff.mp hline.symm)
    rw [joined, if_neg hne, hsplit, List.map_map]
    simp

theorem joinLines_inj {lines lines' : List String} (h : ∀ line ∈ lines, IsLine line)
    (h' : ∀ line ∈ lines', IsLine line) (heq : joinLines lines = joinLines lines') :
    lines = lines' := by
  rw [← joined_joinLines h, heq, joined_joinLines h']

end Text
end Atari6502
