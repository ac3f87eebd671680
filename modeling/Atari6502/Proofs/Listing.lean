import Atari6502.Listing
import Atari6502.Proofs.Notation
import Mathlib.Data.List.Forall2

/-! Listings determine the entries they list, but for the bytes of entries that are shown as
unknown. -/
namespace Atari6502

namespace Instruction

/-- The entries read alike, and unless they are shown as unknown their bytes are the same. -/
structure Agrees (one other : Instruction) : Prop where
  address : one.address = other.address
  mnemonic : one.mnemonic = other.mnemonic
  operand : one.operand = other.operand
  mode : one.mode = other.mode
  bytes : one.isUnknown = false → one.bytes = other.bytes

theorem toList_line (entry : Instruction) :
    entry.line.toList = (Hex.word entry.address).toList ++ ([' ', ' '] ++ (entry.mnemonic.toList ++
      ([' '] ++ entry.operandText.toList))) := by
  simp [line]

theorem fields_eq_of_line_eq {one other : Instruction}
    (hlength : one.mnemonic.toList.length = other.mnemonic.toList.length)
    (h : one.line = other.line) :
    one.address = other.address ∧ one.mnemonic = other.mnemonic ∧
      one.operandText = other.operandText := by
  have hlist := congrArg String.toList h
  rw [toList_line, toList_line] at hlist
  obtain ⟨haddress, hrest⟩ := List.append_inj hlist (by simp)
  obtain ⟨hmnemonic, hoperand⟩ := List.append_inj (List.append_cancel_left hrest) hlength
  exact ⟨Hex.word_injective (String.toList_inj.mp haddress), String.toList_inj.mp hmnemonic,
    String.toList_inj.mp (List.append_cancel_left hoperand)⟩

namespace Reads

variable {pc pc' : Address} {one other entry : Instruction} {rest rest' : Bytes}

theorem documented_or_unknown (h : entry.Reads pc rest) :
    (∃ byte code operand, Opcode.find? byte = some code ∧ operand.length + 1 = code.size ∧
      entry = ⟨pc, byte :: operand, code.mnemonic, some (code.mode.operandText pc operand),
        code.mode⟩) ∨
      entry = unknown pc entry.bytes := by
  cases h with
  | @documented byte code operand rest hcode hsize =>
    exact .inl ⟨byte, code, operand, hcode, hsize, rfl⟩
  | undocumented rest hcode => exact .inr rfl
  | truncated hcode hshort => exact .inr rfl

theorem length_mnemonic (h : entry.Reads pc rest) : entry.mnemonic.toList.length = 3 := by
  obtain ⟨byte, code, operand, hcode, -, rfl⟩ | hunknown := h.documented_or_unknown
  · exact (Opcode.letters_of_find? hcode).1
  · rw [hunknown]
    show unknownMnemonic.toList.length = 3
    decide

theorem isBlank_of_mem_mnemonic (h : entry.Reads pc rest) :
    ∀ c ∈ entry.mnemonic.toList, Text.isBlank c = false := by
  obtain ⟨byte, code, operand, hcode, -, rfl⟩ | hunknown := h.documented_or_unknown
  · intro c hc
    have hupper := (Opcode.letters_of_find? hcode).2 c hc
    obtain ⟨hlow, hhigh⟩ : 'A'.val ≤ c.val ∧ c.val ≤ 'Z'.val := of_decide_eq_true hupper
    exact Text.isBlank_of_visible (Nat.le_trans (by decide) hlow) (Nat.le_trans hhigh (by decide))
  · have hmarks : unknownMnemonic.toList.all (!Text.isBlank ·) = true := by decide
    rw [hunknown]
    simpa [unknown] using hmarks

theorem isBlank_of_mem_operandText (h : entry.Reads pc rest) :
    ∀ c ∈ entry.operandText.toList, Text.isBlank c = false := by
  obtain ⟨byte, code, operand, -, -, rfl⟩ | hunknown := h.documented_or_unknown
  · apply Hex.isBlank_of_map_blur (code.mode.map_blur_operandText pc operand)
    cases code.mode <;> decide
  · rw [hunknown]
    exact fun c hc => absurd hc List.not_mem_nil

theorem newline_not_mem_mnemonic (h : entry.Reads pc rest) : '\n' ∉ entry.mnemonic.toList :=
  Text.not_mem_of_isBlank (by decide) h.isBlank_of_mem_mnemonic

theorem newline_not_mem_operandText (h : entry.Reads pc rest) :
    '\n' ∉ entry.operandText.toList :=
  Text.not_mem_of_isBlank (by decide) h.isBlank_of_mem_operandText

theorem isLine_line (h : entry.Reads pc rest) : Text.IsLine entry.line := by
  constructor
  · intro hempty
    have hlength := congrArg (fun line => line.toList.length) hempty
    simp [toList_line] at hlength
  · rw [toList_line]
    simp [Hex.newline_not_mem_word, h.newline_not_mem_mnemonic, h.newline_not_mem_operandText]

theorem agrees_of_line_eq (hone : one.Reads pc rest) (hother : other.Reads pc' rest')
    (h : one.line = other.line) : one.Agrees other := by
  obtain ⟨haddress, hmnemonic, htext⟩ :=
    fields_eq_of_line_eq (hone.length_mnemonic.trans hother.length_mnemonic.symm) h
  obtain ⟨byte, code, operand, hcode, hsize, rfl⟩ | hunknown := hone.documented_or_unknown
  · obtain ⟨byte', code', operand', hcode', hsize', rfl⟩ | hunknown' := hother.documented_or_unknown
    · -- A branch shows its target, so that its displacement is known only with the address.
      obtain rfl : pc = pc' := haddress
      have hform : code.mode.form = code'.mode.form := by
        rw [← code.mode.map_blur_operandText pc operand,
          ← code'.mode.map_blur_operandText pc operand']
        exact congrArg (fun text => text.toList.map Hex.blur) htext
      obtain ⟨rfl, rfl⟩ := Opcode.eq_of_mnemonic_of_form hcode hcode' hmnemonic hform
      obtain rfl := Mode.operand_eq_of_operandText_eq hsize hsize' htext
      exact ⟨rfl, rfl, rfl, rfl, fun _ => rfl⟩
    · rw [hunknown'] at hmnemonic
      exact absurd hmnemonic (Opcode.mnemonic_ne_unknown hcode)
  · obtain ⟨byte', code', operand', hcode', hsize', rfl⟩ | hunknown' := hother.documented_or_unknown
    · rw [hunknown] at hmnemonic
      exact absurd hmnemonic.symm (Opcode.mnemonic_ne_unknown hcode')
    · rw [hunknown, hunknown'] at haddress ⊢
      exact ⟨haddress, rfl, rfl, rfl, fun hknown : true = false => absurd hknown (by decide)⟩

end Reads
end Instruction

namespace Disassembly

variable {one other : Bytes} {base base' : Address}

theorem isLine_of_mem {data : Bytes} {base : Address} {line : String}
    (h : line ∈ (disassemble data base).map Instruction.line) : Text.IsLine line := by
  obtain ⟨entry, hentry, rfl⟩ := List.mem_map.mp h
  obtain ⟨rest, hreads⟩ := reads_of_mem hentry
  exact hreads.isLine_line

theorem map_line_eq_of_listing_eq
    (h : listing (disassemble one base) = listing (disassemble other base')) :
    (disassemble one base).map Instruction.line =
      (disassemble other base').map Instruction.line :=
  Text.joinLines_inj (fun _ => isLine_of_mem) (fun _ => isLine_of_mem) h

/-- Entries that are shown alike correspond, as far as what is shown tells. -/
theorem forall₂_of_map_eq {text : Instruction → String} {Rel : Instruction → Instruction → Prop}
    (hrel : ∀ {pc pc' entry entry' rest rest'}, entry.Reads pc rest → entry'.Reads pc' rest' →
      text entry = text entry' → Rel entry entry')
    (h : (disassemble one base).map text = (disassemble other base').map text) :
    List.Forall₂ Rel (disassemble one base) (disassemble other base') := by
  rw [List.forall₂_iff_get]
  refine ⟨by simpa using congrArg List.length h, fun i hi hi' => ?_⟩
  have hreads := reads_of_getElem? (List.getElem?_eq_getElem hi)
  have hreads' := reads_of_getElem? (List.getElem?_eq_getElem hi')
  apply hrel hreads hreads'
  simpa [hi, hi'] using congrArg (fun lines => lines[i]?) h

theorem forall₂_agrees_of_listing_eq
    (h : listing (disassemble one base) = listing (disassemble other base')) :
    List.Forall₂ Instruction.Agrees (disassemble one base) (disassemble other base') :=
  forall₂_of_map_eq (fun hone hother => hone.agrees_of_line_eq hother) (map_line_eq_of_listing_eq h)

theorem flatMap_bytes_eq_of_agrees {entries entries' : List Instruction}
    (h : List.Forall₂ Instruction.Agrees entries entries')
    (hknown : ∀ entry ∈ entries, entry.isUnknown = false) :
    entries.flatMap Instruction.bytes = entries'.flatMap Instruction.bytes := by
  induction h with
  | nil => rfl
  | @cons entry entry' entries entries' hagrees _ ih =>
    have hbytes := hagrees.bytes (hknown entry List.mem_cons_self)
    rw [List.flatMap_cons, List.flatMap_cons, hbytes,
      ih fun other hother => hknown other (List.mem_cons_of_mem entry hother)]

theorem address_eq_of_cons {data : Bytes} {base : Address} {entry : Instruction}
    {entries : List Instruction} (h : disassemble data base = entry :: entries) :
    entry.address = base := by
  have hentry : (disassemble data base)[0]? = some entry := by rw [h]; rfl
  rw [address_of_getElem? hentry, consumed_zero, Address.advance_zero]

theorem base_eq_of_agrees (hne : one ≠ [])
    (h : List.Forall₂ Instruction.Agrees (disassemble one base) (disassemble other base')) :
    base = base' := by
  have hentries : disassemble one base ≠ [] := disassemble_eq_nil_iff.not.mpr hne
  obtain ⟨entry, entries, hentry⟩ := List.exists_cons_of_ne_nil hentries
  rw [hentry] at h
  obtain ⟨entry', entries', hagrees, -, hentry'⟩ := List.forall₂_cons_left_iff.mp h
  rw [← address_eq_of_cons hentry, ← address_eq_of_cons hentry', hagrees.address]

/-- Two listings with the same text list entries that read alike, one by one, and where they are not
shown as unknown also have the same bytes. If none of them is, the listings come from the same input
at the same place. -/
theorem listing_faithful (h : listing (disassemble one base) = listing (disassemble other base')) :
    List.Forall₂ Instruction.Agrees (disassemble one base) (disassemble other base') ∧
      ((∀ entry ∈ disassemble one base, entry.isUnknown = false) →
        one = other ∧ (one ≠ [] → base = base')) := by
  have hagrees := forall₂_agrees_of_listing_eq h
  refine ⟨hagrees, fun hknown => ⟨?_, fun hne => base_eq_of_agrees hne hagrees⟩⟩
  rw [← flatMap_bytes_disassemble one base, ← flatMap_bytes_disassemble other base']
  exact flatMap_bytes_eq_of_agrees hagrees hknown

-- A stray byte is not told from another one. Without it there is one input with this listing.
theorem listing_faithful_but_stray_byte :
    listing (disassemble [0xD0, 0xFE, 0x02] 0xFFFF) =
        listing (disassemble [0xD0, 0xFE, 0x03] 0xFFFF) ∧
      List.Forall₂ Instruction.Agrees (disassemble [0xD0, 0xFE, 0x02] 0xFFFF)
        (disassemble [0xD0, 0xFE, 0x03] 0xFFFF) ∧
      (∀ entry ∈ disassemble [0xD0, 0xFE, 0x60] 0xFFFF, entry.isUnknown = false) ∧
      ∀ other base, listing (disassemble [0xD0, 0xFE, 0x60] 0xFFFF) =
        listing (disassemble other base) → [0xD0, 0xFE, 0x60] = other ∧ 0xFFFF = base := by
  have hclosed : listing (disassemble [0xD0, 0xFE, 0x02] 0xFFFF) =
        listing (disassemble [0xD0, 0xFE, 0x03] 0xFFFF) ∧
      (disassemble [0xD0, 0xFE, 0x60] 0xFFFF).all (fun entry => !entry.isUnknown) = true := by
    decide +kernel
  obtain ⟨hlisting, hall⟩ := hclosed
  have hknown : ∀ entry ∈ disassemble [0xD0, 0xFE, 0x60] 0xFFFF, entry.isUnknown = false := by
    simpa using hall
  refine ⟨hlisting, (listing_faithful hlisting).1, hknown, fun other base h => ?_⟩
  obtain ⟨-, hsame⟩ := listing_faithful h
  exact ⟨(hsame hknown).1, (hsame hknown).2 (by decide)⟩

end Disassembly
end Atari6502
