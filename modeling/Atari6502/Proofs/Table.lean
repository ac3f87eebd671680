import Atari6502.Proofs.Listing

/-! Tables: the columns of a row stay in place whatever the entry is, and as a row shows the bytes of
its entry, a table determines the input and its place. -/
namespace Atari6502

/-- Trimming takes away only the blanks behind a name that no operand follows. -/
theorem Text.rdropWhile_name_operand (front : List Char) {name operand : List Char}
    (hne : name ≠ []) (hname : ∀ c ∈ name, isBlank c = false)
    (hoperand : ∀ c ∈ operand, isBlank c = false) :
    (front ++ (name ++ ([' ', ' '] ++ operand))).rdropWhile isBlank =
      front ++ (name ++ if operand = [] then [] else [' ', ' '] ++ operand) := by
  by_cases hempty : operand = []
  · have hblanks := rdropWhile_append_replicate (front ++ name) 2
    rw [(isTrimmed_of_forall hname).append hne] at hblanks
    simpa [hempty] using hblanks
  · have htrimmed : IsTrimmed (front ++ name ++ [' ', ' '] ++ operand) :=
      (isTrimmed_of_forall hoperand).append hempty
    simpa [hempty, IsTrimmed] using htrimmed

namespace Instruction

/-- The fields of an entry at fixed places of a row. -/
structure InColumns (entry : Instruction) (row : String) : Prop where
  address : row.toList.take 4 = (Hex.word entry.address).toList
  bytes : (row.toList.drop 6).take 10 = (Hex.spaced entry.bytes).toList ++
    List.replicate (10 - (Hex.spaced entry.bytes).toList.length) ' '
  /-- There are blanks left between the bytes and the mnemonic. -/
  length_bytes : (Hex.spaced entry.bytes).toList.length < 10
  mnemonic : (row.toList.drop 16).take 3 = entry.mnemonic.toList
  length_mnemonic : entry.mnemonic.toList.length = 3
  operand : entry.operandText ≠ "" → row.toList.drop 21 = entry.operandText.toList
  /-- Without an operand the row ends with the mnemonic. -/
  no_operand : entry.operandText = "" → row.toList.drop 19 = []

namespace Reads

variable {pc pc' : Address} {one other entry : Instruction} {rest rest' : Bytes}

theorem bytes_ne_nil (h : entry.Reads pc rest) : entry.bytes ≠ [] :=
  List.length_pos_iff.mp h.size_pos

theorem length_spaced_bytes (h : entry.Reads pc rest) :
    (Hex.spaced entry.bytes).toList.length < 10 := by
  have hlength := Hex.length_toList_spaced entry.bytes h.bytes_ne_nil
  have hthree : entry.bytes.length ≤ 3 := h.size_le_three
  omega

theorem length_bytes_column (h : entry.Reads pc rest) :
    (Text.column 10 (Hex.spaced entry.bytes)).toList.length = 10 := by
  have hlength := h.length_spaced_bytes
  rw [Text.toList_column, List.length_append, List.length_replicate]
  omega

theorem toList_row (h : entry.Reads pc rest) :
    entry.row.toList = (Hex.word entry.address).toList ++ ([' ', ' '] ++
      ((Text.column 10 (Hex.spaced entry.bytes)).toList ++ (entry.mnemonic.toList ++
        if entry.operandText.toList = [] then [] else [' ', ' '] ++ entry.operandText.toList))) := by
  have hword : (Text.column 6 (Hex.word entry.address)).toList =
      (Hex.word entry.address).toList ++ [' ', ' '] := by
    rw [Text.toList_column, Hex.length_toList_word]
    rfl
  have hmnemonic : (Text.column 5 entry.mnemonic).toList = entry.mnemonic.toList ++ [' ', ' '] := by
    rw [Text.toList_column, h.length_mnemonic]
    rfl
  have hne : entry.mnemonic.toList ≠ [] := List.ne_nil_of_length_eq_add_one h.length_mnemonic
  have htrim := Text.rdropWhile_name_operand ((Hex.word entry.address).toList ++ [' ', ' '] ++
    (Text.column 10 (Hex.spaced entry.bytes)).toList) hne h.isBlank_of_mem_mnemonic
    h.isBlank_of_mem_operandText
  rw [row, Text.toList_trimEnd]
  simp only [String.toList_append, hword, hmnemonic, List.append_assoc] at htrim ⊢
  exact htrim

theorem inColumns_row (h : entry.Reads pc rest) : entry.InColumns entry.row := by
  have hrow := h.toList_row
  have hword := Hex.length_toList_word entry.address
  have hbytes := h.length_bytes_column
  have hmnemonic := h.length_mnemonic
  constructor
  case address => rw [hrow, List.take_left' hword]
  case bytes =>
    rw [hrow, ← List.append_assoc, List.drop_left' (by simp), List.take_left' hbytes,
      Text.toList_column]
  case length_bytes => exact h.length_spaced_bytes
  case mnemonic =>
    rw [hrow, ← List.append_assoc, ← List.append_assoc, List.drop_left' (by simp [hbytes]),
      List.take_left' hmnemonic]
  case length_mnemonic => exact hmnemonic
  case operand =>
    intro hoperand
    rw [hrow, if_neg (String.toList_eq_nil_iff.not.mpr hoperand), ← List.append_assoc,
      ← List.append_assoc, ← List.append_assoc, ← List.append_assoc,
      List.drop_left' (by simp [hbytes, hmnemonic])]
  case no_operand =>
    intro hempty
    rw [hrow, if_pos (String.toList_eq_nil_iff.mpr hempty)]
    exact List.drop_eq_nil_of_le (by simp [hbytes, hmnemonic])

theorem isLine_row (h : entry.Reads pc rest) : Text.IsLine entry.row := by
  have hcolumns := h.inColumns_row
  constructor
  · intro hempty
    have hlength := congrArg List.length hcolumns.mnemonic
    rw [hempty, h.length_mnemonic] at hlength
    exact absurd hlength (by decide)
  · have hbytes : '\n' ∉ (Text.column 10 (Hex.spaced entry.bytes)).toList := by
      simp [Text.toList_column, Hex.newline_not_mem_spaced entry.bytes h.bytes_ne_nil]
    rw [h.toList_row]
    by_cases hempty : entry.operandText.toList = []
    · simp [hempty, hbytes, Hex.newline_not_mem_word, h.newline_not_mem_mnemonic]
    · simp [hempty, hbytes, Hex.newline_not_mem_word, h.newline_not_mem_mnemonic,
        h.newline_not_mem_operandText]

theorem alone (h : entry.Reads pc rest) : entry.Reads pc [] := by
  cases h with
  | documented rest hcode hsize => exact .documented [] hcode hsize
  | undocumented rest hcode => exact .undocumented [] hcode
  | truncated hcode hshort => exact .truncated hcode hshort

theorem eq_of_bytes_eq (hone : one.Reads pc rest) (hother : other.Reads pc rest')
    (h : one.bytes = other.bytes) : one = other := by
  have hfirst := hone.alone.first?_eq
  rw [h, hother.alone.first?_eq] at hfirst
  exact (Option.some.inj hfirst).symm

theorem eq_of_row_eq (hone : one.Reads pc rest) (hother : other.Reads pc' rest')
    (h : one.row = other.row) : one = other := by
  have hcolumns := hone.inColumns_row
  have hcolumns' := hother.inColumns_row
  rw [← h] at hcolumns'
  have haddress : one.address = other.address :=
    Hex.word_injective (String.toList_inj.mp (hcolumns.address.symm.trans hcolumns'.address))
  have hspaced : Hex.spaced one.bytes = Hex.spaced other.bytes := by
    apply Text.eq_of_column_eq (Hex.isTrimmed_spaced one.bytes hone.bytes_ne_nil)
      (Hex.isTrimmed_spaced other.bytes hother.bytes_ne_nil)
    rw [Text.toList_column, Text.toList_column]
    exact hcolumns.bytes.symm.trans hcolumns'.bytes
  obtain rfl : pc = pc' := by rw [← hone.address_eq, ← hother.address_eq, haddress]
  exact hone.eq_of_bytes_eq hother
    (Hex.eq_of_spaced_eq hone.bytes_ne_nil hother.bytes_ne_nil hspaced)

end Reads
end Instruction

namespace Disassembly

variable {data one other : Bytes} {base base' : Address}

theorem isLine_of_mem_map_row {row : String}
    (h : row ∈ (disassemble data base).map Instruction.row) : Text.IsLine row := by
  obtain ⟨entry, hentry, rfl⟩ := List.mem_map.mp h
  obtain ⟨rest, hreads⟩ := reads_of_mem hentry
  exact hreads.isLine_row

theorem disassemble_eq_of_table_eq
    (h : table (disassemble one base) = table (disassemble other base')) :
    disassemble one base = disassemble other base' := by
  have hrows := Text.joinLines_inj (fun _ => isLine_of_mem_map_row)
    (fun _ => isLine_of_mem_map_row) h
  rw [← List.forall₂_eq_eq_eq]
  exact forall₂_of_map_eq (fun hone hother => hone.eq_of_row_eq hother) hrows

theorem eq_of_disassemble_eq (hne : one ≠ [])
    (h : disassemble one base = disassemble other base') : one = other ∧ base = base' := by
  have hentries : disassemble one base ≠ [] := disassemble_eq_nil_iff.not.mpr hne
  obtain ⟨entry, entries, hentry⟩ := List.exists_cons_of_ne_nil hentries
  constructor
  · rw [← flatMap_bytes_disassemble one base, h, flatMap_bytes_disassemble]
  · rw [← address_eq_of_cons hentry, address_eq_of_cons (h.symm.trans hentry)]

/-- A table that is not empty comes from one input at one place only, whatever the bytes. Its rows
show the entries one by one, with the fields of each in columns. -/
theorem table_lossless (data : Bytes) (base : Address) :
    (∀ (other : Bytes) (base' : Address), data ≠ [] →
        table (disassemble data base) = table (disassemble other base') →
          data = other ∧ base = base') ∧
      List.Forall₂ Instruction.InColumns (disassemble data base)
        (Text.joined (table (disassemble data base))) ∧
      (data ≠ [] → ((table (disassemble data base)).toList.splitOn '\n').length =
        (disassemble data base).length) := by
  refine ⟨?_, ?_, ?_⟩
  · intro other base' hne htable
    exact eq_of_disassemble_eq hne (disassemble_eq_of_table_eq htable)
  · rw [table, Text.joined_joinLines fun _ => isLine_of_mem_map_row, List.forall₂_map_right_iff,
      List.forall₂_same]
    intro entry hentry
    obtain ⟨rest, hreads⟩ := reads_of_mem hentry
    exact hreads.inColumns_row
  · intro hne
    have hrows : (disassemble data base).map Instruction.row ≠ [] := by
      simpa [disassemble_eq_nil_iff] using hne
    rw [table, Text.splitOn_joinLines hrows fun _ hrow => (isLine_of_mem_map_row hrow).2]
    simp

-- A load, a stray byte, and a call without its end.
example : table (disassemble [0xA9, 0x05, 0x02, 0x20, 0x00] 0xFFFE) =
    "FFFE  A9 05     LDA  #$05\n0000  02        ???\n0001  20 00     ???" := by
  decide +kernel

end Disassembly
end Atari6502
