import Atari6502.Proofs.Sweep
import Mathlib.Logic.ExistsUnique

/-! The three kinds of entries. The bytes of an entry tell its kind, and only the last entry of a
disassembly can be cut off. -/
namespace Atari6502

namespace Opcode

theorem mem_documented_of_find? {byte : UInt8} {code : Opcode} (h : find? byte = some code) :
    (byte, code) ∈ documented := by
  obtain ⟨before, behind, hsplit, -⟩ := List.lookup_eq_some_iff.mp h
  rw [hsplit]
  exact List.mem_append_right before List.mem_cons_self

/-- What is checked for the whole table holds of all that is found in it. -/
theorem of_all_documented {p : UInt8 × Opcode → Bool} (hall : documented.all p = true)
    {byte : UInt8} {code : Opcode} (h : find? byte = some code) : p (byte, code) = true :=
  List.all_eq_true.mp hall _ (mem_documented_of_find? h)

theorem mode_ne_unknown_of_find? {byte : UInt8} {code : Opcode} (h : find? byte = some code) :
    code.mode ≠ .unknown := by
  have htable : documented.all (fun entry => decide (entry.2.mode ≠ .unknown)) = true := rfl
  exact of_decide_eq_true (of_all_documented htable h)

end Opcode

namespace Instruction

inductive Kind where
  | documented
  | undocumented
  | cutOff
deriving DecidableEq, Repr

/-- The kind as the bytes tell it. -/
def kind (entry : Instruction) : Kind :=
  match entry.bytes.head?.bind Opcode.find? with
  | none => .undocumented
  | some code => if entry.bytes.length < code.size then .cutOff else .documented

/-- The entry is a complete instruction and reads as its opcode says, or it is a single byte without
a documented meaning, or an opcode with less of an operand than belongs to it. -/
def HasKind (entry : Instruction) : Kind → Prop
  | .documented => ∃ byte operand code, entry.bytes = byte :: operand ∧
      Opcode.find? byte = some code ∧ entry.bytes.length = code.size ∧ code.size = code.mode.size ∧
      entry.mnemonic = code.mnemonic ∧ entry.mode = code.mode ∧ entry.mode ≠ .unknown ∧
      entry.operand = some (code.mode.operandText entry.address operand)
  | .undocumented => ∃ byte, entry.bytes = [byte] ∧ Opcode.find? byte = none
  | .cutOff => ∃ byte operand code, entry.bytes = byte :: operand ∧
      Opcode.find? byte = some code ∧ 1 ≤ entry.bytes.length ∧ entry.bytes.length < code.size

theorem HasKind.eq_kind {entry : Instruction} {kind : Kind} (h : entry.HasKind kind) :
    kind = entry.kind := by
  cases kind with
  | documented =>
    obtain ⟨byte, operand, code, hbytes, hcode, hsize, -⟩ := h
    rw [hbytes] at hsize
    simp [Instruction.kind, hbytes, hcode, ← hsize]
  | undocumented =>
    obtain ⟨byte, hbytes, hcode⟩ := h
    simp [Instruction.kind, hbytes, hcode]
  | cutOff =>
    obtain ⟨byte, operand, code, hbytes, hcode, -, hshort⟩ := h
    rw [hbytes, List.length_cons] at hshort
    simp [Instruction.kind, hbytes, hcode, hshort]

namespace Reads

variable {pc : Address} {entry : Instruction} {rest : Bytes}

/-- The entry has one of the kinds. All but complete instructions are shown as unknown, and behind
one that is cut off there is nothing. -/
theorem kind_cases (h : Reads pc entry rest) :
    (entry.HasKind .documented ∧ entry.isUnknown = false) ∨
      (entry.HasKind .undocumented ∧ entry = unknown pc entry.bytes) ∨
      (entry.HasKind .cutOff ∧ entry = unknown pc entry.bytes ∧ rest = []) := by
  cases h with
  | @documented byte code operand rest hcode hsize =>
    have hmode := Opcode.mode_ne_unknown_of_find? hcode
    exact .inl ⟨⟨byte, operand, code, rfl, hcode, hsize, rfl, rfl, rfl, hmode, rfl⟩,
      beq_false_of_ne hmode⟩
  | @undocumented byte rest hcode => exact .inr (.inl ⟨⟨byte, rfl, hcode⟩, rfl⟩)
  | @truncated byte code operand hcode hshort =>
    exact .inr (.inr ⟨⟨byte, operand, code, rfl, hcode, Nat.succ_pos _, hshort⟩, rfl, rfl⟩)

theorem hasKind_iff (h : Reads pc entry rest) {kind : Kind} :
    entry.HasKind kind ↔ kind = entry.kind := by
  constructor
  · exact HasKind.eq_kind
  · rintro rfl
    obtain ⟨hkind, -⟩ | ⟨hkind, -⟩ | ⟨hkind, -⟩ := h.kind_cases <;> exact hkind.eq_kind ▸ hkind

theorem eq_unknown (h : Reads pc entry rest) (hkind : entry.kind ≠ .documented) :
    entry = unknown pc entry.bytes := by
  obtain ⟨hdocumented, -⟩ | ⟨-, hentry⟩ | ⟨-, hentry, -⟩ := h.kind_cases
  · exact absurd hdocumented.eq_kind.symm hkind
  · exact hentry
  · exact hentry

theorem isUnknown_iff (h : Reads pc entry rest) :
    entry.isUnknown = true ↔ entry.kind ≠ .documented := by
  constructor
  · intro hunknown hkind
    obtain ⟨-, hknown⟩ | ⟨hother, -⟩ | ⟨hother, -⟩ := h.kind_cases
    · simp [hknown] at hunknown
    · exact absurd (hother.eq_kind.trans hkind) (by decide)
    · exact absurd (hother.eq_kind.trans hkind) (by decide)
  · intro hkind
    rw [h.eq_unknown hkind]
    rfl

theorem rest_eq_nil (h : Reads pc entry rest) (hcut : entry.kind = .cutOff) : rest = [] := by
  obtain ⟨hkind, -⟩ | ⟨hkind, -⟩ | ⟨-, -, hrest⟩ := h.kind_cases
  · exact absurd (hkind.eq_kind.trans hcut) (by decide)
  · exact absurd (hkind.eq_kind.trans hcut) (by decide)
  · exact hrest

end Reads

end Instruction

namespace Disassembly

variable {data : Bytes} {base : Address} {i : Nat} {entry : Instruction}

theorem length_of_cutOff (h : (disassemble data base)[i]? = some entry)
    (hcut : entry.kind = .cutOff) : i + 1 = (disassemble data base).length := by
  have hnil := (reads_of_getElem? h).rest_eq_nil hcut
  have hdrop : (disassemble data base).drop (i + 1) = [] := by
    rw [List.eq_nil_iff_forall_not_mem]
    intro other hother
    obtain ⟨rest, hreads⟩ := reads_of_mem (List.mem_of_mem_drop hother)
    have hempty : other.bytes = [] := List.flatMap_eq_nil_iff.mp hnil other hother
    have hpos : 0 < other.bytes.length := hreads.size_pos
    simp [hempty] at hpos
  obtain ⟨hi, -⟩ := List.getElem?_eq_some_iff.mp h
  have hle := List.drop_eq_nil_iff.mp hdrop
  omega

/-- Every entry is of exactly one kind. Those that are not complete instructions, and only those,
are shown as unknown, and only the last entry can be cut off. -/
theorem existsUnique_kind_of_entry (h : (disassemble data base)[i]? = some entry) :
    (∃! kind, entry.HasKind kind) ∧
      (entry.HasKind .cutOff → i + 1 = (disassemble data base).length) ∧
      (entry.HasKind .undocumented ∨ entry.HasKind .cutOff →
        entry.mnemonic = "???" ∧ entry.operand = none ∧ entry.mode = .unknown) ∧
      (entry.isUnknown = true ↔ entry.HasKind .undocumented ∨ entry.HasKind .cutOff) := by
  have hreads := reads_of_getElem? h
  have hothers :
      entry.HasKind .undocumented ∨ entry.HasKind .cutOff ↔ entry.kind ≠ .documented := by
    rw [hreads.hasKind_iff, hreads.hasKind_iff]
    cases entry.kind <;> simp
  refine ⟨⟨entry.kind, hreads.hasKind_iff.mpr rfl, fun kind hkind => hkind.eq_kind⟩, ?_, ?_, ?_⟩
  · intro hcut
    exact length_of_cutOff h hcut.eq_kind.symm
  · intro hkind
    rw [hreads.eq_unknown (hothers.mp hkind)]
    exact ⟨rfl, rfl, rfl⟩
  · rw [hothers, hreads.isUnknown_iff]

theorem existsUnique_kind_of_cut_off_call :
    let entry := Instruction.unknown 0x0000 [0x20, 0x00]
    (disassemble [0x02, 0x20, 0x00] 0xFFFF)[1]? = some entry ∧
      (∃! kind, entry.HasKind kind) ∧ (entry.HasKind .undocumented ∨ entry.HasKind .cutOff) := by
  intro entry
  have hentry : (disassemble [0x02, 0x20, 0x00] 0xFFFF)[1]? = some entry := by decide +kernel
  obtain ⟨hunique, -, -, hunknown⟩ := existsUnique_kind_of_entry hentry
  exact ⟨hentry, hunique, hunknown.mp rfl⟩

end Disassembly
end Atari6502
