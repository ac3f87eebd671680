import Atari6502.Proofs.Counting
import Atari6502.Proofs.Kinds
import Mathlib.Algebra.BigOperators.Group.List.Basic
import Mathlib.Algebra.Ring.Nat

/-! The counts over a disassembly balance: taken by mode they add up to the entries, and the sizes of
the modes add up to the input but for the second byte of an instruction that is cut off. -/
namespace Atari6502

namespace Instruction

/-- Two bytes that are shown as unknown: an opcode with one of its two operand bytes. -/
def isPair (entry : Instruction) : Bool :=
  entry.isUnknown && entry.size == 2

theorem isPair_eq_true_iff {entry : Instruction} :
    entry.isPair = true ↔ entry.isUnknown = true ∧ entry.size = 2 := by
  rw [isPair, Bool.and_eq_true, beq_iff_eq]

theorem isTruncated_of_isPair {entry : Instruction} (h : entry.isPair = true) :
    entry.isTruncated = true := by
  obtain ⟨hunknown, hsize⟩ := isPair_eq_true_iff.mp h
  simp [isTruncated, hunknown, hsize]

namespace Reads

variable {pc : Address} {entry : Instruction} {rest : Bytes}

theorem size_eq_mode_size (h : Reads pc entry rest) (hknown : entry.isUnknown = false) :
    entry.size = entry.mode.size := by
  cases h with
  | documented rest hcode hsize => exact hsize
  | undocumented rest hcode => exact Bool.noConfusion hknown
  | truncated hcode hshort => exact Bool.noConfusion hknown

theorem size_of_isUnknown (h : Reads pc entry rest) (hunknown : entry.isUnknown = true) :
    entry.size = 1 ∨ entry.size = 2 := by
  cases h with
  | @documented byte code operand rest hcode hsize =>
    exact absurd (mode_of_isUnknown hunknown) (Opcode.mode_ne_unknown_of_find? hcode)
  | undocumented rest hcode => exact .inl rfl
  | @truncated byte code operand hcode hshort =>
    have hmode : code.size ≤ 3 := code.mode.size_le_three
    show operand.length + 1 = 1 ∨ operand.length + 1 = 2
    omega

theorem rest_eq_nil_of_isPair (h : Reads pc entry rest) (hpair : entry.isPair = true) :
    rest = [] := by
  obtain ⟨hunknown, hsize⟩ := isPair_eq_true_iff.mp hpair
  cases h with
  | @documented byte code operand rest hcode =>
    exact absurd (mode_of_isUnknown hunknown) (Opcode.mode_ne_unknown_of_find? hcode)
  | undocumented rest hcode => exact absurd hsize (by decide : (1 : Nat) ≠ 2)
  | truncated hcode hshort => rfl

theorem isJump_eq (h : Reads pc entry rest) :
    entry.isJump =
      (!entry.isUnknown && entry.bytes.head?.any [0x20, 0x4C, 0x6C].contains) := by
  have htable : Opcode.documented.all (fun entry => decide
      ((!(entry.2.mode == .relative) && (entry.2.mnemonic == "JMP" || entry.2.mnemonic == "JSR")) =
        [0x20, 0x4C, 0x6C].contains entry.1)) = true := rfl
  cases h with
  | @documented byte code operand rest hcode hsize =>
    have hjump := of_decide_eq_true (Opcode.of_all_documented htable hcode)
    simp only [isJump, isBranch, Bool.and_assoc, hjump, List.head?_cons, Option.any_some]
  | undocumented rest hcode => rfl
  | truncated hcode hshort => rfl

end Reads
end Instruction

namespace Tally

/-- Looking a mode up among the counts that are kept, where zeros are not. -/
theorem lookup_filterMap_getD (modes : List Mode) (count : Mode → Nat) (mode : Mode) :
    ((modes.filterMap (kept? count)).lookup mode).getD 0 =
      if mode ∈ modes then count mode else 0 := by
  induction modes with
  | nil => rfl
  | cons head modes ih =>
    by_cases hzero : count head = 0
    · rw [List.filterMap_cons_none (show kept? count head = none from if_pos hzero), ih]
      by_cases hmode : mode = head
      · simp [hmode, hzero]
      · simp [hmode]
    · rw [List.filterMap_cons_some (show kept? count head = some (head, count head) from
        if_neg hzero), List.lookup_cons]
      by_cases hmode : mode = head
      · simp [hmode]
      · simpa [hmode, beq_false_of_ne hmode] using ih

theorem count_ofInstructions (entries : List Instruction) (mode : Mode) :
    (ofInstructions entries).count mode = entries.countP (·.mode == mode) := by
  have hlookup := lookup_filterMap_getD Mode.all (fun mode => entries.countP (·.mode == mode)) mode
  rw [if_pos mode.mem_all] at hlookup
  rw [ofInstructions_eq]
  exact hlookup

section Cons

variable (entry : Instruction) (entries : List Instruction)

theorem bytes_cons :
    (ofInstructions (entry :: entries)).bytes = entry.size + (ofInstructions entries).bytes := by
  simp [ofInstructions_eq, countsOf, Instruction.size]

theorem unknown_cons :
    (ofInstructions (entry :: entries)).unknown =
      (ofInstructions entries).unknown + if entry.isUnknown then 1 else 0 := by
  rw [unknown_eq, unknown_eq, List.countP_cons]

theorem unknownBytes_cons :
    (ofInstructions (entry :: entries)).unknownBytes =
      (ofInstructions entries).unknownBytes + if entry.isUnknown then entry.size else 0 := by
  by_cases hunknown : entry.isUnknown = true
  · simp [ofInstructions_eq, countsOf, hunknown, Instruction.size, Nat.add_comm]
  · simp [ofInstructions_eq, countsOf, hunknown]

end Cons

/-- Adding up over the modes what each entry weighs by its mode. -/
theorem sum_count_mul (entries : List Instruction) (weight : Mode → Nat) :
    (Mode.all.map fun mode => (ofInstructions entries).count mode * weight mode).sum =
      (entries.map fun entry => weight entry.mode).sum := by
  simp only [count_ofInstructions]
  induction entries with
  | nil => simp
  | cons entry entries ih =>
    have hone : ∀ mode : Mode,
        (Mode.all.map fun other => (if mode == other then 1 else 0) * weight other).sum =
          weight mode := by
      intro mode
      cases mode <;> simp [Mode.all]
    simp only [List.countP_cons, Nat.add_mul, List.sum_map_add, ih, hone, List.map_cons,
      List.sum_cons]
    exact Nat.add_comm _ _

theorem sum_count (entries : List Instruction) :
    (Mode.all.map (ofInstructions entries).count).sum = entries.length := by
  have hsum := sum_count_mul entries fun _ => 1
  simp only [Nat.mul_one, List.map_const', List.sum_replicate] at hsum
  exact hsum.trans (Nat.mul_one _)

/-- Entries of the size that their mode says, but for unknown ones, whose mode says one byte. -/
theorem bytes_add_unknown {entries : List Instruction}
    (h : ∀ entry ∈ entries, entry.isUnknown = false → entry.size = entry.mode.size) :
    (ofInstructions entries).bytes + (ofInstructions entries).unknown =
      (entries.map fun entry => entry.mode.size).sum + (ofInstructions entries).unknownBytes := by
  induction entries with
  | nil => rfl
  | cons entry entries ih =>
    have htail := ih fun other hother => h other (List.mem_cons_of_mem entry hother)
    rw [bytes_cons, unknown_cons, unknownBytes_cons, List.map_cons, List.sum_cons]
    by_cases hunknown : entry.isUnknown = true
    · have hsize : entry.mode.size = 1 := by rw [Instruction.mode_of_isUnknown hunknown]; rfl
      rw [if_pos hunknown, if_pos hunknown]
      omega
    · have hsize := h entry List.mem_cons_self (Bool.not_eq_true _ ▸ hunknown)
      rw [if_neg hunknown, if_neg hunknown]
      omega

theorem unknownBytes_eq_unknown_add {entries : List Instruction}
    (h : ∀ entry ∈ entries, entry.isUnknown = true → entry.size = 1 ∨ entry.size = 2) :
    (ofInstructions entries).unknownBytes =
      (ofInstructions entries).unknown + entries.countP Instruction.isPair := by
  induction entries with
  | nil => rfl
  | cons entry entries ih =>
    have htail := ih fun other hother => h other (List.mem_cons_of_mem entry hother)
    rw [unknown_cons, unknownBytes_cons, List.countP_cons, htail]
    by_cases hunknown : entry.isUnknown = true
    · rcases h entry List.mem_cons_self hunknown with hsize | hsize <;>
        simp [Instruction.isPair, hunknown, hsize] <;> omega
    · simp [Instruction.isPair, hunknown]

end Tally

namespace Disassembly

open Tally

/-- Only the last entry can be a pair. -/
theorem countP_isPair_disassemble (data : Bytes) (base : Address) :
    (disassemble data base).countP Instruction.isPair =
      ((disassemble data base).getLast?.any Instruction.isPair).toNat := by
  induction data, base using sweepInduction with
  | nil base => rfl
  | step base entry rest hreads ih =>
    by_cases hpair : entry.isPair = true
    · rw [hreads.rest_eq_nil_of_isPair hpair, disassemble_nil]
      simp [hpair]
    · rw [List.countP_cons_of_neg hpair, ih, List.getLast?_cons]
      cases (disassemble rest (base.advance entry.size)).getLast? with
      | none => simp [hpair]
      | some final => rfl

section Counts

variable (data : Bytes) (base : Address)

theorem bytes_disassemble : (ofInstructions (disassemble data base)).bytes = data.length := by
  rw [ofInstructions_eq]
  exact congrArg List.length (flatMap_bytes_disassemble data base)

theorem unknownBytes_disassemble :
    (ofInstructions (disassemble data base)).unknownBytes =
      (ofInstructions (disassemble data base)).unknown +
        ((disassemble data base).getLast?.any Instruction.isPair).toNat := by
  rw [← countP_isPair_disassemble]
  apply unknownBytes_eq_unknown_add
  intro entry hentry
  obtain ⟨rest, hreads⟩ := reads_of_mem hentry
  exact hreads.size_of_isUnknown

theorem length_add_unknown :
    data.length + (ofInstructions (disassemble data base)).unknown =
      (Mode.all.map fun mode =>
        (ofInstructions (disassemble data base)).count mode * mode.size).sum +
        (ofInstructions (disassemble data base)).unknownBytes := by
  rw [sum_count_mul, ← bytes_disassemble data base]
  apply bytes_add_unknown
  intro entry hentry
  obtain ⟨rest, hreads⟩ := reads_of_mem hentry
  exact hreads.size_eq_mode_size

theorem jumps_disassemble :
    (ofInstructions (disassemble data base)).jumps = (disassemble data base).countP fun entry =>
      !entry.isUnknown && entry.bytes.head?.any [0x20, 0x4C, 0x6C].contains := by
  rw [jumps_eq]
  apply List.countP_congr
  intro entry hentry
  obtain ⟨rest, hreads⟩ := reads_of_mem hentry
  rw [hreads.isJump_eq]

end Counts

/-- How the counts over the entries of an input hang together. -/
structure Balanced (data : Bytes) (entries : List Instruction) (tally : Tally) : Prop where
  instructions : tally.instructions = entries.length
  bytes : tally.bytes = data.length
  modes : (Mode.all.map tally.count).sum = tally.instructions
  unknown : tally.unknown = tally.count .unknown
  branches : tally.branches = tally.count .relative
  jumps : tally.jumps = entries.countP fun entry =>
    !entry.isUnknown && entry.bytes.head?.any [0x20, 0x4C, 0x6C].contains
  sizes : data.length = (Mode.all.map fun mode => tally.count mode * mode.size).sum +
    (tally.unknownBytes - tally.unknown)
  unknown_le : tally.unknown ≤ tally.unknownBytes
  unknownBytes_le : tally.unknownBytes ≤ tally.unknown + 1
  /-- There is a byte more than unknown entries exactly if the last entry is unknown and has two. -/
  surplus : tally.unknownBytes = tally.unknown + 1 ↔
    ∃ final, entries.getLast? = some final ∧ final.isUnknown = true ∧ final.bytes.length = 2
  truncatedTail : tally.unknownBytes = tally.unknown + 1 → tally.truncatedTail = true

/-- The counts over a disassembly balance, whatever the input. -/
theorem tally_disassemble_balanced (data : Bytes) (base : Address) :
    Balanced data (disassemble data base) (ofInstructions (disassemble data base)) := by
  have hsurplus := unknownBytes_disassemble data base
  have hsizes := length_add_unknown data base
  have hbit := Bool.toNat_le ((disassemble data base).getLast?.any Instruction.isPair)
  have hpair : (ofInstructions (disassemble data base)).unknownBytes =
      (ofInstructions (disassemble data base)).unknown + 1 ↔
        (disassemble data base).getLast?.any Instruction.isPair = true := by
    rw [hsurplus, Nat.add_left_cancel_iff, Bool.toNat_eq_one]
  exact {
    instructions := instructions_eq _
    bytes := bytes_disassemble data base
    modes := (sum_count _).trans (instructions_eq _).symm
    unknown := (unknown_eq _).trans (count_ofInstructions _ .unknown).symm
    branches := (branches_eq _).trans (count_ofInstructions _ .relative).symm
    jumps := jumps_disassemble data base
    sizes := by omega
    unknown_le := by omega
    unknownBytes_le := by omega
    surplus := by
      simp only [hpair, Option.any_eq_true, Instruction.isPair_eq_true_iff]
      rfl
    truncatedTail := by
      intro htwo
      obtain ⟨final, hfinal, hlast⟩ := (Option.any_eq_true _ _).mp (hpair.mp htwo)
      show (disassemble data base).getLast?.any Instruction.isTruncated = true
      rw [hfinal]
      exact Instruction.isTruncated_of_isPair hlast }

end Disassembly
end Atari6502
