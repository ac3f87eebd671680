import Atari6502.Proofs.Kinds
import Atari6502.Tally.Basic
import Mathlib.Data.List.Forall2

/-! Machine code as written: complete instructions and stray bytes one behind the other, and at the
end perhaps the beginning of an instruction. All input is of this form, its disassembly shows the
pieces as they were written, and more input changes nothing before the end of the last complete
piece. -/
namespace Atari6502

/-- A piece of machine code that stands for itself, whatever follows. -/
inductive Item where
  | instruction (byte : UInt8) (operand : Bytes) (code : Opcode)
      (hcode : Opcode.find? byte = some code) (hsize : operand.length + 1 = code.size)
  | stray (byte : UInt8) (hcode : Opcode.find? byte = none)

/-- The beginning of an instruction whose end is missing. -/
structure Fragment where
  byte : UInt8
  operand : Bytes
  code : Opcode
  hcode : Opcode.find? byte = some code
  hshort : operand.length + 1 < code.size

structure Program where
  items : List Item
  fragment? : Option Fragment

namespace Item

def bytes : Item → Bytes
  | instruction byte operand .. => byte :: operand
  | stray byte _ => [byte]

/-- The entry for the item when it is loaded at `pc`. -/
def entry (pc : Address) : Item → Instruction
  | instruction byte operand code .. =>
    ⟨pc, byte :: operand, code.mnemonic, some (code.mode.operandText pc operand), code.mode⟩
  | stray byte _ => .unknown pc [byte]

/-- The entries for items that are loaded one behind the other from `pc` on. -/
def entries (pc : Address) : List Item → List Instruction
  | [] => []
  | item :: items => item.entry pc :: entries (pc.advance item.bytes.length) items

/-- The entry has the bytes of the item. It shows an instruction by name and a stray byte as
unknown. -/
def ShownBy : Item → Instruction → Prop
  | instruction byte operand code .., entry => entry.bytes = byte :: operand ∧
      entry.isUnknown = false ∧ entry.mnemonic = code.mnemonic ∧ entry.mode = code.mode
  | stray byte _, entry => entry = .unknown entry.address [byte]

@[simp] theorem bytes_entry (item : Item) (pc : Address) : (item.entry pc).bytes = item.bytes := by
  cases item <;> rfl

theorem reads_entry (item : Item) (pc : Address) (rest : Bytes) :
    (item.entry pc).Reads pc rest := by
  cases item with
  | instruction byte operand code hcode hsize => exact .documented rest hcode hsize
  | stray byte hcode => exact .undocumented rest hcode

theorem shownBy_entry (item : Item) (pc : Address) : item.ShownBy (item.entry pc) := by
  cases item with
  | instruction byte operand code hcode hsize =>
    exact ⟨rfl, beq_false_of_ne (Opcode.mode_ne_unknown_of_find? hcode), rfl, rfl⟩
  | stray byte hcode => rfl

theorem isTruncated_entry (item : Item) (pc : Address) : (item.entry pc).isTruncated = false := by
  cases item with
  | instruction byte operand code hcode hsize =>
    have hknown := ((instruction byte operand code hcode hsize).shownBy_entry pc).2.1
    rw [Instruction.isTruncated, hknown, Bool.false_and]
  | stray byte hcode =>
    simp [entry, Instruction.unknown, Instruction.isTruncated, Instruction.size, hcode]

theorem forall₂_shownBy_entries (items : List Item) (pc : Address) :
    List.Forall₂ ShownBy items (entries pc items) := by
  induction items generalizing pc with
  | nil => exact .nil
  | cons item items ih => exact .cons (item.shownBy_entry pc) (ih _)

theorem isTruncated_of_mem_entries {items : List Item} {pc : Address} {entry : Instruction}
    (h : entry ∈ entries pc items) : entry.isTruncated = false := by
  induction items generalizing pc with
  | nil => simp [entries] at h
  | cons item items ih =>
    rcases List.mem_cons.mp h with rfl | hmem
    · exact item.isTruncated_entry pc
    · exact ih hmem

theorem length_bytes_le (item : Item) : item.bytes.length ≤ 3 := by
  have hsize := (item.reads_entry 0 []).size_le_three
  rwa [Instruction.size, bytes_entry] at hsize

theorem length_flatMap_bytes_le (items : List Item) :
    (items.flatMap bytes).length ≤ 3 * items.length := by
  induction items with
  | nil => exact Nat.le_refl 0
  | cons item items ih =>
    have hitem := item.length_bytes_le
    rw [List.flatMap_cons, List.length_append, List.length_cons]
    omega

theorem length_entries (items : List Item) (pc : Address) :
    (entries pc items).length = items.length :=
  (forall₂_shownBy_entries items pc).length_eq.symm

end Item

namespace Fragment

def bytes (fragment : Fragment) : Bytes :=
  fragment.byte :: fragment.operand

/-- Zeros in place of the bytes that are missing. -/
def padding (fragment : Fragment) : Bytes :=
  List.replicate (fragment.code.size - fragment.bytes.length) 0

def completed (fragment : Fragment) : Item :=
  .instruction fragment.byte (fragment.operand ++ fragment.padding) fragment.code fragment.hcode
    (by
      have hshort := fragment.hshort
      simp only [padding, bytes, List.length_append, List.length_replicate, List.length_cons]
      omega)

theorem bytes_completed (fragment : Fragment) :
    fragment.completed.bytes = fragment.bytes ++ fragment.padding :=
  rfl

theorem padding_ne_nil (fragment : Fragment) : fragment.padding ≠ [] := by
  have hshort : fragment.bytes.length < fragment.code.size := fragment.hshort
  rw [padding, Ne, List.replicate_eq_nil_iff]
  omega

theorem isTruncated_unknown (fragment : Fragment) (pc : Address) :
    (Instruction.unknown pc fragment.bytes).isTruncated = true := by
  simp [Instruction.isTruncated, Instruction.unknown, Instruction.isUnknown, bytes, fragment.hcode]

theorem disassemble_bytes (fragment : Fragment) (base : Address) :
    disassemble fragment.bytes base = [.unknown base fragment.bytes] := by
  have hreads : (Instruction.unknown base fragment.bytes).Reads base [] :=
    .truncated fragment.hcode fragment.hshort
  have hrun := Disassembly.disassemble_of_reads hreads
  rw [List.append_nil, Disassembly.disassemble_nil] at hrun
  exact hrun

def ShownBy (fragment : Fragment) (entry : Instruction) : Prop :=
  entry = .unknown entry.address fragment.bytes

end Fragment

def Program.bytes (program : Program) : Bytes :=
  program.items.flatMap Item.bytes ++ program.fragment?.elim [] Fragment.bytes

theorem Program.bytes_cons (item : Item) (items : List Item) (fragment? : Option Fragment) :
    bytes ⟨item :: items, fragment?⟩ = item.bytes ++ bytes ⟨items, fragment?⟩ := by
  rw [bytes, bytes, List.flatMap_cons, List.append_assoc]

theorem Program.length_bytes_lt (program : Program) :
    program.bytes.length < 3 * (program.items.length + 1) := by
  have hitems := Item.length_flatMap_bytes_le program.items
  have hfragment : (program.fragment?.elim [] Fragment.bytes).length < 3 := by
    cases program.fragment? with
    | none => exact Nat.zero_lt_succ 2
    | some fragment =>
      have hshort : fragment.bytes.length < fragment.code.size := fragment.hshort
      exact Nat.lt_of_lt_of_le hshort fragment.code.mode.size_le_three
  rw [bytes, List.length_append]
  omega

namespace Disassembly

/-- All input is a program. -/
theorem exists_program (data : Bytes) : ∃ program : Program, data = program.bytes := by
  induction data, (0 : Address) using sweepInduction with
  | nil base => exact ⟨⟨[], none⟩, rfl⟩
  | step base entry rest hreads ih =>
    obtain ⟨⟨items, fragment?⟩, hprogram⟩ := ih
    cases hreads with
    | @documented byte code operand rest hcode hsize =>
      rw [hprogram]
      exact ⟨_, (Program.bytes_cons (.instruction byte operand code hcode hsize) _ _).symm⟩
    | @undocumented byte rest hcode =>
      rw [hprogram]
      exact ⟨_, (Program.bytes_cons (.stray byte hcode) _ _).symm⟩
    | @truncated byte code operand hcode hshort =>
      exact ⟨⟨[], some ⟨byte, operand, code, hcode, hshort⟩⟩, List.append_nil _⟩

/-- Complete items are read one by one, and then what follows them. -/
theorem disassemble_items_append (items : List Item) (base : Address) (rest : Bytes) :
    disassemble (items.flatMap Item.bytes ++ rest) base =
      Item.entries base items ++
        disassemble rest (base.advance (items.flatMap Item.bytes).length) := by
  induction items generalizing base with
  | nil => simp [Item.entries]
  | cons item items ih =>
    have hreads := item.reads_entry base (items.flatMap Item.bytes ++ rest)
    have hrun := disassemble_of_reads hreads
    rw [Instruction.size, Item.bytes_entry] at hrun
    rw [List.flatMap_cons, List.append_assoc, hrun, ih, ← Address.advance_add, List.length_append]
    rfl

theorem disassemble_program (program : Program) (base : Address) :
    disassemble program.bytes base = Item.entries base program.items ++
      program.fragment?.toList.map fun fragment =>
        .unknown (base.advance (program.items.flatMap Item.bytes).length) fragment.bytes := by
  rw [Program.bytes, disassemble_items_append]
  cases program.fragment? with
  | none => rw [Option.elim_none, disassemble_nil]; rfl
  | some fragment => rw [Option.elim_some, fragment.disassemble_bytes]; rfl

/-- The disassembly of a program has one entry for each piece, in the order of the pieces, whatever
the operands look like. -/
theorem disassemble_shows_program (program : Program) (base : Address) :
    ∃ whole cut, disassemble program.bytes base = whole ++ cut ∧
      List.Forall₂ Item.ShownBy program.items whole ∧
      List.Forall₂ Fragment.ShownBy program.fragment?.toList cut := by
  refine ⟨_, _, disassemble_program program base, Item.forall₂_shownBy_entries _ base, ?_⟩
  cases program.fragment? with
  | none => exact .nil
  | some fragment => exact .cons rfl .nil

-- A load of a byte that looks like a call, a stray byte, and a call without its end.
example :
    let program : Program := ⟨
      [.instruction 0xA9 [0x20] ⟨"LDA", .immediate⟩ rfl rfl, .stray 0x02 rfl],
      some ⟨0x20, [0x00], ⟨"JSR", .absolute⟩, rfl, by decide⟩⟩
    (disassemble program.bytes 0x0600).map Instruction.mnemonic = ["LDA", "???", "???"] := by
  decide +kernel

theorem truncatedTail_disassemble_program (program : Program) (base : Address) :
    (Tally.ofInstructions (disassemble program.bytes base)).truncatedTail =
      program.fragment?.isSome := by
  show (disassemble program.bytes base).getLast?.any Instruction.isTruncated = _
  rw [disassemble_program]
  cases program.fragment? with
  | none =>
    rw [Option.toList_none, List.map_nil, List.append_nil]
    cases hlast : (Item.entries base program.items).getLast? with
    | none => rfl
    | some entry => exact Item.isTruncated_of_mem_entries (List.mem_of_getLast? hlast)
  | some fragment =>
    rw [Option.toList_some, List.map_singleton, List.getLast?_concat]
    exact fragment.isTruncated_unknown _

/-- All entries but an instruction at the end that is cut off. -/
def complete (entries : List Instruction) : List Instruction :=
  if (Tally.ofInstructions entries).truncatedTail then entries.dropLast else entries

theorem complete_disassemble_program (program : Program) (base : Address) :
    complete (disassemble program.bytes base) = Item.entries base program.items := by
  rw [complete, truncatedTail_disassemble_program, disassemble_program]
  cases program.fragment? with
  | none => simp
  | some fragment => simp

/-- Behind a fragment, its padding is not read on its own. -/
theorem disassemble_append_padding_ne {program : Program} {fragment : Fragment}
    (h : program.fragment? = some fragment) (base : Address) (others : List Instruction) :
    disassemble (program.bytes ++ fragment.padding) base ≠
      disassemble program.bytes base ++ others := by
  intro heq
  have hbytes : program.bytes ++ fragment.padding =
      program.items.flatMap Item.bytes ++ (fragment.completed.bytes ++ []) := by
    rw [Program.bytes, h, List.append_nil, fragment.bytes_completed, List.append_assoc]
    rfl
  have hreads := fragment.completed.reads_entry
    (base.advance (program.items.flatMap Item.bytes).length) []
  have hrun := disassemble_of_reads hreads
  rw [Item.bytes_entry] at hrun
  -- The entry of the fragment would be the one of the completed instruction, which has more bytes.
  rw [disassemble_program, hbytes, disassemble_items_append, hrun, h, List.append_assoc] at heq
  have hentry := List.head_eq_of_cons_eq (List.append_cancel_left heq)
  have hcompleted : fragment.bytes ++ fragment.padding = fragment.bytes :=
    (Item.bytes_entry _ _).symm.trans (congrArg Instruction.bytes hentry)
  exact fragment.padding_ne_nil (List.append_right_eq_self.mp hcompleted)

/-- The end of the input is noted as cutting an instruction off exactly if the input cannot be
disassembled independently of what follows it. In any case the complete entries stay as they are. -/
theorem truncatedTail_eq_false_iff_disassemble_append (data : Bytes) (base : Address) :
    ((Tally.ofInstructions (disassemble data base)).truncatedTail = false ↔
      ∀ more, disassemble (data ++ more) base =
        disassemble data base ++ disassemble more (base.advance data.length)) ∧
      ∀ more, complete (disassemble data base) <+: disassemble (data ++ more) base := by
  obtain ⟨program, rfl⟩ := exists_program data
  rw [truncatedTail_disassemble_program, complete_disassemble_program]
  refine ⟨⟨?_, ?_⟩, ?_⟩
  · intro hwhole more
    have hnone : program.fragment? = none := by simpa using hwhole
    have hbytes : program.bytes = program.items.flatMap Item.bytes := by
      rw [Program.bytes, hnone, Option.elim_none, List.append_nil]
    rw [disassemble_program, hnone, hbytes, disassemble_items_append]
    simp
  · intro happend
    rw [Option.isSome_eq_false_iff, Option.isNone_iff_eq_none, Option.eq_none_iff_forall_ne_some]
    intro fragment hfragment
    exact disassemble_append_padding_ne hfragment base _ (happend fragment.padding)
  · intro more
    rw [Program.bytes, List.append_assoc, disassemble_items_append]
    exact List.prefix_append _ _

end Disassembly
end Atari6502
