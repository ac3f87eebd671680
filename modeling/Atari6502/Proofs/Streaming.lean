import Atari6502.Proofs.Sweep

/-! Reading entry by entry at a cursor. From wherever it starts, even in the middle of an instruction,
it comes to the end of the input and reads what the sweep finds behind the starting point. -/
namespace Atari6502

namespace Instruction

variable {data : Bytes} {base : Address} {cursor : Nat} {entry : Instruction}

theorem at?_eq_none_iff : at? data cursor base = none ↔ data.length ≤ cursor := by
  rw [at?, first?_eq_none_iff, List.drop_eq_nil_iff]

theorem add_size_le_of_at? (h : at? data cursor base = some entry) :
    cursor + entry.size ≤ data.length := by
  obtain ⟨rest, hdata, hreads⟩ := exists_reads_of_first? h
  have hpos : 0 < entry.bytes.length := hreads.size_pos
  have hlen := congrArg List.length hdata
  rw [List.length_drop, List.length_append] at hlen
  show cursor + entry.bytes.length ≤ data.length
  omega

theorem size_pos_of_at? (h : at? data cursor base = some entry) : 0 < entry.size :=
  (first?_bytes h).1

end Instruction

namespace Disassembly

/-- Entries read one behind the other between two positions of a cursor: each is read at the cursor,
which then moves behind it. -/
inductive Walk (data : Bytes) (base : Address) : Nat → List Instruction → Nat → Prop where
  | stay (cursor : Nat) : Walk data base cursor [] cursor
  | step {cursor stop : Nat} {entry : Instruction} {entries : List Instruction}
      (hentry : Instruction.at? data cursor base = some entry)
      (hwalk : Walk data base (cursor + entry.size) entries stop) :
      Walk data base cursor (entry :: entries) stop

/-- The disassembly of what is left of `data` at a cursor. -/
def disassembleFrom (data : Bytes) (base : Address) (cursor : Nat) : List Instruction :=
  disassemble (data.drop cursor) (base.advance cursor)

variable {data : Bytes} {base : Address} {cursor stop : Nat}

theorem disassembleFrom_of_length_le (h : data.length ≤ cursor) :
    disassembleFrom data base cursor = [] := by
  rw [disassembleFrom, List.drop_eq_nil_of_le h, disassemble_nil]

theorem disassembleFrom_of_at? {entry : Instruction}
    (h : Instruction.at? data cursor base = some entry) :
    disassembleFrom data base cursor =
      entry :: disassembleFrom data base (cursor + entry.size) := by
  have hrun := disassemble_of_first?_some h
  rw [List.drop_drop, ← Address.advance_add] at hrun
  exact hrun

namespace Walk

variable {entries : List Instruction}

theorem le (h : Walk data base cursor entries stop) : cursor ≤ stop := by
  induction h with
  | stay cursor => exact Nat.le_refl cursor
  | step hentry _ ih => exact Nat.le_trans (Nat.le_add_right _ _) ih

theorem le_max (h : Walk data base cursor entries stop) : stop ≤ max cursor data.length := by
  induction h with
  | stay cursor => exact Nat.le_max_left cursor _
  | step hentry _ ih =>
    have hend := Instruction.add_size_le_of_at? hentry
    omega

/-- What is read on the way comes first, and then what is left where the walk stops. -/
theorem disassembleFrom_eq (h : Walk data base cursor entries stop) :
    disassembleFrom data base cursor = entries ++ disassembleFrom data base stop := by
  induction h with
  | stay cursor => rfl
  | step hentry _ ih => rw [disassembleFrom_of_at? hentry, ih, List.cons_append]

end Walk

/-- The walk to the end of the input. Each entry takes a byte at least, so that there is one. -/
theorem walk_disassembleFrom (data : Bytes) (base : Address) (cursor : Nat) :
    Walk data base cursor (disassembleFrom data base cursor) (max cursor data.length) := by
  cases hentry : Instruction.at? data cursor base with
  | none =>
    have hend := Instruction.at?_eq_none_iff.mp hentry
    rw [disassembleFrom_of_length_le hend, Nat.max_eq_left hend]
    exact .stay cursor
  | some entry =>
    have hpos := Instruction.size_pos_of_at? hentry
    have hend := Instruction.add_size_le_of_at? hentry
    have hwalk := walk_disassembleFrom data base (cursor + entry.size)
    rw [Nat.max_eq_right hend] at hwalk
    rw [disassembleFrom_of_at? hentry, Nat.max_eq_right (by omega)]
    exact .step hentry hwalk
termination_by data.length - cursor

theorem walk_and_at?_eq_none_iff {entries : List Instruction} :
    Walk data base cursor entries stop ∧ Instruction.at? data stop base = none ↔
      entries = disassembleFrom data base cursor ∧ stop = max cursor data.length := by
  constructor
  · rintro ⟨hwalk, hnone⟩
    have hend := Instruction.at?_eq_none_iff.mp hnone
    have hentries := hwalk.disassembleFrom_eq
    rw [disassembleFrom_of_length_le hend, List.append_nil] at hentries
    have hle := hwalk.le
    have hmax := hwalk.le_max
    exact ⟨hentries.symm, by omega⟩
  · rintro ⟨rfl, rfl⟩
    exact ⟨walk_disassembleFrom data base cursor,
      Instruction.at?_eq_none_iff.mpr (Nat.le_max_right _ _)⟩

/-- There is an entry at every position before the end of the input. Reading entry by entry until
there is none stops at the end of the input, or at once if it starts behind it, and gives the
disassembly of the bytes from the starting point on. All reading from there runs along that
disassembly, and two readings that come to the same position give the same entries behind it. -/
theorem streaming_agrees_with_disassemble (data : Bytes) (base : Address) (offset : Nat) :
    (Instruction.at? data offset base = none ↔ offset ≥ data.length) ∧
      (∀ entries stop,
        Walk data base offset entries stop ∧ Instruction.at? data stop base = none ↔
          entries = disassemble (data.drop offset) (base.advance offset) ∧
            stop = max offset data.length) ∧
      ∀ (offset' cursor : Nat) (before before' : List Instruction),
        Walk data base offset before cursor → Walk data base offset' before' cursor →
          ∃ common, common = disassemble (data.drop cursor) (base.advance cursor) ∧
            disassemble (data.drop offset) (base.advance offset) = before ++ common ∧
            disassemble (data.drop offset') (base.advance offset') = before' ++ common := by
  refine ⟨Instruction.at?_eq_none_iff, fun _ _ => walk_and_at?_eq_none_iff, ?_⟩
  intro offset' cursor before before' hwalk hwalk'
  exact ⟨_, rfl, hwalk.disassembleFrom_eq, hwalk'.disassembleFrom_eq⟩

-- A call, read from its start and from its operand, where a load begins: both end at the return.
example :
    let data : Bytes := [0x20, 0xA9, 0x05, 0x60]
    Walk data 0xFFFF 0 [⟨0xFFFF, [0x20, 0xA9, 0x05], "JSR", some "$05A9", .absolute⟩] 3 ∧
      Walk data 0xFFFF 1 [⟨0x0000, [0xA9, 0x05], "LDA", some "#$05", .immediate⟩] 3 :=
  ⟨.step (by decide) (.stay 3), .step (by decide) (.stay 3)⟩

end Disassembly
end Atari6502
