import Atari6502.Proofs.Balance

/-! Tallies of arbitrary entries, also of such that no disassembly has: the counts of two lists add up
to those of the lists put together, and the order of the entries matters to nothing but the note on
the end. -/
namespace Atari6502

namespace Instruction

/-- An entry is counted as one of these at most. -/
theorem counted_once (entry : Instruction) :
    ((if entry.isUnknown then 1 else 0) + (if entry.isBranch then 1 else 0) +
      if entry.isJump then 1 else 0) ≤ 1 := by
  by_cases hunknown : entry.isUnknown = true
  · simp [hunknown, isBranch_of_isUnknown hunknown, isJump_of_isUnknown hunknown]
  · by_cases hbranch : entry.isBranch = true
    · simp [hunknown, hbranch, isJump_of_isBranch hbranch]
    · cases entry.isJump <;> simp [hunknown, hbranch]

end Instruction

namespace Tally

/-- The tally of one entry, which is unknown, a branch or a jump, whichever fits first. -/
def single (entry : Instruction) : Tally :=
  let plain : Tally :=
    { instructions := 1, bytes := entry.size, unknown := 0, unknownBytes := 0, branches := 0,
      jumps := 0, truncatedTail := entry.isTruncated, modes := [(entry.mode, 1)] }
  match entry.mode with
  | .unknown => { plain with unknown := 1, unknownBytes := entry.size }
  | .relative => { plain with branches := 1 }
  | _ => if entry.mnemonic ∈ ["JMP", "JSR"] then { plain with jumps := 1 } else plain

theorem ofInstructions_singleton (entry : Instruction) : ofInstructions [entry] = single entry := by
  obtain ⟨address, bytes, mnemonic, operand, mode⟩ := entry
  have hnames : mnemonic ∈ ["JMP", "JSR"] ↔ mnemonic = "JMP" ∨ mnemonic = "JSR" := by simp
  rw [ofInstructions, List.foldl_cons, List.foldl_nil, add, single]
  cases mode with
  | unknown => simp [countMode]
  | relative => simp [countMode]
  | _ =>
    simp only [hnames]
    split_ifs <;> simp [countMode]

/-- The counts of `total` are those of `one` and of `other` together. -/
structure IsSum (total one other : Tally) : Prop where
  instructions : total.instructions = one.instructions + other.instructions
  bytes : total.bytes = one.bytes + other.bytes
  unknown : total.unknown = one.unknown + other.unknown
  unknownBytes : total.unknownBytes = one.unknownBytes + other.unknownBytes
  branches : total.branches = one.branches + other.branches
  jumps : total.jumps = one.jumps + other.jumps
  count : ∀ mode, total.count mode = one.count mode + other.count mode

section Append

variable (entries others : List Instruction)

theorem bytes_append :
    (ofInstructions (entries ++ others)).bytes =
      (ofInstructions entries).bytes + (ofInstructions others).bytes := by
  simp [ofInstructions_eq, countsOf]

theorem unknownBytes_append :
    (ofInstructions (entries ++ others)).unknownBytes =
      (ofInstructions entries).unknownBytes + (ofInstructions others).unknownBytes := by
  simp [ofInstructions_eq, countsOf]

theorem count_append (mode : Mode) :
    (ofInstructions (entries ++ others)).count mode =
      (ofInstructions entries).count mode + (ofInstructions others).count mode := by
  rw [count_ofInstructions, count_ofInstructions, count_ofInstructions, List.countP_append]

theorem isSum_append :
    IsSum (ofInstructions (entries ++ others)) (ofInstructions entries)
      (ofInstructions others) where
  instructions := by simp only [instructions_eq, List.length_append]
  bytes := bytes_append entries others
  unknown := by simp only [unknown_eq, List.countP_append]
  unknownBytes := unknownBytes_append entries others
  branches := by simp only [branches_eq, List.countP_append]
  jumps := by simp only [jumps_eq, List.countP_append]
  count := count_append entries others

theorem truncatedTail_append :
    (ofInstructions (entries ++ others)).truncatedTail =
      (if others = [] then ofInstructions entries else ofInstructions others).truncatedTail := by
  by_cases hnil : others = []
  · rw [hnil, List.append_nil, if_pos rfl]
  · rw [if_neg hnil]
    show (entries ++ others).getLast?.any Instruction.isTruncated =
      others.getLast?.any Instruction.isTruncated
    rw [List.getLast?_append_of_ne_nil entries hnil]

end Append

variable {entries others : List Instruction}

theorem ofInstructions_perm (h : entries.Perm others) (tail : Bool) :
    { ofInstructions entries with truncatedTail := tail } =
      { ofInstructions others with truncatedTail := tail } := by
  have hbytes := (h.flatMap_right Instruction.bytes).length_eq
  have hunknown := ((h.filter Instruction.isUnknown).flatMap_right Instruction.bytes).length_eq
  simp only [ofInstructions_eq, countsOf, h.length_eq, h.countP_eq, hbytes, hunknown]

theorem any_mode_eq_true_iff {mode : Mode} :
    entries.any (·.mode == mode) = true ↔ entries.countP (·.mode == mode) ≠ 0 := by
  rw [List.any_eq_true, ← List.countP_pos_iff, Nat.pos_iff_ne_zero]

theorem mem_modes_iff {mode : Mode} {count : Nat} :
    (mode, count) ∈ (ofInstructions entries).modes ↔
      0 < count ∧ (ofInstructions entries).count mode = count := by
  rw [count_ofInstructions, ofInstructions_eq, countsOf, List.mem_filterMap]
  constructor
  · rintro ⟨other, -, hother⟩
    unfold kept? at hother
    split_ifs at hother with hzero
    obtain ⟨rfl, rfl⟩ : other = mode ∧ _ = count := by simpa using hother
    exact ⟨Nat.pos_of_ne_zero hzero, rfl⟩
  · rintro ⟨hpos, rfl⟩
    exact ⟨mode, mode.mem_all, if_neg (Nat.ne_of_gt hpos)⟩

/-- The modes in a tally are those that occur, each once and in the order of all modes. -/
theorem fst_modes (entries : List Instruction) :
    (ofInstructions entries).modes.map Prod.fst =
      Mode.all.filter fun mode => entries.any (·.mode == mode) := by
  rw [ofInstructions_eq, countsOf, List.map_filterMap, ← List.filterMap_eq_filter]
  congr 1
  funext mode
  by_cases hcount : entries.countP (·.mode == mode) = 0
  · have hmode : ¬entries.any (·.mode == mode) = true := any_mode_eq_true_iff.not_left.mpr hcount
    simp [Option.guard, kept?, hcount, hmode]
  · have hmode : entries.any (·.mode == mode) = true := any_mode_eq_true_iff.mpr hcount
    simp [Option.guard, kept?, hcount, hmode]

theorem unknownBytes_le_bytes (entries : List Instruction) :
    (ofInstructions entries).unknownBytes ≤ (ofInstructions entries).bytes := by
  induction entries with
  | nil => exact Nat.le_refl 0
  | cons entry entries ih =>
    rw [bytes_cons, unknownBytes_cons]
    split_ifs <;> omega

theorem unknown_add_branches_add_jumps_le (entries : List Instruction) :
    (ofInstructions entries).unknown + (ofInstructions entries).branches +
      (ofInstructions entries).jumps ≤ (ofInstructions entries).instructions := by
  induction entries with
  | nil => exact Nat.le_refl 0
  | cons entry entries ih =>
    have honce := entry.counted_once
    simp only [unknown_eq, branches_eq, jumps_eq, instructions_eq, List.countP_cons,
      List.length_cons] at ih ⊢
    omega

/-- Whatever the entries are, counts add up where lists are put together, from what each entry counts
alone, and the note on the end is that of the last entry. In another order of the same entries all but
that note stays the same. The modes of a tally are those that occur, unknown bytes are among the bytes,
and no entry is counted under two heads. -/
theorem ofInstructions_additive (entries others : List Instruction) :
    let tally := ofInstructions entries
    IsSum (ofInstructions (entries ++ others)) tally (ofInstructions others) ∧
      (∀ entry, ofInstructions [entry] = single entry) ∧
      (ofInstructions (entries ++ others)).truncatedTail =
        (if others = [] then tally else ofInstructions others).truncatedTail ∧
      (entries.Perm others → ∀ tail : Bool,
        { tally with truncatedTail := tail } =
          { ofInstructions others with truncatedTail := tail }) ∧
      tally.modes.map Prod.fst = Mode.all.filter (fun mode => entries.any (·.mode == mode)) ∧
      (∀ mode count, (mode, count) ∈ tally.modes ↔ 0 < count ∧ tally.count mode = count) ∧
      tally.unknownBytes ≤ tally.bytes ∧
      tally.unknown + tally.branches + tally.jumps ≤ tally.instructions := by
  intro tally
  exact ⟨isSum_append entries others, ofInstructions_singleton,
    truncatedTail_append entries others, ofInstructions_perm, fst_modes entries,
    fun _ _ => mem_modes_iff, unknownBytes_le_bytes entries,
    unknown_add_branches_add_jumps_le entries⟩

theorem ofInstructions_additive_swapped :
    -- A jump by name that its mode makes a branch, and one that is shown as unknown.
    let branch : Instruction := ⟨0x0600, [0x4C], "JMP", none, .relative⟩
    let stray : Instruction := ⟨0x0000, [], "JSR", some "$0600", .unknown⟩
    [branch, stray].Perm [stray, branch] ∧
      { ofInstructions [branch, stray] with truncatedTail := false } =
        { ofInstructions [stray, branch] with truncatedTail := false } ∧
      (ofInstructions ([branch, stray] ++ [stray, branch])).branches = 2 ∧
      (ofInstructions ([branch, stray] ++ [stray, branch])).jumps = 0 := by
  intro branch stray
  have hperm : [branch, stray].Perm [stray, branch] := .swap stray branch []
  obtain ⟨hsum, -, -, horder, -⟩ := ofInstructions_additive [branch, stray] [stray, branch]
  exact ⟨hperm, horder hperm false, hsum.branches, hsum.jumps⟩

end Tally
end Atari6502
