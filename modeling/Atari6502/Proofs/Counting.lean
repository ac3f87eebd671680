import Atari6502.Tally.Basic
import Mathlib.Data.List.Basic
import Mathlib.Data.List.Induction
import Mathlib.Tactic.SplitIfs

/-! What the loop over a disassembly counts. -/
namespace Atari6502

namespace Instruction

def isBranch (entry : Instruction) : Bool :=
  entry.mode == .relative

def isJump (entry : Instruction) : Bool :=
  !entry.isUnknown && !entry.isBranch && (entry.mnemonic == "JMP" || entry.mnemonic == "JSR")

variable {entry : Instruction}

theorem mode_of_isUnknown (h : entry.isUnknown = true) : entry.mode = .unknown :=
  beq_iff_eq.mp h

theorem isBranch_of_isUnknown (h : entry.isUnknown = true) : entry.isBranch = false := by
  rw [isBranch, mode_of_isUnknown h]
  rfl

theorem isJump_of_isUnknown (h : entry.isUnknown = true) : entry.isJump = false := by
  simp [isJump, h]

theorem isJump_of_isBranch (h : entry.isBranch = true) : entry.isJump = false := by
  simp [isJump, h]

end Instruction

namespace Tally

/-! The counts of the modes. -/

/-- What is kept about a mode: nothing, if it does not occur. -/
def kept? (count : Mode → Nat) (mode : Mode) : Option (Mode × Nat) :=
  if count mode = 0 then none else some (mode, count mode)

theorem countMode_of_rank_lt {mode : Mode} {modes : List (Mode × Nat)}
    (h : ∀ entry ∈ modes, mode.rank < entry.1.rank) :
    countMode mode modes = (mode, 1) :: modes := by
  cases modes with
  | nil => rfl
  | cons entry modes =>
    have hlt := h entry List.mem_cons_self
    have hne : mode ≠ entry.1 := fun heq => Nat.lt_irrefl _ (heq ▸ hlt)
    exact (if_neg hne).trans (if_pos hlt)

theorem rank_lt_of_mem_filterMap {mode : Mode} {modes : List Mode} {count : Mode → Nat}
    (h : ∀ other ∈ modes, mode.rank < other.rank) :
    ∀ entry ∈ modes.filterMap (kept? count), mode.rank < entry.1.rank := by
  intro entry hentry
  obtain ⟨other, hother, hkept⟩ := List.mem_filterMap.mp hentry
  unfold kept? at hkept
  split_ifs at hkept
  cases hkept
  exact h other hother

/-- Counting keeps the order of the modes, and changes one count. -/
theorem countMode_filterMap {modes : List Mode} {count count' : Mode → Nat} {mode : Mode}
    (hsorted : modes.Pairwise fun one other => one.rank < other.rank) (hmode : mode ∈ modes)
    (hsame : count' mode = count mode + 1)
    (hothers : ∀ other, mode ≠ other → count' other = count other) :
    countMode mode (modes.filterMap (kept? count)) = modes.filterMap (kept? count') := by
  induction modes with
  | nil => exact nomatch hmode
  | cons head modes ih =>
    obtain ⟨hhead, hsorted⟩ := List.pairwise_cons.mp hsorted
    by_cases heq : mode = head
    · subst heq
      have hrest : modes.filterMap (kept? count) = modes.filterMap (kept? count') := by
        apply List.filterMap_congr
        intro other hother
        have hne : mode ≠ other := fun heq => Nat.lt_irrefl _ (heq ▸ hhead other hother)
        rw [kept?, kept?, hothers other hne]
      have hnew : kept? count' mode = some (mode, count mode + 1) := by
        rw [kept?, hsame, if_neg (Nat.succ_ne_zero _)]
      rw [List.filterMap_cons_some hnew, ← hrest]
      by_cases hzero : count mode = 0
      · have hold : kept? count mode = none := if_pos hzero
        rw [List.filterMap_cons_none hold, hzero]
        exact countMode_of_rank_lt (rank_lt_of_mem_filterMap hhead)
      · have hold : kept? count mode = some (mode, count mode) := if_neg hzero
        rw [List.filterMap_cons_some hold]
        exact if_pos rfl
    · have hmem : mode ∈ modes := (List.mem_cons.mp hmode).resolve_left heq
      have hrank : ¬mode.rank < head.rank := Nat.lt_asymm (hhead mode hmem)
      have hkept : kept? count' head = kept? count head := by rw [kept?, kept?, hothers head heq]
      cases hhead : kept? count head with
      | none =>
        rw [List.filterMap_cons_none hhead, List.filterMap_cons_none (hkept.trans hhead)]
        exact ih hsorted hmem
      | some entry =>
        obtain rfl : entry = (head, count head) := by
          unfold kept? at hhead
          split_ifs at hhead
          exact (Option.some.inj hhead).symm
        rw [List.filterMap_cons_some hhead, List.filterMap_cons_some (hkept.trans hhead),
          ← ih hsorted hmem]
        exact (if_neg heq).trans (if_neg hrank)

theorem pairwise_rank_all : Mode.all.Pairwise fun one other => one.rank < other.rank := by
  decide

/-! All counts. -/

/-- The counts of a list, each on its own. -/
def countsOf (entries : List Instruction) : Tally where
  instructions := entries.length
  bytes := (entries.flatMap Instruction.bytes).length
  unknown := entries.countP Instruction.isUnknown
  unknownBytes := ((entries.filter Instruction.isUnknown).flatMap Instruction.bytes).length
  branches := entries.countP Instruction.isBranch
  jumps := entries.countP Instruction.isJump
  modes := Mode.all.filterMap (kept? fun mode => entries.countP (·.mode == mode))

/-- One round of the loop counts one entry more. -/
theorem add_countsOf (entries : List Instruction) (entry : Instruction) :
    (countsOf entries).add entry = countsOf (entries ++ [entry]) := by
  have hmodes : countMode entry.mode (countsOf entries).modes =
      (countsOf (entries ++ [entry])).modes := by
    apply countMode_filterMap pairwise_rank_all entry.mode.mem_all
    · simp [List.countP_append]
    · intro other hne
      simp [List.countP_append, hne]
  unfold add
  dsimp only
  rw [hmodes]
  split
  · rename_i hmode
    have hunknown : entry.isUnknown = true := beq_iff_eq.mpr hmode
    simp [countsOf, hunknown, Instruction.isBranch_of_isUnknown hunknown,
      Instruction.isJump_of_isUnknown hunknown, Instruction.size]
  · rename_i hmode
    have hbranch : entry.isBranch = true := beq_iff_eq.mpr hmode
    have hknown : entry.isUnknown = false := by rw [Instruction.isUnknown, hmode]; rfl
    simp [countsOf, hknown, hbranch, Instruction.isJump_of_isBranch hbranch, Instruction.size]
  · rename_i hunknown hbranch
    have hknown : entry.isUnknown = false := beq_false_of_ne hunknown
    have hplain : entry.isBranch = false := beq_false_of_ne hbranch
    have hjump : entry.isJump = true ↔ entry.mnemonic = "JMP" ∨ entry.mnemonic = "JSR" := by
      simp [Instruction.isJump, hknown, hplain]
    split_ifs with hname
    · simp [countsOf, hknown, hplain, hjump.mpr hname, Instruction.size]
    · simp [countsOf, hknown, hplain, hjump.not.mpr hname, Instruction.size]

theorem foldl_add (entries : List Instruction) : entries.foldl add {} = countsOf entries := by
  induction entries using List.reverseRecOn with
  | nil => rfl
  | append_singleton entries entry ih =>
    rw [List.foldl_append, ih, List.foldl_cons, List.foldl_nil, add_countsOf]

/-- The loop counts what each count says on its own. -/
theorem ofInstructions_eq (entries : List Instruction) :
    ofInstructions entries =
      { countsOf entries with truncatedTail := entries.getLast?.any Instruction.isTruncated } := by
  rw [ofInstructions, foldl_add]

section Counts

variable (entries : List Instruction)

theorem instructions_eq : (ofInstructions entries).instructions = entries.length := by
  rw [ofInstructions_eq]
  rfl

theorem unknown_eq : (ofInstructions entries).unknown = entries.countP Instruction.isUnknown := by
  rw [ofInstructions_eq]
  rfl

theorem branches_eq : (ofInstructions entries).branches = entries.countP Instruction.isBranch := by
  rw [ofInstructions_eq]
  rfl

theorem jumps_eq : (ofInstructions entries).jumps = entries.countP Instruction.isJump := by
  rw [ofInstructions_eq]
  rfl

end Counts

end Tally
end Atari6502
