import Atari6502.Proofs.Listing
import Atari6502.Proofs.Program

/-! Excerpts: the first lines of a listing, and a note on how many are left out, which no line of a
listing can be taken for. What an excerpt shows is settled by the bytes that as many instructions can
have at most. -/
namespace Atari6502

namespace Excerpt

/-- The line that says how many entries are left out. -/
def note (omitted : Nat) : String :=
  "... (truncated " ++ toString omitted ++ " instructions)"

theorem toList_note (omitted : Nat) :
    (note omitted).toList =
      "... (truncated ".toList ++ ((toString omitted).toList ++ " instructions)".toList) := by
  unfold note
  rw [String.toList_append, String.toList_append, List.append_assoc]

theorem append_note (omitted : Nat) :
    "\n" ++ note omitted = s!"\n... (truncated {omitted} instructions)" := by
  have hfront : "\n... (truncated " = "\n" ++ "... (truncated " := by decide
  show _ = "\n... (truncated " ++ toString omitted ++ " instructions)"
  unfold note
  rw [hfront, String.append_assoc, String.append_assoc, String.append_assoc]

theorem newline_not_mem_note (omitted : Nat) : '\n' ∉ (note omitted).toList := by
  have hdigits : '\n' ∉ (toString omitted).toList := by
    intro hmem
    have hmem' : '\n' ∈ Nat.toDigits 10 omitted := Nat.toList_repr ▸ hmem
    have hdigit := Nat.isDigit_of_mem_toDigits (by decide) (by decide) hmem'
    exact absurd hdigit (by decide)
  rw [toList_note, List.mem_append, List.mem_append]
  rintro (hfront | hmem | hback)
  · exact absurd hfront (by decide)
  · exact hdigits hmem
  · exact absurd hback (by decide)

/-- A line begins with a digit, and the note does not. -/
theorem line_ne_note (entry : Instruction) (omitted : Nat) : entry.line ≠ note omitted := by
  intro h
  have hfront := congrArg (fun text => (text.toList.take 4).map Hex.blur) h
  simp only [Instruction.toList_line, toList_note] at hfront
  rw [List.take_left' (Hex.length_toList_word _), Hex.map_blur_word,
    List.take_append_of_le_length (by decide)] at hfront
  exact absurd hfront (by decide)

/-- The lines of an excerpt. -/
def lines (entries : List Instruction) (limit : Nat) : List String :=
  (entries.take limit).map Instruction.line ++
    if limit < entries.length then [note (entries.length - limit)] else []

theorem take_lines {entries : List Instruction} {limit : Nat} (h : limit ≤ entries.length) :
    (lines entries limit).take limit = (entries.take limit).map Instruction.line := by
  apply List.take_left'
  rw [List.length_map, List.length_take, Nat.min_eq_left h]

theorem note_mem_lines_iff {entries : List Instruction} {limit : Nat} :
    (∃ omitted, note omitted ∈ lines entries limit) ↔ limit < entries.length := by
  constructor
  · rintro ⟨omitted, hmem⟩
    rcases List.mem_append.mp hmem with hline | hnote
    · obtain ⟨entry, -, hentry⟩ := List.mem_map.mp hline
      exact absurd hentry (line_ne_note entry omitted)
    · split_ifs at hnote with hlong
      · exact hlong
      · exact absurd hnote List.not_mem_nil
  · intro hlong
    refine ⟨entries.length - limit, List.mem_append_right _ ?_⟩
    rw [if_pos hlong]
    exact List.mem_singleton_self _

theorem map_toList_lines (entries : List Instruction) (limit : Nat) :
    (lines entries limit).map String.toList =
      (entries.take limit).map (fun entry => entry.line.toList) ++
        if limit < entries.length then [(note (entries.length - limit)).toList] else [] := by
  rw [lines, List.map_append, List.map_map, apply_ite (List.map String.toList)]
  rfl

theorem excerpt_eq {entries : List Instruction} {limit : Nat} (hlimit : 1 ≤ limit)
    (hne : entries ≠ []) : excerpt entries limit = Text.joinLines (lines entries limit) := by
  have hshown : (entries.take limit).map Instruction.line ≠ [] := by
    simp [hne, Nat.ne_of_gt hlimit]
  by_cases hlong : limit < entries.length
  · have homitted : entries.length - limit ≠ 0 := by omega
    rw [excerpt, if_neg homitted, ← append_note, lines, if_pos hlong, Text.joinLines,
      String.intercalate_append_of_ne_nil hshown (List.cons_ne_nil _ _), String.intercalate_singleton,
      String.append_assoc]
    rfl
  · have homitted : entries.length - limit = 0 := by omega
    rw [excerpt, if_pos homitted, lines, if_neg hlong, List.append_nil]
    rfl

end Excerpt

namespace Disassembly

variable {data : Bytes} {limit : Nat}

/-- Input that is long enough begins with as many complete items. -/
theorem exists_items_of_length_le (h : 3 * limit ≤ data.length) :
    ∃ (items : List Item) (rest : Bytes), items.length = limit ∧
      data = items.flatMap Item.bytes ++ rest := by
  obtain ⟨program, rfl⟩ := exists_program data
  have hlength := program.length_bytes_lt
  refine ⟨program.items.take limit,
    (program.items.drop limit).flatMap Item.bytes ++ program.fragment?.elim [] Fragment.bytes, ?_, ?_⟩
  · rw [List.length_take]
    omega
  · rw [← List.append_assoc, ← List.flatMap_append, List.take_append_drop]
    rfl

theorem take_disassemble_items_append (items : List Item) (base : Address) (rest : Bytes) :
    (disassemble (items.flatMap Item.bytes ++ rest) base).take items.length =
      Item.entries base items := by
  rw [disassemble_items_append, List.take_left' (Item.length_entries items base)]

theorem le_length_disassemble (base : Address) (h : 3 * limit ≤ data.length) :
    limit ≤ (disassemble data base).length := by
  obtain ⟨items, rest, rfl, rfl⟩ := exists_items_of_length_le h
  rw [disassemble_items_append, List.length_append, Item.length_entries]
  exact Nat.le_add_right _ _

/-- The first entries are settled by three bytes for each of them. -/
theorem take_disassemble_eq {other : Bytes} (base : Address) (h : 3 * limit ≤ data.length)
    (htake : data.take (3 * limit) = other.take (3 * limit)) :
    (disassemble data base).take limit = (disassemble other base).take limit := by
  obtain ⟨items, rest, rfl, rfl⟩ := exists_items_of_length_le h
  have hle := Item.length_flatMap_bytes_le items
  -- The items end within the bytes that the two inputs share.
  have hprefix : items.flatMap Item.bytes <+: other := by
    have hshared : items.flatMap Item.bytes <+: other.take (3 * items.length) := by
      rw [← htake]
      exact List.prefix_take_iff.mpr ⟨List.prefix_append _ _, hle⟩
    exact (List.prefix_take_iff.mp hshared).1
  obtain ⟨rest', rfl⟩ := hprefix
  rw [take_disassemble_items_append, take_disassemble_items_append]

theorem newline_not_mem_of_mem_lines {base : Address} {line : String}
    (h : line ∈ Excerpt.lines (disassemble data base) limit) : '\n' ∉ line.toList := by
  rcases List.mem_append.mp h with hline | hnote
  · rw [List.map_take] at hline
    exact (isLine_of_mem (List.mem_of_mem_take hline)).2
  · split_ifs at hnote with hlong
    · rw [List.mem_singleton.mp hnote]
      exact Excerpt.newline_not_mem_note _
    · exact absurd hnote List.not_mem_nil

theorem splitOn_listing {base : Address} (hne : disassemble data base ≠ []) :
    (listing (disassemble data base)).toList.splitOn '\n' =
      (disassemble data base).map fun entry => entry.line.toList := by
  rw [listing, Text.splitOn_joinLines (List.map_eq_nil_iff.not.mpr hne)
    fun _ hline => (isLine_of_mem hline).2, List.map_map]
  rfl

theorem splitOn_excerpt {base : Address} (hlimit : 1 ≤ limit) (hne : disassemble data base ≠ []) :
    (excerpt (disassemble data base) limit).toList.splitOn '\n' =
      (Excerpt.lines (disassemble data base) limit).map String.toList := by
  have hlines : Excerpt.lines (disassemble data base) limit ≠ [] := by
    simp [Excerpt.lines, hne, Nat.ne_of_gt hlimit]
  rw [Excerpt.excerpt_eq hlimit hne,
    Text.splitOn_joinLines hlines fun _ => newline_not_mem_of_mem_lines]

theorem take_splitOn_excerpt {base : Address} (hlimit : 1 ≤ limit) (h : 3 * limit ≤ data.length) :
    ((excerpt (disassemble data base) limit).toList.splitOn '\n').take limit =
      ((disassemble data base).take limit).map fun entry => entry.line.toList := by
  have hcount := le_length_disassemble base h
  have hne : disassemble data base ≠ [] := List.ne_nil_of_length_pos (Nat.lt_of_lt_of_le hlimit hcount)
  rw [splitOn_excerpt hlimit hne, ← List.map_take, Excerpt.take_lines hcount, List.map_map]
  rfl

/-- An excerpt is the beginning of the listing, as long as the limit allows, and says how many
instructions it leaves out exactly if there are any. Its lines before the note depend on no more than
three bytes for each of them. -/
theorem excerpt_bounded (data : Bytes) (base : Address) (hlimit : 1 ≤ limit) :
    let shown (data : Bytes) := (excerpt (disassemble data base) limit).toList.splitOn '\n'
    let listed := (listing (disassemble data base)).toList.splitOn '\n'
    let count := (disassemble data base).length
    (0 < count →
      shown data = listed.take (min count limit) ++
          (if limit < count then [(Excerpt.note (count - limit)).toList] else []) ∧
        ((∃ omitted, (Excerpt.note omitted).toList ∈ shown data) ↔ limit < count)) ∧
      ∀ other : Bytes, 3 * limit ≤ data.length → 3 * limit ≤ other.length →
        data.take (3 * limit) = other.take (3 * limit) →
          ((shown data).take limit).length = limit ∧
            (shown data).take limit = (shown other).take limit := by
  intro shown listed count
  refine ⟨fun hcount => ?_, fun other hlength hlength' htake => ?_⟩
  · have hne : disassemble data base ≠ [] := List.ne_nil_of_length_pos hcount
    have hshown : shown data = (Excerpt.lines (disassemble data base) limit).map String.toList :=
      splitOn_excerpt hlimit hne
    have hlisted : listed = (disassemble data base).map fun entry => entry.line.toList :=
      splitOn_listing hne
    constructor
    · rw [hshown, hlisted, Excerpt.map_toList_lines, Nat.min_comm, ← List.map_take,
        ← List.take_eq_take_min]
    · rw [hshown, ← Excerpt.note_mem_lines_iff]
      simp [String.toList_inj]
  · have hentries := take_disassemble_eq base hlength htake
    have hshown : (shown data).take limit = _ := take_splitOn_excerpt hlimit hlength
    have hshown' : (shown other).take limit = _ := take_splitOn_excerpt hlimit hlength'
    refine ⟨?_, ?_⟩
    · rw [hshown, List.length_map, List.length_take,
        Nat.min_eq_left (le_length_disassemble base hlength)]
    · rw [hshown, hshown', hentries]

theorem excerpt_bounded_first_call :
    let shown (data : Bytes) := (excerpt (disassemble data 0x0600) 1).toList.splitOn '\n'
    shown [0x20, 0x00, 0x06, 0x60] =
        ["0600  JSR $0600".toList, "... (truncated 1 instructions)".toList] ∧
      (shown [0x20, 0x00, 0x06, 0x60]).take 1 = (shown [0x20, 0x00, 0x06, 0x02, 0xD0]).take 1 := by
  intro shown
  obtain ⟨hlines, hsame⟩ := excerpt_bounded [0x20, 0x00, 0x06, 0x60] 0x0600 (Nat.le_refl 1)
  constructor
  · exact (hlines (by decide +kernel)).1.trans (by decide +kernel)
  · exact (hsame [0x20, 0x00, 0x06, 0x02, 0xD0] (by decide) (by decide) rfl).2

end Disassembly
end Atari6502
