import Atari6502.HexDump
import Atari6502.Proofs.Text
import Atari6502.Proofs.Words
import Mathlib.Algebra.Order.Floor.Div

/-! Hex dumps: the rows cut the data into pieces of one width, the last of them shorter, and show each
under its address. As nothing is left out, a dump determines the data and their place, whatever the
width of its rows. -/
namespace Atari6502

namespace HexDump

variable {width : Nat} {data : Bytes}

/-- Induction along the rows: there are no bytes left, or a row and what is left behind it. -/
@[elab_as_elim]
theorem rowsInduction {motive : Bytes → List Bytes → Prop} (hwidth : 0 < width)
    (nil : motive [] [])
    (cons : ∀ data, data ≠ [] → motive (data.drop width) (rows width (data.drop width)) →
      motive data (data.take width :: rows width (data.drop width)))
    (data : Bytes) : motive data (rows width data) := by
  by_cases hne : data = []
  · rw [hne, rows_nil]
    exact nil
  · have hpos : 0 < data.length := List.length_pos_iff.mpr hne
    have hlt : (data.drop width).length < data.length := by
      rw [List.length_drop]
      omega
    rw [rows_of_ne_nil hwidth hne]
    exact cons data hne (rowsInduction hwidth nil cons (data.drop width))
termination_by data.length

theorem flatten_rows (hwidth : 0 < width) (data : Bytes) : (rows width data).flatten = data := by
  induction data using rowsInduction hwidth with
  | nil => rfl
  | cons data hne ih => rw [List.flatten_cons, ih, List.take_append_drop]

theorem ne_nil_of_mem_rows (hwidth : 0 < width) {row : Bytes} (h : row ∈ rows width data) :
    row ≠ [] := by
  induction data using rowsInduction hwidth with
  | nil => exact absurd h List.not_mem_nil
  | cons data hne ih =>
    rcases List.mem_cons.mp h with rfl | hmem
    · have htake : data.take width ≠ [] := by
        simp [hne, Nat.ne_of_gt hwidth]
      exact htake
    · exact ih hmem

/-- So many rows are enough exactly if they have room for the data. -/
theorem length_rows_le_iff (hwidth : 0 < width) {count : Nat} :
    (rows width data).length ≤ count ↔ data.length ≤ count * width := by
  induction data using rowsInduction hwidth generalizing count with
  | nil => simp
  | cons data hne ih =>
    have hpos : 0 < data.length := List.length_pos_iff.mpr hne
    cases count with
    | zero =>
      rw [List.length_cons, Nat.zero_mul]
      omega
    | succ count =>
      rw [List.length_cons, Nat.succ_le_succ_iff, ih, List.length_drop, Nat.succ_mul]
      omega

theorem length_rows (hwidth : 0 < width) (data : Bytes) :
    (rows width data).length = data.length ⌈/⌉ width := by
  apply eq_of_forall_ge_iff
  intro count
  rw [length_rows_le_iff hwidth, ceilDiv_le_iff_le_mul hwidth, Nat.mul_comm]

theorem mul_lt_of_lt_length_rows (hwidth : 0 < width) {i : Nat}
    (h : i < (rows width data).length) : i * width < data.length := by
  have hroom := (length_rows_le_iff hwidth).not.mp (Nat.not_le_of_lt h)
  exact Nat.lt_of_not_le hroom

theorem getElem?_rows (hwidth : 0 < width) {i : Nat} (h : i < (rows width data).length) :
    (rows width data)[i]? = some ((data.drop (i * width)).take width) := by
  induction data using rowsInduction hwidth generalizing i with
  | nil => exact absurd h (Nat.not_lt_zero i)
  | cons data hne ih =>
    cases i with
    | zero => rw [List.getElem?_cons_zero, Nat.zero_mul, List.drop_zero]
    | succ i =>
      have htail : i < (rows width (data.drop width)).length := Nat.lt_of_succ_lt_succ h
      rw [List.getElem?_cons_succ, ih htail, List.drop_drop, Nat.succ_mul, Nat.add_comm width]

/-- A row ends where the next one begins, or with the data. -/
theorem take_drop_eq_extract (width i : Nat) (data : Bytes) :
    (data.drop (i * width)).take width =
      data.extract (i * width) (min ((i + 1) * width) data.length) := by
  have hstop : min ((i + 1) * width) data.length - i * width =
      min width (data.drop (i * width)).length := by
    rw [List.length_drop, Nat.succ_mul]
    omega
  rw [List.extract_eq_take_drop, hstop, ← List.take_eq_take_min]

/-- The line that shows the bytes of a row. -/
def line (address : Address) (row : Bytes) : String :=
  Hex.word address ++ "  " ++ Hex.spaced row

theorem toList_line (address : Address) (row : Bytes) :
    (line address row).toList =
      (Hex.word address).toList ++ ([' ', ' '] ++ (Hex.spaced row).toList) := by
  simp [line]

theorem isLine_line (address : Address) {row : Bytes} (hne : row ≠ []) :
    Text.IsLine (line address row) := by
  constructor
  · intro hempty
    have hlength := congrArg (fun text => text.toList.length) hempty
    simp [toList_line] at hlength
  · rw [toList_line]
    simp [Hex.newline_not_mem_word, Hex.newline_not_mem_spaced row hne]

theorem eq_of_line_eq {address address' : Address} {row row' : Bytes} (hne : row ≠ [])
    (hne' : row' ≠ []) (h : line address row = line address' row') :
    address = address' ∧ row = row' := by
  have hlist := congrArg String.toList h
  rw [toList_line, toList_line] at hlist
  obtain ⟨haddress, hrest⟩ := List.append_inj hlist (by simp)
  have hspaced := String.toList_inj.mp (List.append_cancel_left hrest)
  exact ⟨Hex.word_injective (String.toList_inj.mp haddress), Hex.eq_of_spaced_eq hne hne' hspaced⟩

/-- The lines of the rows of `data`, which are loaded at `base`. -/
def lines (data : Bytes) (base : Address) (width : Nat) : List String :=
  (rows width data).mapIdx fun i row => line (base.advance (i * width)) row

theorem hexDump_eq (data : Bytes) (base : Address) (width : Nat) :
    hexDump data base width = Text.joinLines (lines data base (max width 1)) :=
  rfl

section Lines

variable {base base' : Address}

theorem lines_ne_nil (hwidth : 0 < width) (hne : data ≠ []) : lines data base width ≠ [] := by
  rw [lines, Ne, List.mapIdx_eq_nil_iff, rows_of_ne_nil hwidth hne]
  exact List.cons_ne_nil _ _

theorem isLine_of_mem_lines (hwidth : 0 < width) {text : String}
    (h : text ∈ lines data base width) : Text.IsLine text := by
  obtain ⟨i, hi, rfl⟩ := List.mem_mapIdx.mp h
  exact isLine_line _ (ne_nil_of_mem_rows hwidth (List.getElem_mem hi))

theorem getElem?_lines (hwidth : 0 < width) {i : Nat} (h : i < (lines data base width).length) :
    (lines data base width)[i]? =
      some (line (base.advance (i * width)) ((data.drop (i * width)).take width)) := by
  have hrow : i < (rows width data).length := by
    rwa [lines, List.length_mapIdx] at h
  rw [lines, List.getElem?_mapIdx, getElem?_rows hwidth hrow, Option.map_some]

/-- Equal lines show equal rows under equal addresses, also where the widths are not equal. -/
theorem rows_eq_of_lines_eq {other : Bytes} {width' : Nat} (hwidth : 0 < width)
    (hwidth' : 0 < width') (h : lines data base width = lines other base' width') :
    rows width data = rows width' other ∧
      ∀ i < (rows width data).length, base.advance (i * width) = base'.advance (i * width') := by
  have hlength : (rows width data).length = (rows width' other).length := by
    simpa [lines] using congrArg List.length h
  have hline : ∀ i (hi : i < (rows width data).length) (hi' : i < (rows width' other).length),
      base.advance (i * width) = base'.advance (i * width') ∧
        (rows width data)[i] = (rows width' other)[i] := by
    intro i hi hi'
    apply eq_of_line_eq (ne_nil_of_mem_rows hwidth (List.getElem_mem hi))
      (ne_nil_of_mem_rows hwidth' (List.getElem_mem hi'))
    simpa [lines, hi, hi'] using congrArg (fun texts => texts[i]?) h
  constructor
  · exact List.ext_getElem hlength fun i hi hi' => (hline i hi hi').2
  · exact fun i hi => (hline i hi (hlength ▸ hi)).1

theorem eq_of_lines_eq {other : Bytes} {width' : Nat} (hwidth : 0 < width) (hwidth' : 0 < width')
    (hne : data ≠ []) (h : lines data base width = lines other base' width') :
    data = other ∧ base = base' := by
  obtain ⟨hrows, haddress⟩ := rows_eq_of_lines_eq hwidth hwidth' h
  constructor
  · rw [← flatten_rows hwidth data, hrows, flatten_rows hwidth']
  · have hfirst : 0 < (rows width data).length := by
      rw [rows_of_ne_nil hwidth hne]
      exact Nat.succ_pos _
    simpa using haddress 0 hfirst

end Lines

theorem width_pos (width : Nat) : 0 < max width 1 :=
  Nat.lt_of_lt_of_le Nat.one_pos (Nat.le_max_right width 1)

/-- A hex dump shows all bytes in rows of one width, the last of them shorter, each under the address of
its first byte, around the top of memory if need be. Two dumps with the same text come from the same
data at the same place, whatever the widths. -/
theorem hexDump_lossless (hne : data ≠ []) (base : Address) (width : Nat) :
    let w := max width 1
    let shown := (hexDump data base width).toList.splitOn '\n'
    shown.length = data.length ⌈/⌉ w ∧
      (∀ i < shown.length, i * w < data.length ∧
        shown[i]? = some (Hex.word (UInt16.ofNat ((base.toNat + i * w) % 65536)) ++ "  " ++
          " ".intercalate ((data.extract (i * w) (min ((i + 1) * w) data.length)).map
            Hex.byte)).toList) ∧
      ∀ (other : Bytes) (base' : Address) (width' : Nat),
        hexDump data base width = hexDump other base' width' → data = other ∧ base = base' := by
  intro w shown
  have hw : 0 < w := width_pos width
  have hshown : shown = (lines data base w).map String.toList := by
    show (hexDump data base width).toList.splitOn '\n' = _
    rw [hexDump_eq]
    exact Text.splitOn_joinLines (lines_ne_nil hw hne) fun _ htext => (isLine_of_mem_lines hw htext).2
  have hlength : shown.length = (lines data base w).length := by
    rw [hshown, List.length_map]
  have hrows : (lines data base w).length = (rows w data).length := List.length_mapIdx
  refine ⟨?_, ?_, ?_⟩
  · rw [hlength, hrows, length_rows hw]
  · intro i hi
    rw [hlength] at hi
    refine ⟨mul_lt_of_lt_length_rows hw (hrows ▸ hi), ?_⟩
    rw [hshown, List.getElem?_map, getElem?_lines hw hi, take_drop_eq_extract, Address.advance_eq_ofNat]
    rfl
  · intro other base' width' hdump
    rw [hexDump_eq, hexDump_eq] at hdump
    have hlines := Text.joinLines_inj (fun _ => isLine_of_mem_lines hw)
      (fun _ => isLine_of_mem_lines (width_pos width')) hdump
    exact eq_of_lines_eq hw (width_pos width') hne hlines

theorem hexDump_lossless_across_top :
    let shown := (hexDump [0x00, 0xA9, 0xFF] 0xFFFF 2).toList.splitOn '\n'
    shown.length = 2 ∧ shown[1]? = some "0001  FF".toList ∧
      ∀ (other : Bytes) (base : Address),
        hexDump [0x00, 0xA9, 0xFF] 0xFFFF 2 = hexDump other base 2 →
          [0x00, 0xA9, 0xFF] = other ∧ 0xFFFF = base := by
  intro shown
  have hne : ([0x00, 0xA9, 0xFF] : Bytes) ≠ [] := by decide
  obtain ⟨hlength, hrow, hsame⟩ := hexDump_lossless hne 0xFFFF 2
  have htwo : shown.length = 2 := hlength.trans (Nat.ceilDiv_eq_add_pred_div 3 2)
  have hsecond : 1 < shown.length := by rw [htwo]; exact Nat.one_lt_two
  have htext := (hrow 1 hsecond).2
  exact ⟨htwo, htext.trans (by decide), fun other base => hsame other base 2⟩

end HexDump
end Atari6502
