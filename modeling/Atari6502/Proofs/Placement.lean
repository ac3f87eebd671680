import Atari6502.Proofs.AddressMap
import Atari6502.Proofs.Report
import Atari6502.Proofs.Sweep

/-! Entries in memory: in input that fits below the top, the sweep never wraps, and each byte of an
entry is the one loaded at its address. Every segment of a report fits. -/
namespace Atari6502

namespace Disassembly

variable {data : Bytes} {base : Address} {i : Nat} {entry : Instruction}

theorem drop_of_getElem? {entries : List Instruction} (h : entries[i]? = some entry) :
    entries.drop i = entry :: entries.drop (i + 1) := by
  rw [List.drop_eq_getElem?_toList_append, h]
  rfl

/-- The input around an entry: what the entries before it hold, and what those behind it hold. -/
theorem eq_append_of_getElem? (h : (disassemble data base)[i]? = some entry) :
    data = ((disassemble data base).take i).flatMap Instruction.bytes ++ (entry.bytes ++
      ((disassemble data base).drop (i + 1)).flatMap Instruction.bytes) := by
  calc data = (disassemble data base).flatMap Instruction.bytes :=
        (flatMap_bytes_disassemble data base).symm
    _ = ((disassemble data base).take i ++ (disassemble data base).drop i).flatMap
          Instruction.bytes := by rw [List.take_append_drop]
    _ = _ := by rw [drop_of_getElem? h, List.flatMap_append, List.flatMap_cons]

theorem consumed_add_size_le (h : (disassemble data base)[i]? = some entry) :
    consumed (disassemble data base) i + entry.size ≤ data.length := by
  have hlen := congrArg List.length (eq_append_of_getElem? h)
  rw [List.length_append, List.length_append] at hlen
  show consumed (disassemble data base) i + entry.bytes.length ≤ data.length
  unfold consumed
  omega

theorem getElem?_consumed_add {j : Nat} (h : (disassemble data base)[i]? = some entry)
    (hj : j < entry.bytes.length) :
    data[consumed (disassemble data base) i + j]? = entry.bytes[j]? := by
  have hdata := eq_append_of_getElem? h
  generalize hbefore : ((disassemble data base).take i).flatMap Instruction.bytes = before at hdata
  rw [consumed, hbefore, hdata, List.getElem?_append_right (Nat.le_add_right _ _),
    Nat.add_sub_cancel_left, List.getElem?_append_left hj]

theorem consumed_add_size_le_consumed {entries : List Instruction} {j : Nat} (hij : i < j)
    (h : entries[i]? = some entry) : consumed entries i + entry.size ≤ consumed entries j := by
  have htake : (entries.take j).take i = entries.take i := by
    rw [List.take_take, Nat.min_eq_left (Nat.le_of_lt hij)]
  have hentry : (entries.take j)[i]? = some entry := by
    rw [List.getElem?_take_of_lt hij, h]
  have hsplit : entries.take j = entries.take i ++ entry :: (entries.take j).drop (i + 1) := by
    rw [← drop_of_getElem? hentry, ← htake, List.take_append_drop]
  show consumed entries i + entry.bytes.length ≤ consumed entries j
  rw [consumed, consumed, hsplit, List.flatMap_append, List.flatMap_cons, List.length_append,
    List.length_append]
  omega

section Fit

variable (hfit : base.toNat + data.length ≤ Address.space)

include hfit

theorem toNat_address_of_getElem? (h : (disassemble data base)[i]? = some entry) :
    entry.address.toNat = base.toNat + consumed (disassemble data base) i := by
  have hpos := (reads_of_getElem? h).size_pos
  have hle := consumed_add_size_le h
  rw [address_of_getElem? h]
  exact Address.toNat_advance_of_lt (by omega)

theorem pairwise_address_disassemble :
    (disassemble data base).Pairwise fun one other => one.address < other.address := by
  rw [List.pairwise_iff_getElem]
  intro i j hi hj hij
  have hone := List.getElem?_eq_getElem hi
  have hother := List.getElem?_eq_getElem hj
  have hpos := (reads_of_getElem? hone).size_pos
  have hlt := consumed_add_size_le_consumed hij hone
  rw [UInt16.lt_iff_toNat_lt, toNat_address_of_getElem? hfit hone,
    toNat_address_of_getElem? hfit hother]
  omega

theorem toNat_address_add_size_getLast? (h : (disassemble data base).getLast? = some entry) :
    entry.address.toNat + entry.size = base.toNat + data.length := by
  rw [List.getLast?_eq_getElem?] at h
  have hdata := congrArg List.length (eq_append_of_getElem? h)
  have hpos : 0 < (disassemble data base).length := by
    obtain ⟨hlt, -⟩ := List.getElem?_eq_some_iff.mp h
    omega
  have hdrop : (disassemble data base).drop ((disassemble data base).length - 1 + 1) = [] :=
    List.drop_eq_nil_of_le (by omega)
  rw [hdrop, List.flatMap_nil, List.append_nil, List.length_append] at hdata
  rw [toNat_address_of_getElem? hfit h, hdata, consumed, Instruction.size, Nat.add_assoc]

end Fit

/-- Looking up an address of an entry gives the byte that the entry holds there. -/
theorem byteAt?_advance_of_getElem? {segment : Segment} {j : Nat} (hvalid : segment.Valid)
    (h : (disassemble segment.data segment.start)[i]? = some entry) (hj : j < entry.bytes.length) :
    segment.byteAt? (entry.address.advance j) = entry.bytes[j]? := by
  have hend : consumed (disassemble segment.data segment.start) i + entry.bytes.length ≤
      segment.size := consumed_add_size_le h
  have hplace : entry.address.advance j =
      segment.addressOf (consumed (disassemble segment.data segment.start) i + j) := by
    rw [address_of_getElem? h, ← Address.advance_add]
    rfl
  rw [hplace, hvalid.byteAt?_addressOf (by omega), getElem?_consumed_add h hj]

end Disassembly

namespace Load

open Disassembly

/-- The disassembly of a loaded segment lies where the segment does: the entries begin at its start,
follow each other without a wrap and end where it ends, and looking up the addresses of an entry
gives the bytes of the entry. -/
theorem disassemble_segment_in_place {fallback : Address} {data : Bytes} {segment : Segment}
    (h : segment ∈ (load fallback data).value.segments) :
    let entries := disassemble segment.data segment.start
    entries ≠ [] ∧
      (∀ (i : Nat) (entry : Instruction), entries[i]? = some entry →
        entry.address.toNat = segment.start.toNat + consumed entries i) ∧
      entries.Pairwise (fun one other => one.address < other.address) ∧
      (∃ final, entries.getLast? = some final ∧
        final.address.toNat + final.bytes.length = segment.last.toNat + 1) ∧
      ∀ entry ∈ entries, ∀ (j : Nat) (byte : UInt8), entry.bytes[j]? = some byte →
        entry.address.toNat + j ≤ 65535 ∧
          segment.byteAt? (entry.address.advance j) = some byte := by
  have hvalid := valid_of_mem_load h
  have hfit : segment.start.toNat + segment.data.length ≤ Address.space :=
    hvalid.toNat_add_size_le
  have hlen : segment.start.toNat + segment.data.length = segment.last.toNat + 1 := hvalid.2
  have hle : segment.start.toNat ≤ segment.last.toNat := hvalid.1
  have hne : disassemble segment.data segment.start ≠ [] := by
    rw [Ne, disassemble_eq_nil_iff]
    intro hnil
    rw [hnil, List.length_nil] at hlen
    omega
  refine ⟨hne, fun i entry => toNat_address_of_getElem? hfit, pairwise_address_disassemble hfit,
    ?_, ?_⟩
  · have hfinal := List.getLast?_eq_some_getLast hne
    exact ⟨_, hfinal, (toNat_address_add_size_getLast? hfit hfinal).trans hlen⟩
  · intro entry hmem j byte hbyte
    obtain ⟨i, hentry⟩ := List.getElem?_of_mem hmem
    obtain ⟨hj, -⟩ := List.getElem?_eq_some_iff.mp hbyte
    have haddress := toNat_address_of_getElem? hfit hentry
    have hend : _ + entry.bytes.length ≤ _ := consumed_add_size_le hentry
    have htop : segment.last.toNat < 65536 := segment.last.toNat_lt
    exact ⟨by omega, (byteAt?_advance_of_getElem? hvalid hentry hj).trans hbyte⟩

theorem disassemble_clipped_image_in_place :
    ⟨0xFFFE, 0xFFFF, [0xA9, 0x05]⟩ ∈ (load 0xFFFE [0xA9, 0x05, 0xEA]).value.segments ∧
      ∃ final, (disassemble [0xA9, 0x05] 0xFFFE).getLast? = some final ∧
        final.address.toNat + final.bytes.length = 0x10000 := by
  have hmem : ⟨0xFFFE, 0xFFFF, [0xA9, 0x05]⟩ ∈ (load 0xFFFE [0xA9, 0x05, 0xEA]).value.segments := by
    decide +kernel
  obtain ⟨-, -, -, hfinal, -⟩ := disassemble_segment_in_place hmem
  exact ⟨hmem, hfinal⟩

end Load
end Atari6502
