import Atari6502.Load.Log
import Atari6502.Proofs.Counting
import Atari6502.Proofs.Report

/-! The log agrees with the results: what the loader notes is what its report says, and the note on
a disassembly has the counts of its tally. -/
namespace Atari6502

namespace Load

@[simp] theorem events_mapM_note (warning? : Option Warning) :
    (warning?.mapM Warning.note).events = warning?.toList.map Event.warned := by
  cases warning? <;> rfl

theorem events_load (fallback : Address) (data : Bytes) :
    (load fallback data).events = (load fallback data).value.warnings.map Event.warned := by
  rw [value_load]
  simp only [load, Logged.events_bind, value_mapM_note, events_mapM_note]
  by_cases h : (Chain.ofFile data).segments = [] ∧ data ≠ []
  · rw [if_pos h]
    simp [h]
  · rw [if_neg h]
    have hchain : ((Chain.ofFile data).segments.isEmpty && !data.isEmpty) = false := by
      simpa using h
    simp [hchain]

theorem isClip_of_mem_rawWarning? {base : Address} {data : Bytes} {warning : Warning}
    (h : warning ∈ rawWarning? base data) : warning.isClip = true := by
  simp only [rawWarning?] at h
  split_ifs at h
  · obtain rfl := Option.some.inj h
    rfl
  · cases h

theorem Ending.isClip_of_mem_stop {offset : Nat} {rest : Bytes} {stop : Option Warning}
    {warning : Warning} (h : Ending offset rest stop) (hmem : warning ∈ stop) :
    warning.isClip = false := by
  cases h <;> cases hmem <;> rfl

/-- One warning at most about the file itself, and behind it one at most about a raw image. -/
theorem exists_stop_clip_load (fallback : Address) (data : Bytes) :
    ∃ stop clip : Option Warning,
      (load fallback data).value.warnings = stop.toList ++ clip.toList ∧
        (∀ warning ∈ stop, warning.isClip = false) ∧
        ∀ warning ∈ clip, warning.isClip = true ∧ (load fallback data).value.isRaw = true := by
  obtain ⟨-, rest, -, hrest⟩ := Chain.exists_ending_ofFile data
  have hstop : ∀ warning ∈ (Chain.ofFile data).stop, warning.isClip = false :=
    fun _ hmem => hrest.isClip_of_mem_stop hmem
  rw [value_load]
  split_ifs with hraw
  · exact ⟨(Chain.ofFile data).stop, rawWarning? fallback data, rfl, hstop,
      fun _ hmem => ⟨isClip_of_mem_rawWarning? hmem, rfl⟩⟩
  · exact ⟨(Chain.ofFile data).stop, none, (List.append_nil _).symm, hstop,
      fun _ hmem => nomatch hmem⟩

end Load

/-- What a disassembly notes, with the counts of its tally. -/
def Disassembly.summary (data : Bytes) (base : Address) : Event :=
  let tally := Tally.ofInstructions (disassemble data base)
  .disassembled base data.length tally.instructions tally.unknown

theorem Disassembly.events_logged (data : Bytes) (base : Address) :
    (logged data base).events = [summary data base] := by
  rw [summary, Tally.instructions_eq, Tally.unknown_eq]
  rfl

namespace Load

theorem log_eq (fallback : Address) (data : Bytes) :
    log fallback data =
      (load fallback data).value.warnings.map Event.warned ++
        (load fallback data).value.segments.map fun segment =>
          Disassembly.summary segment.data segment.start := by
  simp only [log, events_load, Segment.disassemble, Disassembly.events_logged, List.map_eq_flatMap]

/-- The events of loading are the warnings of the report: each is noted once, in order and as a
warning. There are two at most, one about the file itself and then one about a raw image. A
disassembly notes one event, with the counts that its tally has, so that the log of a file has one
such line for each segment behind the warnings. -/
theorem log_agrees_with_report (fallback : Address) (data : Bytes) :
    let loaded := load fallback data
    loaded.events.map (fun event => (event.level, event.text)) =
        loaded.value.warnings.map (fun warning => (Level.warn, warning.message)) ∧
      (∃ stop clip : Option Warning, loaded.value.warnings = stop.toList ++ clip.toList ∧
        (∀ warning ∈ stop, warning.isClip = false) ∧
        ∀ warning ∈ clip, warning.isClip = true ∧ loaded.value.isRaw = true) ∧
      (∀ (bytes : Bytes) (base : Address),
        let disassembled := Disassembly.logged bytes base
        let tally := Tally.ofInstructions disassembled.value
        disassembled.value = disassemble bytes base ∧
          disassembled.events.map (fun event => (event.level, event.text)) =
            [(Level.debug, "decode pass complete base=" ++ Hex.word base ++
              s!" bytes={bytes.length} instructions={tally.instructions} unknown={tally.unknown}")]) ∧
      log fallback data =
        loaded.value.warnings.map Event.warned ++ loaded.value.segments.map fun segment =>
          Disassembly.summary segment.data segment.start := by
  intro loaded
  have hevents : loaded.events = loaded.value.warnings.map Event.warned := events_load fallback data
  refine ⟨?_, exists_stop_clip_load fallback data, fun bytes base => ⟨rfl, ?_⟩,
    log_eq fallback data⟩
  · rw [hevents, List.map_map]
    rfl
  · rw [Disassembly.events_logged]
    rfl

end Load
end Atari6502
