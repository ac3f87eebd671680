import Atari6502.CommandLine.Run
import Atari6502.Proofs.Validity

/-! Runs of the command line are all or nothing. What stops a run is known before anything is printed,
and is all that the run says then; a run that nothing stops prints what the library renders. -/
namespace Atari6502

/-- Settings fail because their document cannot be read or because it is wrong. -/
theorem FileReader.exists_fault_of_settings {read : FileReader} {format : Settings.Format}
    {path : String} {failure : Failure} (h : read.settings format path = .error failure) :
    (∃ fault, failure = .unreadable path fault) ∨ ∃ fault, failure = .badSettings fault := by
  unfold FileReader.settings FileReader.binary at h
  cases hread : read path with
  | error fault =>
    rw [hread] at h
    exact .inl ⟨fault, (Except.error.inj h).symm⟩
  | ok content =>
    rw [hread] at h
    cases htext : content.toString? with
    | none =>
      simp only [Except.mapError, bind, Except.bind, htext] at h
      exact .inl ⟨.notText, (Except.error.inj h).symm⟩
    | some document =>
      simp only [Except.mapError, bind, Except.bind, htext] at h
      cases hparse : Settings.parse format document with
      | ok settings => simp [hparse] at h
      | error fault =>
        rw [hparse] at h
        exact .inr ⟨fault, (Except.error.inj h).symm⟩

theorem FileReader.exists_cause?_of_settings {read : FileReader} {format : Settings.Format}
    {path : String} {failure : Failure} (h : read.settings format path = .error failure) :
    ∃ cause, failure.cause? = some cause := by
  obtain ⟨fault, rfl⟩ | ⟨fault, rfl⟩ := exists_fault_of_settings h
  · exact ⟨_, rfl⟩
  · exact ⟨_, rfl⟩

namespace CommandLine

/-- The program says that it failed and why, from the outermost to the innermost reason, and prints
nothing. -/
structure Outcome.FailsWith (outcome : Outcome) (reasons : List String) : Prop where
  exitCode : outcome.exitCode = 1
  message : outcome.message = some ("[!] " ++ ": ".intercalate reasons)
  output : outcome.output = ""

theorem Outcome.failsWith_ofStep {step : Step Unit} {complaint : Complaint}
    (h : step.result = .error complaint) (houtput : step.output = "") :
    (ofStep step).FailsWith complaint.reasons where
  exitCode := by rw [ofStep, h]; rfl
  message := by rw [ofStep, h]; rfl
  output := houtput

theorem Outcome.ofStep_of_ok {step : Step Unit} (h : step.result = .ok ()) :
    (ofStep step).exitCode = 0 ∧ (ofStep step).message = none := by
  rw [ofStep, h]
  exact ⟨rfl, rfl⟩

namespace Step

variable {α β : Type}

theorem result_ofLogged_bind (logged : Logged α) (next : α → Step β) :
    (ofLogged logged >>= next).result = (next logged.value).result :=
  rfl

theorem output_ofLogged_bind (logged : Logged α) (next : α → Step β) :
    (ofLogged logged >>= next).output = (next logged.value).output :=
  String.empty_append

theorem result_forM {items : List α} {f : α → Step PUnit}
    (h : ∀ a ∈ items, (f a).result = .ok ()) : (items.forM f).result = .ok () := by
  induction items with
  | nil => rfl
  | cons a items ih =>
    show (f a >>= fun _ => items.forM f).result = _
    rw [bind_of_ok _ (h a List.mem_cons_self)]
    exact ih fun b hb => h b (List.mem_cons_of_mem a hb)

end Step

section Load

variable {read : FileReader} {settings : Settings} {file : String}

theorem load_of_error {fault : ReadFault} (h : read file = .error fault) :
    load read settings file = .fail (.ofFailure (.unreadable file fault)) := by
  unfold load FileReader.binary
  rw [h]
  rfl

/-- A file that is read is loaded, whatever is in it. Nothing is printed. -/
theorem load_of_ok (settings : Settings) {data : Bytes} (h : read file = .ok data) :
    (load read settings file).result = .ok (Load.load settings.fallbackAddress data).value ∧
      (load read settings file).output = "" := by
  unfold load FileReader.binary
  rw [h]
  cases hraw : (Load.load settings.fallbackAddress data).value.isRaw <;>
    simp [Step.ofExcept, Except.mapError, Step.bind_of_ok, Step.log, Step.ofLogged, hraw]

variable {segments : List Segment} {index : Nat}

theorem loadSegment_of_error {fault : ReadFault} (h : read file = .error fault) :
    loadSegment read settings file index = .fail (.ofFailure (.unreadable file fault)) := by
  unfold loadSegment
  rw [load_of_error h]
  rfl

theorem loadSegment_of_ok (index : Nat) {data : Bytes} (h : read file = .ok data)
    (hsegments : segments = (Load.load settings.fallbackAddress data).value.segments) :
    (loadSegment read settings file index).result =
        (Segment.select segments index).mapError .ofFailure ∧
      (loadSegment read settings file index).output = "" := by
  obtain ⟨hresult, houtput⟩ := load_of_ok settings h
  unfold loadSegment
  rw [Step.bind_of_ok _ hresult, houtput, hsegments]
  exact ⟨rfl, rfl⟩

end Load

/-- Whatever is written as JSON can be written. -/
def Tools.Serializes (tools : Tools) : Prop :=
  ∀ json, ∃ text, tools.serialize json = .ok text

theorem Tools.Serializes.result_printJson {tools : Tools} (h : tools.Serializes) (json : Json) :
    (tools.printJson json).result = .ok () := by
  obtain ⟨text, htext⟩ := h json
  rw [printJson, htext]
  rfl

namespace Task

/-- The number of the segment that a task is about. -/
def segment? : Task → Option Nat
  | segments _ => none
  | disassembly index .. | hexDump index _ | excerpt index _ | tally index _ => some index

/-- What a task shows of its segment, if that is a rendering as it is. -/
def rendering? (task : Task) (settings : Settings) (segment : Segment) : Option String :=
  let entries := Atari6502.disassemble segment.data segment.start
  match task with
  | disassembly _ bytes false =>
    some (if bytes || settings.showBytes then table entries else listing entries)
  | hexDump _ width =>
    some (Atari6502.hexDump segment.data segment.start (width.getD settings.hexWidth))
  | excerpt _ limit => some (Atari6502.excerpt entries (limit.getD settings.excerptLimit))
  | _ => none

variable {task : Task} {tools : Tools} {read : FileReader} {settings : Settings} {file : String}
  {segments : List Segment} {index : Nat}

/-- A task on a segment prints after the segment is found, and cannot fail then. -/
theorem exists_run_eq (htools : tools.Serializes) (read : FileReader) (settings : Settings)
    (file : String) (h : task.segment? = some index) :
    ∃ render : Segment → Step Unit,
      task.run tools read settings file = loadSegment read settings file index >>= render ∧
        ∀ segment, (render segment).result = .ok () ∧
          ∀ text, task.rendering? settings segment = some text →
            (render segment).output = text ++ "\n" := by
  cases task with
  | segments json => exact nomatch h
  | disassembly other bytes json =>
    obtain rfl : other = index := Option.some.inj h
    refine ⟨_, rfl, fun segment => ?_⟩
    simp only [Step.result_ofLogged_bind, Step.output_ofLogged_bind]
    cases json with
    | true => exact ⟨htools.result_printJson _, fun text htext => nomatch htext⟩
    | false =>
      simp only [rendering?, Bool.false_eq_true, if_false]
      split
      · exact ⟨rfl, fun text htext => congrArg (· ++ "\n") (Option.some.inj htext)⟩
      · exact ⟨rfl, fun text htext => congrArg (· ++ "\n") (Option.some.inj htext)⟩
  | hexDump other width =>
    obtain rfl : other = index := Option.some.inj h
    exact ⟨_, rfl, fun segment => ⟨rfl, fun text htext =>
      congrArg (· ++ "\n") (Option.some.inj htext)⟩⟩
  | excerpt other limit =>
    obtain rfl : other = index := Option.some.inj h
    refine ⟨_, rfl, fun segment => ?_⟩
    simp only [Step.result_ofLogged_bind, Step.output_ofLogged_bind]
    exact ⟨rfl, fun text htext => congrArg (· ++ "\n") (Option.some.inj htext)⟩
  | tally other json =>
    obtain rfl : other = index := Option.some.inj h
    refine ⟨_, rfl, fun segment => ?_⟩
    simp only [Step.result_ofLogged_bind, Step.output_ofLogged_bind]
    refine ⟨?_, fun text htext => nomatch htext⟩
    cases json with
    | true => exact htools.result_printJson _
    | false => rfl

theorem run_of_error (htools : tools.Serializes) {fault : ReadFault}
    (h : read file = .error fault) :
    task.run tools read settings file = .fail (.ofFailure (.unreadable file fault)) := by
  cases htask : task.segment? with
  | some index =>
    obtain ⟨render, hrun, -⟩ := exists_run_eq htools read settings file htask
    rw [hrun, loadSegment_of_error h]
    rfl
  | none =>
    cases task with
    | segments json =>
      unfold run
      dsimp only
      rw [load_of_error h]
      rfl
    | _ => exact nomatch htask

theorem run_of_length_le (htools : tools.Serializes) {data : Bytes} (hread : read file = .ok data)
    (hsegments : segments = (Load.load settings.fallbackAddress data).value.segments)
    (h : task.segment? = some index) (hindex : segments.length ≤ index) :
    (task.run tools read settings file).result =
        .error (.ofFailure (.noSegment index segments.length)) ∧
      (task.run tools read settings file).output = "" := by
  obtain ⟨render, hrun, -⟩ := exists_run_eq htools read settings file h
  obtain ⟨hresult, houtput⟩ := loadSegment_of_ok index hread hsegments
  rw [Segment.select, List.getElem?_eq_none hindex] at hresult
  rw [hrun, Step.bind_of_error _ hresult]
  exact ⟨rfl, houtput⟩

theorem run_of_getElem? (htools : tools.Serializes) {data : Bytes} {segment : Segment}
    (hread : read file = .ok data)
    (hsegments : segments = (Load.load settings.fallbackAddress data).value.segments)
    (h : task.segment? = some index) (hsegment : segments[index]? = some segment) :
    (task.run tools read settings file).result = .ok () ∧
      ∀ text, task.rendering? settings segment = some text →
        (task.run tools read settings file).output = text ++ "\n" := by
  obtain ⟨render, hrun, hrender⟩ := exists_run_eq htools read settings file h
  obtain ⟨hresult, houtput⟩ := loadSegment_of_ok index hread hsegments
  rw [Segment.select, hsegment] at hresult
  rw [hrun, Step.bind_of_ok _ hresult, houtput]
  refine ⟨(hrender segment).1, fun text htext => ?_⟩
  rw [String.empty_append]
  exact (hrender segment).2 text htext

theorem run_of_segment?_eq_none (htools : tools.Serializes) (settings : Settings) {data : Bytes}
    (hread : read file = .ok data) (h : task.segment? = none) :
    (task.run tools read settings file).result = .ok () := by
  cases task with
  | segments json =>
    unfold run
    dsimp only
    rw [Step.bind_of_ok _ (load_of_ok settings hread).1]
    cases json with
    | true => exact htools.result_printJson _
    | false =>
      simp only [Bool.false_eq_true, if_false]
      rw [Step.bind_of_ok _ rfl]
      exact Step.result_forM fun _ _ => rfl
  | _ => exact nomatch h

end Task

namespace Invocation

/-- The settings of a run: those in the document that it names, or else the defaults. -/
def Configured (invocation : Invocation) (format : Settings.Format) (read : FileReader)
    (settings : Settings) : Prop :=
  match invocation.settings with
  | none => settings = {}
  | some path => read.settings format path = .ok settings

/-- The segments that a run finds in its file. -/
def Loads (invocation : Invocation) (read : FileReader) (settings : Settings)
    (segments : List Segment) : Prop :=
  ∃ data, read invocation.file = .ok data ∧
    segments = (Load.load settings.fallbackAddress data).value.segments

/-- What stops a run, with the reasons from the outermost to the innermost: bad settings, then a file
that cannot be read, then a segment that the file does not have. -/
inductive Stops (invocation : Invocation) (format : Settings.Format) (read : FileReader) :
    List String → Prop where
  | settings {path cause : String} {failure : Failure} (hpath : invocation.settings = some path)
      (hread : read.settings format path = .error failure) (hcause : failure.cause? = some cause) :
      Stops invocation format read ["loading configuration " ++ path, failure.message, cause]
  | file {settings : Settings} {fault : ReadFault} (hsettings : invocation.Configured format read settings)
      (hread : read invocation.file = .error fault) :
      Stops invocation format read
        [s!"could not read '{invocation.file}': " ++ fault.message, fault.message]
  | segment {settings : Settings} {segments : List Segment} {index : Nat}
      (hsettings : invocation.Configured format read settings)
      (hloads : invocation.Loads read settings segments)
      (hindex : invocation.task.segment? = some index) (hlength : segments.length ≤ index) :
      Stops invocation format read [s!"segment {index} out of range ({segments.length} segments loaded)"]

/-- Nothing stops a run. -/
structure Ready (invocation : Invocation) (format : Settings.Format) (read : FileReader)
    (settings : Settings) (segments : List Segment) : Prop where
  configured : invocation.Configured format read settings
  loads : invocation.Loads read settings segments
  inRange : ∀ index, invocation.task.segment? = some index → index < segments.length

variable {invocation : Invocation} {format : Settings.Format} {tools : Tools} {read : FileReader}
  {settings : Settings} {segments : List Segment}

theorem configured_or (invocation : Invocation) (format : Settings.Format) (read : FileReader) :
    (∃ settings, invocation.Configured format read settings) ∨
      ∃ path failure, invocation.settings = some path ∧ read.settings format path = .error failure := by
  unfold Configured
  cases hpath : invocation.settings with
  | none => exact .inl ⟨{}, rfl⟩
  | some path =>
    cases hread : read.settings format path with
    | ok settings => exact .inl ⟨settings, hread⟩
    | error failure => exact .inr ⟨path, failure, rfl, hread⟩

theorem loads_or (invocation : Invocation) (read : FileReader) (settings : Settings) :
    (∃ segments, invocation.Loads read settings segments) ∨
      ∃ fault, read invocation.file = .error fault := by
  cases hread : read invocation.file with
  | ok data => exact .inl ⟨_, data, hread, rfl⟩
  | error fault => exact .inr ⟨fault, rfl⟩

theorem exists_stops_of_settings {path : String} {failure : Failure}
    (hpath : invocation.settings = some path) (hread : read.settings format path = .error failure) :
    ∃ reasons, invocation.Stops format read reasons := by
  obtain ⟨cause, hcause⟩ := FileReader.exists_cause?_of_settings hread
  exact ⟨_, .settings hpath hread hcause⟩

theorem stops_or_ready (invocation : Invocation) (format : Settings.Format) (read : FileReader) :
    (∃ reasons, invocation.Stops format read reasons) ∨
      ∃ settings segments, invocation.Ready format read settings segments := by
  obtain ⟨settings, hsettings⟩ | ⟨path, failure, hpath, hread⟩ := invocation.configured_or format read
  · obtain ⟨segments, hloads⟩ | ⟨fault, hread⟩ := invocation.loads_or read settings
    · cases htask : invocation.task.segment? with
      | none => exact .inr ⟨settings, segments, hsettings, hloads, by simp [htask]⟩
      | some index =>
        by_cases hlength : segments.length ≤ index
        · exact .inl ⟨_, .segment hsettings hloads htask hlength⟩
        · exact .inr ⟨settings, segments, hsettings, hloads, by simpa [htask] using hlength⟩
    · exact .inl ⟨_, .file hsettings hread⟩
  · exact .inl (exists_stops_of_settings hpath hread)

theorem Configured.loadSettings_eq (h : invocation.Configured format read settings) :
    invocation.loadSettings format read = pure settings := by
  unfold Configured at h
  unfold loadSettings
  cases hpath : invocation.settings with
  | none =>
    rw [hpath] at h
    rw [show settings = {} from h]
    rfl
  | some path =>
    rw [hpath] at h
    have hread : read.settings format path = .ok settings := h
    simp only [hread, Except.mapError]
    rfl

theorem loadSettings_of_error {path : String} {failure : Failure}
    (hpath : invocation.settings = some path) (hread : read.settings format path = .error failure) :
    invocation.loadSettings format read =
      .fail ((Complaint.ofFailure failure).within ("loading configuration " ++ path)) := by
  unfold loadSettings
  rw [hpath]
  simp only [hread, Except.mapError]
  rfl

/-- Once the settings are there, a run does what its task does, and notes the settings before. -/
theorem Configured.run_eq (h : invocation.Configured tools.format read settings) :
    (invocation.run tools read).result =
        (invocation.task.run tools read settings invocation.file).result ∧
      (invocation.run tools read).output =
        (invocation.task.run tools read settings invocation.file).output := by
  unfold run
  rw [h.loadSettings_eq, Step.bind_of_ok _ (Step.result_pure settings), Step.bind_of_ok _ rfl]
  refine ⟨rfl, ?_⟩
  show "" ++ ("" ++ _) = _
  rw [String.empty_append, String.empty_append]

/-- A run that is stopped says why, and prints nothing. -/
theorem Stops.failsWith_run (htools : tools.Serializes) {reasons : List String}
    (h : invocation.Stops tools.format read reasons) :
    (Outcome.ofStep (invocation.run tools read)).FailsWith reasons := by
  cases h with
  | @settings path cause failure hpath hread hcause =>
    have hreasons : ((Complaint.ofFailure failure).within
        ("loading configuration " ++ path)).reasons =
          ["loading configuration " ++ path, failure.message, cause] := by
      rw [Complaint.within, Complaint.ofFailure, hcause]
      rfl
    rw [← hreasons, run, loadSettings_of_error hpath hread]
    exact Outcome.failsWith_ofStep rfl rfl
  | @file settings fault hsettings hread =>
    obtain ⟨hresult, houtput⟩ := hsettings.run_eq
    rw [Task.run_of_error htools hread] at hresult houtput
    exact Outcome.failsWith_ofStep hresult houtput
  | @segment settings segments index hsettings hloads hindex hlength =>
    obtain ⟨data, hread, hsegments⟩ := hloads
    obtain ⟨hresult, houtput⟩ := hsettings.run_eq
    obtain ⟨herror, hnothing⟩ := Task.run_of_length_le htools hread hsegments hindex hlength
    exact Outcome.failsWith_ofStep (hresult.trans herror) (houtput.trans hnothing)

/-- The run went through, and a rendering of its segment is printed as it is. -/
structure Succeeds (invocation : Invocation) (outcome : Outcome) (settings : Settings)
    (segments : List Segment) : Prop where
  exitCode : outcome.exitCode = 0
  message : outcome.message = none
  output : ∀ index, invocation.task.segment? = some index →
    ∃ segment, segments[index]? = some segment ∧
      ∀ text, invocation.task.rendering? settings segment = some text →
        outcome.output = text ++ "\n"

/-- A run that nothing stops goes through. -/
theorem Ready.succeeds_run (htools : tools.Serializes)
    (h : invocation.Ready tools.format read settings segments) :
    invocation.Succeeds (.ofStep (invocation.run tools read)) settings segments := by
  obtain ⟨data, hread, hsegments⟩ := h.loads
  obtain ⟨hresult, houtput⟩ := h.configured.run_eq
  cases htask : invocation.task.segment? with
  | none =>
    have hok := Task.run_of_segment?_eq_none htools settings hread htask
    obtain ⟨hexit, hmessage⟩ := Outcome.ofStep_of_ok (hresult.trans hok)
    exact ⟨hexit, hmessage, by simp [htask]⟩
  | some index =>
    have hsegment := List.getElem?_eq_getElem (h.inRange index htask)
    obtain ⟨hok, htext⟩ := Task.run_of_getElem? htools hread hsegments htask hsegment
    obtain ⟨hexit, hmessage⟩ := Outcome.ofStep_of_ok (hresult.trans hok)
    refine ⟨hexit, hmessage, fun other hother => ?_⟩
    obtain rfl : index = other := Option.some.inj (htask.symm.trans hother)
    exact ⟨_, hsegment, fun text hrendering => houtput.trans (htext text hrendering)⟩

theorem exitCode_run_eq_one_iff (htools : tools.Serializes) :
    (Outcome.ofStep (invocation.run tools read)).exitCode = 1 ↔
      ∃ reasons, invocation.Stops tools.format read reasons := by
  constructor
  · intro hfail
    obtain hstops | ⟨settings, segments, hready⟩ := invocation.stops_or_ready tools.format read
    · exact hstops
    · rw [(hready.succeeds_run htools).exitCode] at hfail
      exact absurd hfail (by decide)
  · rintro ⟨reasons, hstops⟩
    exact (hstops.failsWith_run htools).exitCode

theorem exists_stops_iff :
    (∃ reasons, invocation.Stops format read reasons) ↔
      (∃ path failure, invocation.settings = some path ∧ read.settings format path = .error failure) ∨
        (∃ fault, read invocation.file = .error fault) ∨
        ∃ settings segments index, invocation.Configured format read settings ∧
          invocation.Loads read settings segments ∧ invocation.task.segment? = some index ∧
          segments.length ≤ index := by
  constructor
  · rintro ⟨reasons, hstops⟩
    cases hstops with
    | settings hpath hread hcause => exact .inl ⟨_, _, hpath, hread⟩
    | file hsettings hread => exact .inr (.inl ⟨_, hread⟩)
    | segment hsettings hloads hindex hlength =>
      exact .inr (.inr ⟨_, _, _, hsettings, hloads, hindex, hlength⟩)
  · rintro (⟨path, failure, hpath, hread⟩ | ⟨fault, hread⟩ |
      ⟨settings, segments, index, hsettings, hloads, hindex, hlength⟩)
    · exact exists_stops_of_settings hpath hread
    · -- Bad settings stop the run before the file does.
      obtain ⟨settings, hsettings⟩ | ⟨path, failure, hpath, hsettings⟩ :=
        invocation.configured_or format read
      · exact ⟨_, .file hsettings hread⟩
      · exact exists_stops_of_settings hpath hsettings
    · exact ⟨_, .segment hsettings hloads hindex hlength⟩

/-- A file that is not empty has a first segment. -/
theorem ready_of_ne_nil {data : Bytes} (hsettings : invocation.Configured format read settings)
    (hread : read invocation.file = .ok data) (hne : data ≠ [])
    (hindex : ∀ index, invocation.task.segment? = some index → index = 0) :
    invocation.Ready format read settings (Load.load settings.fallbackAddress data).value.segments where
  configured := hsettings
  loads := ⟨data, hread, rfl⟩
  inRange index htask := by
    rw [hindex index htask]
    exact List.length_pos_iff.mpr fun hnil => hne (Load.segments_load_eq_nil_iff.mp hnil)

theorem exists_stops_of_nil {index : Nat} (hread : read invocation.file = .ok [])
    (hindex : invocation.task.segment? = some index) :
    ∃ reasons, invocation.Stops format read reasons := by
  obtain ⟨settings, hsettings⟩ | ⟨path, failure, hpath, hsettings⟩ := invocation.configured_or format read
  · have hnil : (Load.load settings.fallbackAddress []).value.segments = [] :=
      Load.segments_load_eq_nil_iff.mpr rfl
    exact ⟨_, .segment hsettings ⟨[], hread, hnil.symm⟩ hindex (Nat.zero_le index)⟩
  · exact exists_stops_of_settings hpath hsettings

end Invocation

/-- A run fails exactly if its settings are bad, its file cannot be read, or the file does not have the
segment that the task is about. It then says which of these comes first, and prints nothing. Otherwise
it goes through, and prints a rendering of the segment as it is. So it never fails on the first segment
of a file with bytes in it, and always on a segment of an empty file. -/
theorem run_all_or_nothing {tools : Tools} (htools : tools.Serializes) {args : List String}
    {invocation : Invocation} (hparse : tools.parse args = .ok (.perform invocation))
    (read : FileReader) :
    let format := tools.format
    let outcome := run tools args read
    (outcome.exitCode = 1 ↔
        (∃ path failure, invocation.settings = some path ∧
            read.settings format path = .error failure) ∨
          (∃ fault, read invocation.file = .error fault) ∨
          ∃ settings segments index, invocation.Configured format read settings ∧
            invocation.Loads read settings segments ∧ invocation.task.segment? = some index ∧
            segments.length ≤ index) ∧
      (outcome.exitCode = 1 →
        ∃ reasons, invocation.Stops format read reasons ∧ outcome.FailsWith reasons) ∧
      (outcome.exitCode ≠ 1 →
        ∃ settings segments, invocation.Ready format read settings segments ∧
          invocation.Succeeds outcome settings segments) ∧
      (∀ settings data, invocation.Configured format read settings →
        read invocation.file = .ok data → data ≠ [] →
        (∀ index, invocation.task.segment? = some index → index = 0) → outcome.exitCode = 0) ∧
      (read invocation.file = .ok [] → invocation.task.segment?.isSome = true →
        outcome.exitCode = 1) := by
  intro format outcome
  have hrun : outcome = .ofStep (invocation.run tools read) := by
    show run tools args read = _
    rw [run, hparse]
    rfl
  have hfails : outcome.exitCode = 1 ↔ ∃ reasons, invocation.Stops format read reasons := by
    rw [hrun, Invocation.exitCode_run_eq_one_iff htools]
  refine ⟨hfails.trans Invocation.exists_stops_iff, ?_, ?_, ?_, ?_⟩
  · intro hfail
    obtain ⟨reasons, hstops⟩ := hfails.mp hfail
    exact ⟨reasons, hstops, hrun ▸ hstops.failsWith_run htools⟩
  · intro hpass
    obtain hstops | ⟨settings, segments, hready⟩ := invocation.stops_or_ready format read
    · exact absurd (hfails.mpr hstops) hpass
    · exact ⟨settings, segments, hready, hrun ▸ hready.succeeds_run htools⟩
  · intro settings data hsettings hread hne hindex
    rw [hrun]
    exact ((Invocation.ready_of_ne_nil hsettings hread hne hindex).succeeds_run htools).exitCode
  · intro hread htask
    obtain ⟨index, hindex⟩ := Option.isSome_iff_exists.mp htask
    exact hfails.mpr (Invocation.exists_stops_of_nil hread hindex)

theorem run_all_or_nothing_on_one_byte :
    let read : FileReader := fun path => if path = "raw" then .ok [0x60] else .error .notFound
    (run .standard ["hex", "raw"] read).exitCode = 0 ∧
      (run .standard ["hex", "raw", "-s1"] read).exitCode = 1 ∧
      (run .standard ["hex", "raw", "-s1"] read).message =
        some "[!] segment 1 out of range (1 segments loaded)" := by
  intro read
  have htools : Tools.standard.Serializes := fun json => ⟨json.pretty, rfl⟩
  have hfirst : Tools.standard.parse ["hex", "raw"] =
      .ok (.perform ⟨none, "raw", .hexDump 0 none⟩) := rfl
  have hsecond : Tools.standard.parse ["hex", "raw", "-s1"] =
      .ok (.perform ⟨none, "raw", .hexDump 1 none⟩) := rfl
  obtain ⟨-, -, -, hpass, -⟩ := run_all_or_nothing htools hfirst read
  obtain ⟨hfail, hreasons, -⟩ := run_all_or_nothing htools hsecond read
  have hcount : (Load.load ({} : Settings).fallbackAddress [0x60]).value.segments.length ≤ 1 := by
    decide +kernel
  have hone : (run .standard ["hex", "raw", "-s1"] read).exitCode = 1 :=
    hfail.mpr (.inr (.inr ⟨{}, _, 1, rfl, ⟨[0x60], rfl, rfl⟩, rfl, hcount⟩))
  refine ⟨hpass {} [0x60] rfl rfl (by decide) (fun _ hindex => (Option.some.inj hindex).symm),
    hone, ?_⟩
  obtain ⟨reasons, hstops, hfails⟩ := hreasons hone
  cases hstops with
  | settings hpath => exact nomatch hpath
  | file hsettings hread => exact nomatch hread
  | @segment settings segments index hsettings hloads hindex =>
    obtain ⟨data, hread, rfl⟩ := hloads
    obtain rfl : settings = {} := hsettings
    obtain rfl : [0x60] = data := Except.ok.inj hread
    obtain rfl : 1 = index := Option.some.inj hindex
    exact hfails.message.trans (by decide +kernel)

end CommandLine
end Atari6502
