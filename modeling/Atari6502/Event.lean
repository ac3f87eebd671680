import Atari6502.Load.Warning
import Atari6502.Settings.Basic
import Atari6502.Text.Blank

/-! The log: what the program notes while it works. -/
namespace Atari6502

/-- Weight of a log line, the gravest first. -/
inductive Level where
  | error
  | warn
  | info
  | debug
  | trace
deriving DecidableEq, Repr

namespace Level

def rank : Level → Nat
  | error => 1
  | warn => 2
  | info => 3
  | debug => 4
  | trace => 5

def name : Level → String
  | error => "ERROR"
  | warn => "WARN"
  | info => "INFO"
  | debug => "DEBUG"
  | trace => "TRACE"

/-- The level that a name stands for: none for silence. -/
def ofName? : String → Option (Option Level)
  | "off" => some none
  | "error" => some (some .error)
  | "warn" => some (some .warn)
  | "info" => some (some .info)
  | "debug" => some (some .debug)
  | "trace" => some (some .trace)
  | _ => none

end Level

/-- A thing worth a log line. -/
inductive Event where
  /-- The settings of the run are known. -/
  | configured (settings : Settings)
  /-- A file was read. -/
  | fileRead (path : String) (size : Nat)
  /-- The loader met something wrong. -/
  | warned (warning : Load.Warning)
  /-- A file without segments was loaded as a whole. -/
  | rawImage (address : Address)
  /-- A block of bytes was disassembled. -/
  | disassembled (base : Address) (size instructions unknown : Nat)
deriving DecidableEq, Repr

namespace Event

def level : Event → Level
  | configured _ | fileRead .. | disassembled .. => .debug
  | warned _ => .warn
  | rawImage _ => .info

/-- The part of the program that speaks. -/
def origin : Event → String
  | configured _ | rawImage _ => "xexray"
  | fileRead .. => "xexray_core::loader"
  | warned _ => "xexray_core::loader::xex"
  | disassembled .. => "xexray_core::isa::decode"

def text : Event → String
  | configured settings =>
    "configuration config=Config \x7b loader: LoaderConfig \x7b fallback_address: " ++
      s!"{settings.fallbackAddress.toNat} \x7d, listing: ListingConfig \x7b prompt_limit: " ++
      s!"{settings.excerptLimit}, show_bytes: {settings.showBytes}, hex_width: " ++
      s!"{settings.hexWidth} \x7d \x7d"
  | fileRead path size => s!"binary loaded path={path} bytes={size}"
  | warned warning => warning.message
  | rawImage address =>
    "no segment headers; treating file as a raw image address=\"$" ++ Hex.word address ++ "\""
  | disassembled base size instructions unknown =>
    "decode pass complete base=" ++ Hex.word base ++
      s!" bytes={size} instructions={instructions} unknown={unknown}"

/-- What the log says. It is one line, unless the event names a path with a line feed. -/
def line (event : Event) : String :=
  event.level.name ++ " " ++ event.origin ++ ": " ++ event.text

def lines (event : Event) : List String :=
  Text.splitLines event.line

end Event

/-- A result together with the events on the way to it. -/
structure Logged (α : Type) where
  value : α
  events : List Event

namespace Logged

variable {α β : Type}

instance : Monad Logged where
  pure value := ⟨value, []⟩
  bind step next :=
    let result := next step.value
    ⟨result.value, step.events ++ result.events⟩

def emit (event : Event) : Logged Unit :=
  ⟨(), [event]⟩

@[simp]
theorem value_pure (a : α) : (pure a : Logged α).value = a :=
  rfl

@[simp]
theorem events_pure (a : α) : (pure a : Logged α).events = [] :=
  rfl

@[simp]
theorem value_bind (step : Logged α) (next : α → Logged β) :
    (step >>= next).value = (next step.value).value :=
  rfl

@[simp]
theorem events_bind (step : Logged α) (next : α → Logged β) :
    (step >>= next).events = step.events ++ (next step.value).events :=
  rfl

@[simp]
theorem events_emit (event : Event) : (emit event).events = [event] :=
  rfl

end Logged
end Atari6502
