import Atari6502.CommandLine.Basic

/-!
Reading command lines. Words are taken from left to right. An option without an attached value waits
for the next word, and a value is checked only when the next argument is accepted, so that an argument
that is not known is reported before a value that is wrong.
-/
namespace Atari6502.CommandLine

/-- Why reading ends early. -/
inductive Halt where
  | usage (error : UsageError)
  | help
  | version
deriving DecidableEq, Repr

/-- Appends decimal digits to a count of 64 bits. -/
def countFrom (n : Nat) : List Char → Except CountFault Nat
  | [] => .ok n
  | c :: cs =>
    if !c.isDigit then .error .badDigit
    else
      let next := n * 10 + (c.toNat - '0'.toNat)
      if 0xFFFFFFFFFFFFFFFF < next then .error .tooLarge else countFrom next cs

/-- A count: decimal digits, which a plus sign may precede. -/
def count (text : String) : Except CountFault Nat :=
  match text.toList with
  | [] => .error .empty
  | ['+'] => .error .badDigit
  | '+' :: cs => countFrom 0 cs
  | cs => countFrom 0 cs

/-- The arguments so far. A value that is not yet checked is pending, and so is an option that waits
for its value. -/
structure Draft where
  config : Option String := none
  file : Option String := none
  segment : Option Nat := none
  width : Option Nat := none
  limit : Option Nat := none
  json : Bool := false
  bytes : Bool := false
  pending : Option (Slot × Option String) := none
deriving DecidableEq, Repr

namespace Draft

def has (draft : Draft) : Slot → Bool
  | .config => draft.config.isSome
  | .file => draft.file.isSome
  | .segment => draft.segment.isSome
  | .width => draft.width.isSome
  | .limit => draft.limit.isSome

/-- Checks a value and keeps it. Paths are not empty, all else are counts. -/
def store (draft : Draft) (slot : Slot) (text : String) : Except Halt Draft :=
  let path : Except Halt (Option String) :=
    if text.isEmpty then .error (.usage (.noValue slot)) else .ok (some text)
  let number : Except Halt (Option Nat) :=
    match count text with
    | .ok n => .ok (some n)
    | .error fault => .error (.usage (.badCount text slot fault))
  if draft.has slot then .error (.usage (.repeatedSlot slot))
  else
    match slot with
    | .config => do return { draft with config := ← path }
    | .file => do return { draft with file := ← path }
    | .segment => do return { draft with segment := ← number }
    | .width => do return { draft with width := ← number }
    | .limit => do return { draft with limit := ← number }

/-- Checks the pending value. -/
def settle (draft : Draft) : Except Halt Draft :=
  match draft.pending with
  | none => .ok draft
  | some (slot, none) => .error (.usage (.noValue slot))
  | some (slot, some text) => { draft with pending := none }.store slot text

/-- A value attached to its option. -/
def attach (draft : Draft) (slot : Slot) (text : String) : Except Halt Draft := do
  (← draft.settle).store slot text

/-- An option whose value is to come. -/
def await (draft : Draft) (slot : Slot) : Except Halt Draft := do
  return { ← draft.settle with pending := some (slot, none) }

/-- The option that waits for its value. -/
def awaited? (draft : Draft) : Option Slot :=
  match draft.pending with
  | some (slot, none) => some slot
  | _ => none

def raise (draft : Draft) (flag : Flag) : Except Halt Draft := do
  let draft ← draft.settle
  match flag with
  | .json =>
    if draft.json then .error (.usage (.repeatedFlag .json))
    else .ok { draft with json := true }
  | .bytes =>
    if draft.bytes then .error (.usage (.repeatedFlag .bytes))
    else .ok { draft with bytes := true }

/-- A word that is no option: the file. -/
def position (draft : Draft) (word : String) : Except Halt Draft := do
  if draft.has .file || draft.pending.any (·.1 == .file) then
    .error (.usage (.unexpectedArgument word))
  else
    return { ← draft.settle with pending := some (.file, some word) }

end Draft

/-- What an option does. -/
inductive Action where
  | take (slot : Slot)
  | set (flag : Flag)
  | showHelp
  | showVersion
deriving DecidableEq, Repr

structure Switch where
  short : Option Char
  long : String
  action : Action
deriving DecidableEq, Repr

namespace Switch

def config : Switch := ⟨some 'c', "config", .take .config⟩
def segment : Switch := ⟨some 's', "segment", .take .segment⟩
def width : Switch := ⟨some 'w', "width", .take .width⟩
def limit : Switch := ⟨some 'l', "limit", .take .limit⟩
def json : Switch := ⟨none, "json", .set .json⟩
def bytes : Switch := ⟨some 'b', "bytes", .set .bytes⟩
def help : Switch := ⟨some 'h', "help", .showHelp⟩
def version : Switch := ⟨some 'V', "version", .showVersion⟩

/-- The options in front of the command. -/
def global : List Switch :=
  [config, help, version]

/-- An option by its long name. -/
def applyLong (switches : List Switch) (name : String) (value : Option String) (draft : Draft) :
    Except Halt Draft :=
  match switches.find? (·.long == name), value with
  | none, _ => .error (.usage (.unexpectedArgument ("--" ++ name)))
  | some ⟨_, _, .take slot⟩, some text => draft.attach slot text
  | some ⟨_, _, .take slot⟩, none => draft.await slot
  | some _, some text => .error (.usage (.unexpectedValue text ("--" ++ name)))
  | some ⟨_, _, .set flag⟩, none => draft.raise flag
  | some ⟨_, _, .showHelp⟩, none => do
    let _ ← draft.settle
    throw .help
  | some ⟨_, _, .showVersion⟩, none => do
    let _ ← draft.settle
    throw .version

/-- Options by their letters. What follows the letter of an option with a value is the value, with or
without an equals sign. -/
def applyShorts (switches : List Switch) : List Char → Draft → Except Halt Draft
  | [], draft => .ok draft
  | c :: cs, draft =>
    match (switches.find? (·.short == some c)).map Switch.action with
    | none => .error (.usage (.unexpectedArgument (String.ofList ['-', c])))
    | some (.take slot) =>
      match cs with
      | [] => draft.await slot
      | '=' :: cs => draft.attach slot (String.ofList cs)
      | cs => draft.attach slot (String.ofList cs)
    | some (.set flag) => do applyShorts switches cs (← draft.raise flag)
    | some .showHelp => do
      let _ ← draft.settle
      throw .help
    | some .showVersion => do
      let _ ← draft.settle
      throw .version

end Switch

/-- The shape of a word. -/
inductive Word where
  /-- `--`: only plain words follow. -/
  | endOfOptions
  | long (name : String) (value : Option String)
  | shorts (letters : List Char)
  | plain
deriving DecidableEq, Repr

def Word.ofString (word : String) : Word :=
  match word.toList with
  | ['-', '-'] => endOfOptions
  | '-' :: '-' :: cs =>
    let name := String.ofList (cs.takeWhile (· != '='))
    match cs.dropWhile (· != '=') with
    | [] => long name none
    | _ :: value => long name (some (String.ofList value))
  | '-' :: c :: cs => shorts (c :: cs)
  | _ => plain

inductive Command where
  | segments
  | disasm
  | hex
  | prompt
  | stats
deriving DecidableEq, Repr

namespace Command

def all : List Command :=
  [segments, disasm, hex, prompt, stats]

def name : Command → String
  | segments => "segments"
  | disasm => "disasm"
  | hex => "hex"
  | prompt => "prompt"
  | stats => "stats"

def ofName? (word : String) : Option Command :=
  all.find? (·.name == word)

/-- The options behind the command. -/
def switches : Command → List Switch
  | segments => [.json, .config, .help]
  | disasm => [.segment, .bytes, .json, .config, .help]
  | hex => [.segment, .width, .config, .help]
  | prompt => [.segment, .limit, .config, .help]
  | stats => [.segment, .json, .config, .help]

/-- The words behind the command. -/
def arguments (command : Command) (isPlain : Bool) (draft : Draft) :
    List String → Except Halt Draft
  | [] => draft.settle
  | word :: words =>
    if isPlain then do command.arguments true (← draft.position word) words
    else
      match Word.ofString word with
      | .endOfOptions => command.arguments true draft words
      | .long name value => do
        command.arguments false (← Switch.applyLong command.switches name value draft) words
      | .shorts letters => do
        command.arguments false (← Switch.applyShorts command.switches letters draft) words
      | .plain =>
        match draft.awaited? with
        | some slot =>
          command.arguments false { draft with pending := some (slot, some word) } words
        | none => do command.arguments false (← draft.position word) words

/-- The task that the arguments spell out. -/
def task (command : Command) (draft : Draft) : Task :=
  let segment := draft.segment.getD 0
  match command with
  | segments => .segments draft.json
  | disasm => .disassembly segment draft.bytes draft.json
  | hex => .hexDump segment draft.width
  | prompt => .excerpt segment draft.limit
  | stats => .tally segment draft.json

/-- The command and the words behind it. -/
def invocation (command : Command) (words : List String) : Except Halt Invocation := do
  let draft ← command.arguments false {} words
  match draft.file with
  | none => throw (.usage .noFile)
  | some file => return ⟨draft.config, file, command.task draft⟩

end Command

/-- The name of the command that describes the others. -/
def helpCommand : String := "help"

/-- The words behind the command `help`: the name of a command, or none. -/
def helpOn : List String → Halt
  | [] => .help
  | word :: words =>
    if word ≠ helpCommand ∧ (Command.ofName? word).isNone then .usage (.unknownCommand word)
    else
      match words with
      | [] => .help
      | word :: _ => .usage (.unknownCommand word)

/-- All words, up to the command and behind it. The settings behind the command win. -/
def words (isPlain : Bool) (draft : Draft) : List String → Except Halt Invocation
  | [] => do
    let draft ← draft.settle
    throw (.usage (if draft.config.isNone then .noArguments else .noCommand))
  | word :: rest =>
    let isCommand := word = helpCommand || (Command.ofName? word).isSome
    if isPlain then
      throw (.usage (if isCommand then .unexpectedArgument word else .unknownCommand word))
    else
      match Word.ofString word with
      | .endOfOptions => words true draft rest
      | .long name value => do words false (← Switch.applyLong Switch.global name value draft) rest
      | .shorts letters => do words false (← Switch.applyShorts Switch.global letters draft) rest
      | .plain =>
        match draft.awaited? with
        | some slot => words false { draft with pending := some (slot, some word) } rest
        | none =>
          if word = helpCommand then throw (helpOn rest)
          else
            match Command.ofName? word with
            | none => throw (.usage (.unknownCommand word))
            | some command => do
              let invocation ← command.invocation rest
              let draft ← draft.settle
              return { invocation with settings := invocation.settings <|> draft.config }

/-- What a command line asks for. -/
def parse (args : List String) : Except UsageError Request :=
  match words false {} args with
  | .ok invocation => .ok (.perform invocation)
  | .error .help => .ok .help
  | .error .version => .ok .version
  | .error (.usage error) => .error error

end Atari6502.CommandLine
