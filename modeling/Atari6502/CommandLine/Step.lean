import Atari6502.Event
import Atari6502.Failure

/-! Steps of a run. What a step has logged and printed stays, also if it fails. -/
namespace Atari6502.CommandLine

/-- Why a run fails, from the outermost to the innermost reason. -/
structure Complaint where
  reasons : List String

namespace Complaint

def ofFailure (failure : Failure) : Complaint where
  reasons := failure.message :: failure.cause?.toList

/-- The complaint, with what the program was doing. -/
def within (context : String) (complaint : Complaint) : Complaint where
  reasons := context :: complaint.reasons

def message (complaint : Complaint) : String :=
  ": ".intercalate complaint.reasons

end Complaint

/-- A step of a run, with its effects. -/
structure Step (α : Type) where
  result : Except Complaint α
  events : List Event := []
  output : String := ""

namespace Step

variable {α β : Type}

instance : Monad Step where
  pure value := { result := .ok value }
  bind step next :=
    match step.result with
    | .error complaint =>
      { result := .error complaint
        events := step.events
        output := step.output }
    | .ok value =>
      let rest := next value
      { result := rest.result
        events := step.events ++ rest.events
        output := step.output ++ rest.output }

def log (event : Event) : Step Unit where
  result := .ok ()
  events := [event]

/-- Prints a text and a line feed. -/
def println (text : String) : Step Unit where
  result := .ok ()
  output := text ++ "\n"

def fail (complaint : Complaint) : Step α where
  result := .error complaint

def ofExcept (result : Except Failure α) : Step α where
  result := result.mapError .ofFailure

def ofLogged (logged : Logged α) : Step α where
  result := .ok logged.value
  events := logged.events

@[simp]
theorem result_pure (value : α) : (pure value : Step α).result = .ok value :=
  rfl

@[simp]
theorem output_pure (value : α) : (pure value : Step α).output = "" :=
  rfl

section bind
variable {step : Step α} (next : α → Step β)

/-- A step that fails is the last one. -/
theorem bind_of_error {complaint : Complaint} (h : step.result = .error complaint) :
    step >>= next =
      { result := .error complaint, events := step.events, output := step.output } := by
  cases step with
  | mk result events output =>
    cases h
    rfl

theorem bind_of_ok {value : α} (h : step.result = .ok value) :
    step >>= next =
      { result := (next value).result
        events := step.events ++ (next value).events
        output := step.output ++ (next value).output } := by
  cases step with
  | mk result events output =>
    cases h
    rfl

end bind
end Step
end Atari6502.CommandLine
