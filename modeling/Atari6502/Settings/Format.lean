import Atari6502.Address
import Atari6502.Settings.Fault

/-!
Formats of settings documents. A structure says which fields it has, how the value of each is
decoded and what stands in for one that is missing; how all of this is written is up to the format.
-/
namespace Atari6502.Settings

/-- The fields of a `σ` that is built from their values. -/
inductive Fields (Decoder : Type → Type) : Type → Type 1 where
  | build {σ : Type} (make : σ) : Fields Decoder σ
  | field {α σ : Type} (fields : Fields Decoder (α → σ)) (name : String) (decoder : Decoder α)
      (missing : α) : Fields Decoder σ

/-- The names of the fields, in the order of the structure. -/
def Fields.names {Decoder : Type → Type} : {σ : Type} → Fields Decoder σ → List String
  | _, build _ => []
  | _, field fields name _ _ => fields.names ++ [name]

/-- A format of documents, by the decoders that it has. -/
structure Format where
  Decoder : Type → Type
  /-- Whole numbers of 16 bits. -/
  word : Decoder Address
  /-- Whole numbers of 64 bits. -/
  size : Decoder Nat
  bool : Decoder Bool
  /-- Structures; messages call them by the name. -/
  struct {σ : Type} (name : String) (fields : Fields Decoder σ) : Decoder σ
  /-- Reads a whole document. -/
  decode {α : Type} (decoder : Decoder α) (document : String) : Except Fault α

end Atari6502.Settings
