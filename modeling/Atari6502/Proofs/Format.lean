import Atari6502.Proofs.Grammar
import Atari6502.Settings.Format
import Mathlib.Data.List.Forall2

/-! What is expected of a format of documents, whatever decodes it. -/
namespace Atari6502.Settings

open Grammar

/-- The value of a field of which `values` are written: at most one, and that not refused. -/
def single {α : Type} (missing : α) : List (Option α) → Option α
  | [] => some missing
  | [value?] => value?
  | _ => none

/-- What the members of an object make of a structure, or `none` if it is refused. `ReadsValue` says
this of the values. -/
inductive Fields.Reads {Decoder : Type → Type}
    (ReadsValue : ∀ ⦃α : Type⦄, Decoder α → String → Option α → Prop) (members : List Member) :
    {σ : Type} → Fields Decoder σ → Option σ → Prop where
  | build {σ : Type} (make : σ) : Reads ReadsValue members (.build make) (some make)
  | field {α σ : Type} {fields : Fields Decoder (α → σ)} {name : String} {decoder : Decoder α}
      {missing : α} {make? : Option (α → σ)} {values : List (Option α)}
      (hfields : Reads ReadsValue members fields make?)
      (hvalues : List.Forall₂ (fun m value? => ReadsValue decoder m.value value?)
        (members.filter fun m => m.key = name) values) :
      Reads ReadsValue members (.field fields name decoder missing)
        (make? <*> single missing values)

/-- What is expected of a format: `Reads` says what its decoders make of a text in a document, and
`none` that they refuse it. -/
structure Format.Lawful (format : Format)
    (Reads : ∀ ⦃α : Type⦄, format.Decoder α → String → Option α → Prop) : Prop where
  reads_word (n : Nat) :
    Reads format.word (toString n) (if n ≤ 0xFFFF then some (UInt16.ofNat n) else none)
  reads_size (n : Nat) :
    Reads format.size (toString n) (if n ≤ 0xFFFFFFFFFFFFFFFF then some n else none)
  reads_bool (b : Bool) : Reads format.bool (toString b) (some b)
  /-- Members that are not fields are passed over, with any values. -/
  reads_struct {σ : Type} (name : String) {fields : Fields format.Decoder σ}
    {members : List Member} {text : String} {result : Option σ} (hnodup : fields.names.Nodup)
    (hplain : ∀ name ∈ fields.names, ∀ c ∈ name.toList, IsPlain c)
    (htext : Enclosed "\x7b" "\x7d" Member.text members text)
    (hothers : ∀ m ∈ members, m.key ∉ fields.names → m.IsPlain)
    (hfields : fields.Reads Reads members result) : Reads (format.struct name fields) text result
  decode_of_some {α : Type} {decoder : format.Decoder α} {before text after : String} {a : α}
    (hbefore : IsBlanks before) (hafter : IsBlanks after) (h : Reads decoder text (some a)) :
    format.decode decoder (before ++ (text ++ after)) = .ok a
  decode_of_none {α : Type} {decoder : format.Decoder α} {before text after : String}
    (hbefore : IsBlanks before) (hafter : IsBlanks after) (h : Reads decoder text none) :
    ∃ fault, format.decode decoder (before ++ (text ++ after)) = .error fault

end Atari6502.Settings
