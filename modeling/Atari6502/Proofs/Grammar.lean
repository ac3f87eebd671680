import Atari6502.Settings.Scan

/-! The texts of JSON values, with any blanks between tokens. They are described by their characters
alone, without regard to how a scanner passes over them. -/
namespace Atari6502.Settings.Grammar

/-- Blanks, which may stand between two tokens. -/
def IsBlanks (s : String) : Prop :=
  ∀ c ∈ s.toList, c ∈ [' ', '\t', '\n', '\r']

instance (s : String) : Decidable (IsBlanks s) :=
  List.decidableBAll _ _

/-- Decimal digits, one at least. -/
def IsDigits (s : String) : Prop :=
  s ≠ "" ∧ ∀ c ∈ s.toList, c.isDigit = true

instance (s : String) : Decidable (IsDigits s) :=
  @instDecidableAnd _ _ _ (List.decidableBAll _ _)

/-- The digits before the point: no zero stands before another digit. -/
inductive IsWhole : String → Prop where
  | zero : IsWhole "0"
  | digits {s : String} (h : IsDigits s) (hfirst : s.toList.head? ≠ some '0') : IsWhole s

inductive IsFraction : String → Prop where
  | absent : IsFraction ""
  | digits {s : String} (h : IsDigits s) : IsFraction ("." ++ s)

inductive IsExponent : String → Prop where
  | absent : IsExponent ""
  | digits {letter sign s : String} (hletter : letter ∈ ["e", "E"]) (hsign : sign ∈ ["", "+", "-"])
      (h : IsDigits s) : IsExponent (letter ++ (sign ++ s))

/-- A number of any size and with any number of places. -/
inductive IsNumber : String → Prop where
  | parts {sign whole fraction exponent : String} (hsign : sign ∈ ["", "-"])
      (hwhole : IsWhole whole) (hfraction : IsFraction fraction) (hexponent : IsExponent exponent) :
      IsNumber (sign ++ (whole ++ (fraction ++ exponent)))

/-- A character that stands for itself in a string. -/
def IsPlain (c : Char) : Prop :=
  0x20 ≤ c.toNat ∧ c ≠ '"' ∧ c ≠ '\\'

instance (c : Char) : Decidable (IsPlain c) :=
  inferInstanceAs (Decidable (_ ∧ _))

def IsHexDigit (c : Char) : Prop :=
  c.isDigit = true ∨ 'A' ≤ c ∧ c ≤ 'F' ∨ 'a' ≤ c ∧ c ≤ 'f'

/-- What stands between the quotes of a string. Numeric escapes need not come in pairs. -/
inductive IsContent : String → Prop where
  | empty : IsContent ""
  | plain {c : Char} {s : String} (hc : IsPlain c) (h : IsContent s) :
      IsContent (String.singleton c ++ s)
  | escape {c : Char} {s : String} (hc : c ∈ ['"', '\\', '/', 'b', 'f', 'n', 'r', 't'])
      (h : IsContent s) : IsContent ("\\" ++ (String.singleton c ++ s))
  | numeric {c₁ c₂ c₃ c₄ : Char} {s : String} (h₁ : IsHexDigit c₁) (h₂ : IsHexDigit c₂)
      (h₃ : IsHexDigit c₃) (h₄ : IsHexDigit c₄) (h : IsContent s) :
      IsContent ("\\u" ++ (String.ofList [c₁, c₂, c₃, c₄] ++ s))

section Brackets

variable {α : Type}

/-- Parts with blanks around each and a comma between two. -/
inductive Separated (text : α → String) : List α → String → Prop where
  | single {part : α} {before after : String} (hbefore : IsBlanks before)
      (hafter : IsBlanks after) : Separated text [part] (before ++ (text part ++ after))
  | cons {part : α} {parts : List α} {before after s : String} (hbefore : IsBlanks before)
      (hafter : IsBlanks after) (h : Separated text parts s) :
      Separated text (part :: parts) (before ++ (text part ++ (after ++ ("," ++ s))))

/-- Brackets around blanks, or around parts. -/
inductive Enclosed (opening closing : String) (text : α → String) : List α → String → Prop where
  | empty {blanks : String} (h : IsBlanks blanks) :
      Enclosed opening closing text [] (opening ++ (blanks ++ closing))
  | parts {parts : List α} {s : String} (h : Separated text parts s) :
      Enclosed opening closing text parts (opening ++ (s ++ closing))

/-- The blanks in front can be left out. -/
theorem Separated.exists_first {text : α → String} {parts : List α} {s : String}
    (h : Separated text parts s) :
    ∃ before part behind, IsBlanks before ∧ part ∈ parts ∧ s = before ++ (text part ++ behind) ∧
      Separated text parts (text part ++ behind) := by
  have hnone : IsBlanks "" := by decide
  cases h with
  | @single part before after hbefore hafter =>
    refine ⟨before, part, after, hbefore, List.mem_cons_self, rfl, ?_⟩
    rw [← String.empty_append (s := text part ++ after)]
    exact .single hnone hafter
  | @cons part parts before after s hbefore hafter h =>
    refine ⟨before, part, after ++ ("," ++ s), hbefore, List.mem_cons_self, rfl, ?_⟩
    rw [← String.empty_append (s := text part ++ _)]
    exact .cons hnone hafter h

end Brackets

/-- A member of an object, as it is written. -/
structure Member where
  key : String
  value : String
  beforeColon : String := ""
  afterColon : String := ""
  isBlanks_beforeColon : IsBlanks beforeColon := by decide
  isBlanks_afterColon : IsBlanks afterColon := by decide

def Member.text (m : Member) : String :=
  "\"" ++ (m.key ++ ("\"" ++ (m.beforeColon ++ (":" ++ (m.afterColon ++ m.value)))))

/-- A JSON value of any kind and depth. -/
inductive IsValue : String → Prop where
  | word {s : String} (h : s ∈ ["null", "true", "false"]) : IsValue s
  | number {s : String} (h : IsNumber s) : IsValue s
  | text {s : String} (h : IsContent s) : IsValue ("\"" ++ (s ++ "\""))
  | list {items : List String} {s : String} (h : Enclosed "[" "]" id items s)
      (hitems : ∀ item ∈ items, IsValue item) : IsValue s
  | object {members : List Member} {s : String}
      (h : Enclosed "\x7b" "\x7d" Member.text members s)
      (hkeys : ∀ m ∈ members, IsContent m.key) (hvalues : ∀ m ∈ members, IsValue m.value) :
      IsValue s

/-- The key is without escapes, and the value any at all. -/
def Member.IsPlain (m : Member) : Prop :=
  (∀ c ∈ m.key.toList, Grammar.IsPlain c) ∧ IsValue m.value

section Objects

variable {α : Type}

/-- The members write the fields of a list, in its order. Any others between them have keys that are
not among the names, without escapes, and any values. -/
inductive Lists (names : List String) (Writes : Member → α → Prop) :
    List Member → List α → Prop where
  | nil : Lists names Writes [] []
  | field {m : Member} {members : List Member} {a : α} {fields : List α} (h : Writes m a)
      (hmembers : Lists names Writes members fields) :
      Lists names Writes (m :: members) (a :: fields)
  | other {m : Member} {members : List Member} {fields : List α}
      (hplain : ∀ c ∈ m.key.toList, IsPlain c) (hkey : m.key ∉ names) (hvalue : IsValue m.value)
      (hmembers : Lists names Writes members fields) : Lists names Writes (m :: members) fields

/-- An object that writes the fields of a list. -/
def IsObject (names : List String) (Writes : Member → α → Prop) (fields : List α) (s : String) :
    Prop :=
  ∃ members, Lists names Writes members fields ∧
    Enclosed "\x7b" "\x7d" Member.text members s

theorem Lists.exists_writes {names : List String} {Writes : Member → α → Prop}
    {members : List Member} {fields : List α} (h : Lists names Writes members fields) :
    ∀ a ∈ fields, ∃ m, Writes m a := by
  induction h with
  | nil => exact fun _ ha => nomatch ha
  | field h _ ih =>
    intro a ha
    rcases List.mem_cons.mp ha with rfl | ha
    · exact ⟨_, h⟩
    · exact ih a ha
  | other _ _ _ _ ih => exact ih

theorem Lists.isPlain_of_not_mem {names : List String} {Writes : Member → α → Prop}
    {members : List Member} {fields : List α} (h : Lists names Writes members fields)
    (hwrites : ∀ {m a}, Writes m a → m.key ∈ names) :
    ∀ m ∈ members, m.key ∉ names → m.IsPlain := by
  induction h with
  | nil => exact fun _ hm => nomatch hm
  | field h _ ih =>
    intro m hm hkey
    rcases List.mem_cons.mp hm with rfl | hm
    · exact absurd (hwrites h) hkey
    · exact ih m hm hkey
  | other hplain _ hvalue _ ih =>
    intro m hm hkey
    rcases List.mem_cons.mp hm with rfl | hm
    · exact ⟨hplain, hvalue⟩
    · exact ih m hm hkey

end Objects

end Atari6502.Settings.Grammar
