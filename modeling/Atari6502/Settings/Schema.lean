import Atari6502.Settings.Format
import Atari6502.Settings.Scan.Skip

/-!
JSON documents as a format. A reader turns the bytes that are not yet read into a value and what it
leaves of them.
-/
namespace Atari6502.Settings

/-- A reader never puts bytes back. -/
structure Reader (α : Type) where
  run : Bytes → Except Stop (α × Bytes)
  length_le : ∀ {s r : Bytes} {a : α}, run s = .ok (a, r) → r.length ≤ s.length

namespace Reader

/-- The fault of a value that starts `s` and is not what is expected. -/
def wrongKind (expected : String) : Bytes → Stop
  | [] => .behind .endInValue []
  | b :: s =>
    let found (value : Found) (r : Bytes) : Stop := .before (.wrongKind value expected) r
    let literal (letters : String) (value : Found) : Stop :=
      match Scan.word (Bytes.ofString letters) s with
      | .error stop => stop
      | .ok r => found value r
    if b = Ascii.lowerN then literal "ull" .null
    else if b = Ascii.lowerT then literal "rue" (.bool true)
    else if b = Ascii.lowerF then literal "alse" (.bool false)
    else if b = Ascii.minus ∨ Ascii.isDigit b then
      match Scan.number (b :: s) with
      | .error stop => stop
      | .ok (n, r) => found n.found r
    else if b = Ascii.quote then
      match Scan.text s with
      | .error stop => stop
      | .ok (text, r) => found (.text (text.toString?.getD "")) r
    else if b = Ascii.openList then found .sequence (b :: s)
    else if b = Ascii.openObject then found .map (b :: s)
    else .behind .expectedValue (b :: s)

/-- A whole number from zero to `largest`. -/
def takeNatural (expected : String) (largest : Nat) (s : Bytes) : Except Stop (Nat × Bytes) :=
  match Scan.skipBlanks s with
  | [] => .error (.behind .endInValue [])
  | b :: r =>
    if b = Ascii.minus ∨ Ascii.isDigit b then
      match Scan.number (b :: r) with
      | .error stop => .error stop
      | .ok (.natural n, t) =>
        if n ≤ largest then .ok (n, t) else .error (.before (.outOfRange n expected) t)
      | .ok (.negative n, t) => .error (.before (.outOfRange (-n) expected) t)
      | .ok (.real x, t) => .error (.before (.wrongKind (.real x) expected) t)
    else .error (wrongKind expected (b :: r))

/-- `true` or `false`. -/
def takeBool (s : Bytes) : Except Stop (Bool × Bytes) :=
  match Scan.skipBlanks s with
  | [] => .error (.behind .endInValue [])
  | b :: r =>
    if b = Ascii.lowerT then do return (true, ← Scan.word (Bytes.ofString "rue") r)
    else if b = Ascii.lowerF then do return (false, ← Scan.word (Bytes.ofString "alse") r)
    else .error (wrongKind "a boolean" (b :: r))

theorem length_takeNatural_le {expected : String} {largest n : Nat} {s r : Bytes}
    (h : takeNatural expected largest s = .ok (n, r)) : r.length ≤ s.length := by
  unfold takeNatural at h
  cases hblanks : Scan.skipBlanks s with
  | nil =>
    rw [hblanks] at h
    cases h
  | cons b t =>
    have hle := Scan.length_skipBlanks_le s
    rw [hblanks] at h hle
    dsimp only at h
    split at h
    · split at h
      · cases h
      · rename_i hnumber
        have hlt := Scan.length_number_lt hnumber
        split at h
        · cases h
          omega
        · cases h
      · cases h
      · cases h
    · cases h

theorem length_takeBool_le {b : Bool} {s r : Bytes} (h : takeBool s = .ok (b, r)) :
    r.length ≤ s.length := by
  unfold takeBool at h
  cases hblanks : Scan.skipBlanks s with
  | nil =>
    rw [hblanks] at h
    cases h
  | cons first t =>
    have hlt := Scan.length_lt_of_skipBlanks hblanks
    rw [hblanks] at h
    dsimp only at h
    split at h
    · obtain ⟨rest, hword, hpure⟩ := Scan.exists_of_bind_eq_ok h
      cases hpure
      exact Nat.le_of_lt (Nat.lt_of_le_of_lt (Scan.length_word_le hword) hlt)
    split at h
    · obtain ⟨rest, hword, hpure⟩ := Scan.exists_of_bind_eq_ok h
      cases hpure
      exact Nat.le_of_lt (Nat.lt_of_le_of_lt (Scan.length_word_le hword) hlt)
    · cases h

/-- Reads a whole number from zero to `largest`, which messages call `expected`. -/
def natural (expected : String) (largest : Nat) : Reader Nat :=
  ⟨takeNatural expected largest, length_takeNatural_le⟩

/-- Reads `true` or `false`. -/
def bool : Reader Bool :=
  ⟨takeBool, length_takeBool_le⟩

section map
variable {α β : Type}

/-- What the reader takes, changed by `f`. -/
def takeMap (f : α → β) (reader : Reader α) (s : Bytes) : Except Stop (β × Bytes) := do
  let (a, s) ← reader.run s
  return (f a, s)

theorem length_takeMap_le {f : α → β} {reader : Reader α} {s r : Bytes} {b : β}
    (h : takeMap f reader s = .ok (b, r)) : r.length ≤ s.length := by
  obtain ⟨⟨a, t⟩, hrun, hpure⟩ := Scan.exists_of_bind_eq_ok h
  cases hpure
  exact reader.length_le hrun

def map (f : α → β) (reader : Reader α) : Reader β :=
  ⟨takeMap f reader, length_takeMap_le⟩

end map

end Reader

namespace Fields

/-! Objects. The value of a field stands in its slot once it is read. -/

/-- A place for the value of each field. -/
def Slots : {σ : Type} → Fields Reader σ → Type
  | _, build _ => Unit
  | _, @field _ α _ fields _ _ _ => fields.Slots × Option α

def empty : {σ : Type} → (fields : Fields Reader σ) → fields.Slots
  | _, build _ => ()
  | _, field fields _ _ _ => (fields.empty, none)

/-- The structure with the values that are read. -/
def complete : {σ : Type} → (fields : Fields Reader σ) → fields.Slots → σ
  | _, build make => fun _ => make
  | _, field fields _ _ missing => fun (slots, slot) =>
    fields.complete slots (slot.getD missing)

/-- What follows in an object: a key, behind its quote, or the end. -/
inductive Next where
  | key (rest : Bytes)
  | done (rest : Bytes)

/-- Takes what stands before the next key, or before the first. -/
def nextKey (isFirst : Bool) (s : Bytes) : Except Stop Next :=
  match Scan.skipBlanks s with
  | [] => .error (.behind .endInObject [])
  | b :: r =>
    if b = Ascii.closeObject then .ok (.done r)
    else if isFirst then
      if b = Ascii.quote then .ok (.key r) else .error (.behind .keyNotString (b :: r))
    else if b = Ascii.comma then
      match Scan.skipBlanks r with
      | [] => .error (.behind .endInValue [])
      | c :: t =>
        if c = Ascii.quote then .ok (.key t)
        else if c = Ascii.closeObject then .error (.behind .trailingComma (c :: t))
        else .error (.behind .keyNotString (c :: t))
    else .error (.behind .expectedCommaOrObjectEnd (b :: r))

/-- The fault of a key that comes a second time; it is placed behind a brace that follows. -/
def repeated (name : String) (s : Bytes) : Stop :=
  match Scan.skipBlanks s with
  | [] => .before (.duplicate name) []
  | b :: r => .before (.duplicate name) (if b = Ascii.closeObject then r else b :: r)

/-- The value of a field, which its key is followed by. The slot must be empty. -/
def fieldValue {α : Type} (name : String) (reader : Reader α) (slot : Option α) (s : Bytes) :
    Except Stop (α × Bytes) :=
  match slot with
  | some _ => .error (repeated name s)
  | none => do reader.run (← Scan.takeColon s)

/-- Puts the value of a key into the slot of its field, if there is one. -/
def take? (key : Bytes) : {σ : Type} → (fields : Fields Reader σ) → fields.Slots → Bytes →
    Option (Except Stop (fields.Slots × Bytes))
  | _, build _ => fun _ _ => none
  | _, field fields name reader _ => fun (slots, slot) s =>
    if Bytes.ofString name = key then
      some do
        let (value, s) ← fieldValue name reader slot s
        return ((slots, some value), s)
    else
      (fields.take? key slots s).map fun taken => do
        let (slots, s) ← taken
        return ((slots, slot), s)

variable {σ : Type}

/-- The value of a key. A key without a field has any value. -/
def member (fields : Fields Reader σ) (slots : fields.Slots) (key s : Bytes) :
    Except Stop (fields.Slots × Bytes) :=
  (fields.take? key slots s).getD do
    let s ← Scan.takeColon s
    return (slots, ← Scan.skipValue s)

/-- What is left behind a key or behind the end. -/
def Next.rest : Next → Bytes
  | key rest | done rest => rest

theorem length_nextKey_lt {isFirst : Bool} {s : Bytes} {next : Next}
    (h : nextKey isFirst s = .ok next) : next.rest.length < s.length := by
  unfold nextKey at h
  cases hblanks : Scan.skipBlanks s with
  | nil =>
    rw [hblanks] at h
    cases h
  | cons b r =>
    have hlt := Scan.length_lt_of_skipBlanks hblanks
    rw [hblanks] at h
    dsimp only at h
    split at h
    · cases h
      exact hlt
    split at h
    · split at h
      · cases h
        exact hlt
      · cases h
    split at h
    · cases hinner : Scan.skipBlanks r with
      | nil =>
        rw [hinner] at h
        cases h
      | cons c t =>
        have hinner' := Scan.length_lt_of_skipBlanks hinner
        rw [hinner] at h
        dsimp only at h
        split at h
        · cases h
          exact Nat.lt_trans hinner' hlt
        split at h
        · cases h
        · cases h
    · cases h

theorem length_fieldValue_le {α : Type} {name : String} {reader : Reader α} {slot : Option α}
    {s r : Bytes} {a : α} (h : fieldValue name reader slot s = .ok (a, r)) :
    r.length ≤ s.length := by
  cases slot with
  | some _ => cases h
  | none =>
    obtain ⟨t, hcolon, hrun⟩ := Scan.exists_of_bind_eq_ok h
    have hlt := Scan.length_takeColon_lt hcolon
    have hle := reader.length_le hrun
    omega

section take?
variable {α : Type} {name : String} {key : Bytes} {fields : Fields Reader (α → σ)}
  {reader : Reader α} {missing : α}

theorem take?_of_eq (h : Bytes.ofString name = key) (slots : fields.Slots) (slot : Option α)
    (s : Bytes) :
    take? key (field fields name reader missing) (slots, slot) s =
      some (fieldValue name reader slot s >>= fun found =>
        pure ((slots, some found.1), found.2)) :=
  if_pos h

theorem take?_of_ne (h : Bytes.ofString name ≠ key) (slots : fields.Slots) (slot : Option α)
    (s : Bytes) :
    take? key (field fields name reader missing) (slots, slot) s =
      (fields.take? key slots s).map fun taken => taken >>= fun found =>
        pure ((found.1, slot), found.2) :=
  if_neg h

end take?

theorem length_take?_le {key s r : Bytes} {fields : Fields Reader σ} {slots slots' : fields.Slots}
    (h : fields.take? key slots s = some (.ok (slots', r))) : r.length ≤ s.length := by
  induction fields with
  | build make => cases h
  | field fields name reader missing ih =>
    obtain ⟨slots, slot⟩ := slots
    by_cases hname : Bytes.ofString name = key
    · rw [take?_of_eq hname] at h
      obtain ⟨⟨a, t⟩, hvalue, hpure⟩ := Scan.exists_of_bind_eq_ok (Option.some.inj h)
      cases hpure
      exact length_fieldValue_le hvalue
    · rw [take?_of_ne hname] at h
      obtain ⟨taken, htaken, hmap⟩ := Option.map_eq_some_iff.mp h
      obtain ⟨⟨slots', t⟩, rfl, hpure⟩ := Scan.exists_of_bind_eq_ok hmap
      cases hpure
      exact ih htaken

theorem length_member_le {fields : Fields Reader σ} {slots slots' : fields.Slots} {key s r : Bytes}
    (h : fields.member slots key s = .ok (slots', r)) : r.length ≤ s.length := by
  unfold member at h
  cases htake : fields.take? key slots s with
  | some taken =>
    rw [htake] at h
    exact length_take?_le (htake.trans (congrArg some h))
  | none =>
    rw [htake] at h
    obtain ⟨t, hcolon, hskip⟩ := Scan.exists_of_bind_eq_ok h
    obtain ⟨u, hskip, hpure⟩ := Scan.exists_of_bind_eq_ok hskip
    cases hpure
    have hlt := Scan.length_takeColon_lt hcolon
    have hle := Scan.length_skipValue_le hskip
    omega

/-- The members of an object, behind its brace. -/
def members (fields : Fields Reader σ) (slots : fields.Slots) (isFirst : Bool) (s : Bytes) :
    Except Stop (σ × Bytes) :=
  match _hk : nextKey isFirst s with
  | .error stop => .error stop
  | .ok (.done r) => .ok (fields.complete slots, r)
  | .ok (.key r) =>
    match _ht : Scan.text r with
    | .error stop => .error stop
    | .ok (key, t) =>
      match _hm : fields.member slots key t with
      | .error stop => .error stop
      | .ok (slots, u) => members fields slots false u
termination_by s.length
decreasing_by
  have h₁ : r.length < s.length := length_nextKey_lt _hk
  have h₂ := Scan.length_text_lt _ht
  have h₃ := length_member_le _hm
  omega

theorem length_members_le {fields : Fields Reader σ} {slots : fields.Slots} {isFirst : Bool}
    {s r : Bytes} {value : σ} (h : fields.members slots isFirst s = .ok (value, r)) :
    r.length ≤ s.length := by
  fun_induction members fields slots isFirst s with
  | case1 => cases h
  | case2 slots isFirst s r hkey =>
    cases h
    exact Nat.le_of_lt (length_nextKey_lt hkey)
  | case3 => cases h
  | case4 => cases h
  | case5 slots isFirst s r hkey key t htext slots' u hmember ih =>
    have h₁ : r.length < s.length := length_nextKey_lt hkey
    have h₂ := Scan.length_text_lt htext
    have h₃ := length_member_le hmember
    have h₄ := ih h
    omega

/-! Lists, which have the values of the fields in order. -/

/-- What follows in a list: an item, or the end. -/
inductive NextItem where
  | item (rest : Bytes)
  | done (rest : Bytes)

/-- Takes what stands before the next item, or before the first. -/
def nextItem (isFirst : Bool) (s : Bytes) : Except Stop NextItem :=
  match Scan.skipBlanks s with
  | [] => .error (.behind .endInList [])
  | b :: r =>
    if b = Ascii.closeList then .ok (.done r)
    else if isFirst then .ok (.item (b :: r))
    else if b = Ascii.comma then
      match Scan.skipBlanks r with
      | [] => .error (.behind .endInValue [])
      | c :: t =>
        if c = Ascii.closeList then .error (.behind .trailingComma (c :: t))
        else .ok (.item (c :: t))
    else .error (.behind .expectedCommaOrListEnd (b :: r))

/-- How far a list is read. -/
inductive Progress where
  | started (rest : Bytes)
  | behindItem (rest : Bytes)
  | done (rest : Bytes)

/-- Goes on to the next item. -/
def Progress.next : Progress → Except Stop NextItem
  | started s => nextItem true s
  | behindItem s => nextItem false s
  | done s => .ok (.done s)

/-- The items of a list, behind its bracket. The last ones may be missing. -/
def items : {σ : Type} → Fields Reader σ → Bytes → Except Stop (σ × Progress)
  | _, build make, s => .ok (make, .started s)
  | _, field fields _ reader missing, s => do
    let (make, progress) ← fields.items s
    match ← progress.next with
    | .item s => do
      let (value, s) ← reader.run s
      return (make value, .behindItem s)
    | .done s => return (make missing, .done s)

/-- The end of a list that has as many items as there are fields. -/
def listEnd (s : Bytes) : Except Stop Bytes :=
  match Scan.skipBlanks s with
  | [] => .error (.behind .endInList [])
  | b :: r =>
    if b = Ascii.closeList then .ok r
    else if b = Ascii.comma then
      match Scan.skipBlanks r with
      | [] => .error (.behind .trailingCharacters [])
      | c :: t =>
        .error (.behind (if c = Ascii.closeList then .trailingComma else .trailingCharacters)
          (c :: t))
    else .error (.behind .trailingCharacters (b :: r))

def list (fields : Fields Reader σ) (s : Bytes) : Except Stop (σ × Bytes) := do
  let (value, progress) ← fields.items s
  match progress with
  | .started s | .behindItem s => return (value, ← listEnd s)
  | .done s => return (value, s)

def NextItem.rest : NextItem → Bytes
  | item rest | done rest => rest

def Progress.rest : Progress → Bytes
  | started rest | behindItem rest | done rest => rest

theorem length_nextItem_le {isFirst : Bool} {s : Bytes} {next : NextItem}
    (h : nextItem isFirst s = .ok next) : next.rest.length ≤ s.length := by
  unfold nextItem at h
  cases hblanks : Scan.skipBlanks s with
  | nil =>
    rw [hblanks] at h
    cases h
  | cons b r =>
    have hlt : (b :: r).length ≤ s.length := hblanks ▸ Scan.length_skipBlanks_le s
    rw [hblanks] at h
    dsimp only at h
    split at h
    · cases h
      exact Nat.le_of_lt hlt
    split at h
    · cases h
      exact hlt
    split at h
    · cases hinner : Scan.skipBlanks r with
      | nil =>
        rw [hinner] at h
        cases h
      | cons c t =>
        have hinner' := Scan.length_lt_of_skipBlanks hinner
        rw [hinner] at h
        dsimp only at h
        split at h
        · cases h
        · cases h
          exact Nat.le_trans hinner' (Nat.le_of_lt hlt)
    · cases h

theorem Progress.length_next_le {progress : Progress} {next : NextItem}
    (h : progress.next = .ok next) : next.rest.length ≤ progress.rest.length := by
  cases progress with
  | started s => exact length_nextItem_le h
  | behindItem s => exact length_nextItem_le h
  | done s =>
    cases h
    exact Nat.le_refl _

theorem length_items_le {fields : Fields Reader σ} {s : Bytes} {value : σ} {progress : Progress}
    (h : fields.items s = .ok (value, progress)) : progress.rest.length ≤ s.length := by
  induction fields generalizing progress with
  | build make =>
    cases h
    exact Nat.le_refl _
  | field fields name reader missing ih =>
    obtain ⟨⟨make, before⟩, hbefore, h⟩ := Scan.exists_of_bind_eq_ok h
    obtain ⟨next, hnext, h⟩ := Scan.exists_of_bind_eq_ok h
    have hle : next.rest.length ≤ s.length :=
      Nat.le_trans (Progress.length_next_le hnext) (ih hbefore)
    cases next with
    | item t =>
      obtain ⟨⟨a, u⟩, hrun, hpure⟩ := Scan.exists_of_bind_eq_ok h
      cases hpure
      exact Nat.le_trans (reader.length_le hrun) hle
    | done t =>
      cases h
      exact hle

theorem length_listEnd_le {s r : Bytes} (h : listEnd s = .ok r) : r.length ≤ s.length := by
  unfold listEnd at h
  cases hblanks : Scan.skipBlanks s with
  | nil =>
    rw [hblanks] at h
    cases h
  | cons b t =>
    rw [hblanks] at h
    dsimp only at h
    split at h
    · cases h
      exact Nat.le_of_lt (Scan.length_lt_of_skipBlanks hblanks)
    split at h
    · split at h <;> cases h
    · cases h

theorem length_list_le {fields : Fields Reader σ} {s r : Bytes} {value : σ}
    (h : fields.list s = .ok (value, r)) : r.length ≤ s.length := by
  obtain ⟨⟨a, progress⟩, hitems, h⟩ := Scan.exists_of_bind_eq_ok h
  have hle := length_items_le hitems
  have hend : ∀ {t : Bytes}, t.length ≤ s.length →
      (do return (a, ← listEnd t)) = Except.ok (value, r) → r.length ≤ s.length := by
    intro t ht h
    obtain ⟨u, hlistEnd, hpure⟩ := Scan.exists_of_bind_eq_ok h
    cases hpure
    exact Nat.le_trans (length_listEnd_le hlistEnd) ht
  cases progress with
  | started t => exact hend hle h
  | behindItem t => exact hend hle h
  | done t =>
    cases h
    exact hle

end Fields

namespace Reader

variable {α σ : Type}

/-- A structure, written as an object or as a list of its fields. -/
def takeStruct (name : String) (fields : Fields Reader σ) (s : Bytes) : Except Stop (σ × Bytes) :=
  match Scan.skipBlanks s with
  | [] => .error (.behind .endInValue [])
  | b :: r =>
    if b = Ascii.openObject then fields.members fields.empty true r
    else if b = Ascii.openList then fields.list r
    else .error (wrongKind ("struct " ++ name) (b :: r))

theorem length_takeStruct_le {name : String} {fields : Fields Reader σ} {value : σ} {s r : Bytes}
    (h : takeStruct name fields s = .ok (value, r)) : r.length ≤ s.length := by
  unfold takeStruct at h
  cases hblanks : Scan.skipBlanks s with
  | nil =>
    rw [hblanks] at h
    cases h
  | cons b t =>
    have hlt := Scan.length_lt_of_skipBlanks hblanks
    rw [hblanks] at h
    dsimp only at h
    split at h
    · exact Nat.le_of_lt (Nat.lt_of_le_of_lt (Fields.length_members_le h) hlt)
    split at h
    · exact Nat.le_of_lt (Nat.lt_of_le_of_lt (Fields.length_list_le h) hlt)
    · cases h

/-- Reads a structure, which messages call `name`. -/
def struct (name : String) (fields : Fields Reader σ) : Reader σ :=
  ⟨takeStruct name fields, length_takeStruct_le⟩

/-- Reads a whole document, behind whose value only blanks may follow. -/
def decode (reader : Reader α) (document : String) : Except Fault α :=
  let bytes := Bytes.ofString document
  let fault (stop : Stop) : Fault := .locate bytes (bytes.length - stop.unread) stop.cause
  match reader.run bytes with
  | .error stop => .error (fault stop)
  | .ok (value, rest) =>
    match Scan.skipBlanks rest with
    | [] => .ok value
    | b :: s => .error (fault (.behind .trailingCharacters (b :: s)))

end Reader

/-- JSON documents. -/
def Format.json : Format where
  Decoder := Reader
  word := (Reader.natural "u16" 0xFFFF).map UInt16.ofNat
  size := Reader.natural "usize" 0xFFFFFFFFFFFFFFFF
  bool := Reader.bool
  struct := Reader.struct
  decode := Reader.decode

end Atari6502.Settings
