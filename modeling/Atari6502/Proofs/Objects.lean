import Atari6502.Proofs.Format
import Atari6502.Proofs.Numerals
import Atari6502.Proofs.Skipping
import Atari6502.Settings.Schema

/-! JSON is a lawful format. The members of an object may come in any order and among others, of which
nothing is kept, and it is refused exactly if a field comes twice or has a value that is refused. -/
namespace Atari6502.Settings

open Grammar Scan

/-- The outcome is `result`, or a fault if that is `none`. -/
def Gives {α : Type} (outcome : Except Stop α) : Option α → Prop
  | some a => outcome = .ok a
  | none => ∃ stop, outcome = .error stop

namespace Reader

variable {α β : Type}

/-- Wherever the text stands, it is read as `result`, or refused if that is `none`. -/
def Reads (reader : Reader α) (text : String) (result : Option α) : Prop :=
  ∀ (blanks : String) (rest : Bytes), IsBlanks blanks → Delimited rest →
    Gives (reader.run (Bytes.ofString blanks ++ (Bytes.ofString text ++ rest)))
      (result.map fun a => (a, rest))

theorem reads_map {reader : Reader α} {text : String} {result : Option α} (f : α → β)
    (h : reader.Reads text result) : (reader.map f).Reads text (result.map f) := by
  intro blanks rest hblanks hrest
  have hrun := h blanks rest hblanks hrest
  show Gives (takeMap f reader _) _
  unfold takeMap
  cases result with
  | some a =>
    rw [show reader.run _ = _ from hrun]
    rfl
  | none =>
    obtain ⟨stop, hstop⟩ := hrun
    rw [hstop]
    exact ⟨stop, rfl⟩

theorem reads_natural (expected : String) {largest : Nat} (hlargest : largest ≤ maxSignificand)
    (n : Nat) :
    (natural expected largest).Reads (toString n) (if n ≤ largest then some n else none) := by
  intro blanks rest hblanks hrest
  have hwhole := isWhole_toString n
  obtain ⟨b, t, hcons, hb⟩ := hwhole.exists_cons
  have hblank : Ascii.isBlank b = false := by
    have hbounds := Ascii.isDigit_iff_toNat.mp hb
    exact Ascii.isBlank_eq_false_of_toNat (by omega)
  have hexact := number_of_value_le hwhole hrest
  have hlarge := number_of_lt_value hwhole hrest
  rw [value_toString, hcons, List.cons_append] at hexact hlarge
  show Gives (takeNatural expected largest _) _
  rw [hcons, List.cons_append, takeNatural, skipBlanks_eq hblanks hblank]
  dsimp only
  rw [if_pos (.inr hb)]
  by_cases hn : n ≤ maxSignificand
  · rw [hexact hn]
    by_cases hle : n ≤ largest
    · rw [if_pos hle]
      exact if_pos hle
    · rw [if_neg hle]
      exact ⟨_, if_neg hle⟩
  · have hle : ¬n ≤ largest := fun hle => hn (Nat.le_trans hle hlargest)
    rw [if_neg hle]
    rcases hlarge (Nat.not_le.mp hn) with ⟨stop, hstop⟩ | ⟨x, hx⟩
    · rw [hstop]
      exact ⟨stop, rfl⟩
    · rw [hx]
      exact ⟨_, rfl⟩

theorem reads_word (n : Nat) :
    ((natural "u16" 0xFFFF).map UInt16.ofNat).Reads (toString n)
      (if n ≤ 0xFFFF then some (UInt16.ofNat n) else none) := by
  have hlargest : 0xFFFF ≤ maxSignificand := by decide
  have h := reads_map UInt16.ofNat (reads_natural "u16" hlargest n)
  rw [apply_ite (Option.map UInt16.ofNat)] at h
  exact h

theorem reads_bool (b : Bool) : bool.Reads (toString b) (some b) := by
  intro blanks rest hblanks _
  show takeBool _ = _
  cases b with
  | true =>
    show takeBool (Bytes.ofString blanks ++ Ascii.lowerT :: (Bytes.ofString "rue" ++ rest)) = _
    rw [takeBool, skipBlanks_eq hblanks rfl]
    dsimp only
    rw [if_pos rfl, word_append]
    rfl
  | false =>
    show takeBool (Bytes.ofString blanks ++ Ascii.lowerF :: (Bytes.ofString "alse" ++ rest)) = _
    rw [takeBool, skipBlanks_eq hblanks rfl]
    dsimp only
    rw [if_neg (by decide), if_pos rfl, word_append]
    rfl

end Reader

namespace Fields

/-- What stands before a key, besides blanks: a comma, unless it is the first. -/
inductive Lead : Bool → Bytes → Prop where
  | first : Lead true []
  | later {blanks : String} (h : IsBlanks blanks) :
      Lead false (Bytes.ofString blanks ++ [Ascii.comma])

theorem nextKey_key {isFirst : Bool} {lead : Bytes} (hlead : Lead isFirst lead) {blanks : String}
    (hblanks : IsBlanks blanks) (s : Bytes) :
    nextKey isFirst (lead ++ (Bytes.ofString blanks ++ Ascii.quote :: s)) = .ok (.key s) := by
  cases hlead with
  | first =>
    rw [List.nil_append, nextKey, skipBlanks_eq hblanks rfl]
    rfl
  | later h =>
    rw [List.append_assoc, List.singleton_append, nextKey, skipBlanks_eq h rfl]
    dsimp only
    rw [if_neg (by decide), if_neg (by decide), if_pos rfl, skipBlanks_eq hblanks rfl]
    rfl

theorem nextKey_done (isFirst : Bool) {blanks : String} (hblanks : IsBlanks blanks) (s : Bytes) :
    nextKey isFirst (Bytes.ofString blanks ++ Ascii.closeObject :: s) = .ok (.done s) := by
  rw [nextKey, skipBlanks_eq hblanks rfl]
  rfl

section Run

variable {α σ : Type} {fields : Fields Reader σ} {slots : fields.Slots} {result : Option σ}
  {m : Member} {written : List Member} {rest : Bytes}

theorem members_done {isFirst : Bool} {s r : Bytes} (h : nextKey isFirst s = .ok (.done r)) :
    fields.members slots isFirst s = .ok (fields.complete slots, r) := by
  rw [members]
  split
  · simp_all
  · rename_i heq
    cases h.symm.trans heq
    rfl
  · simp_all

theorem members_key {isFirst : Bool} {s r key t : Bytes}
    (hkey : nextKey isFirst s = .ok (.key r)) (htext : text r = .ok (key, t)) :
    fields.members slots isFirst s =
      (fields.member slots key t >>= fun found => fields.members found.1 false found.2) := by
  rw [members]
  split
  · simp_all
  · simp_all
  · rename_i heq
    cases hkey.symm.trans heq
    split
    · simp_all
    · rename_i heq
      cases htext.symm.trans heq
      split
      · rename_i heq
        rw [heq]
        rfl
      · rename_i heq
        rw [heq]
        rfl

/-- The value of a field with this slot, of which `values` are still to come. -/
def fill (missing : α) : Option α → List (Option α) → Option α
  | none, values => single missing values
  | some a, [] => some a
  | some _, _ :: _ => none

/-- What members make of a structure in whose slots some values stand already. -/
def ReadsFrom (members : List Member) :
    {σ : Type} → (fields : Fields Reader σ) → fields.Slots → Option σ → Prop
  | _, build make => fun _ result => result = some make
  | _, field fields name reader missing => fun (slots, slot) result =>
    ∃ make? values, ReadsFrom members fields slots make? ∧
      List.Forall₂ (fun m value? => reader.Reads m.value value?)
        (members.filter fun m => m.key = name) values ∧
      result = (make? <*> fill missing slot values)

theorem Reads.readsFrom_empty (h : fields.Reads (fun _ => Reader.Reads) written result) :
    ReadsFrom written fields fields.empty result := by
  induction h with
  | build make => rfl
  | field _ hvalues ih => exact ⟨_, _, ih, hvalues, rfl⟩

theorem ReadsFrom.eq_complete (h : ReadsFrom [] fields slots result) :
    result = some (fields.complete slots) := by
  induction fields with
  | build make => exact h
  | field fields name reader missing ih =>
    obtain ⟨slots, slot⟩ := slots
    obtain ⟨make?, values, hmake, hvalues, rfl⟩ := h
    cases hvalues
    rw [ih hmake]
    cases slot <;> rfl

/-- A member that is no field changes nothing. -/
theorem ReadsFrom.of_not_mem (h : ReadsFrom (m :: written) fields slots result)
    (hkey : m.key ∉ fields.names) : ReadsFrom written fields slots result := by
  induction fields with
  | build make => exact h
  | field fields name reader missing ih =>
    obtain ⟨slots, slot⟩ := slots
    obtain ⟨make?, values, hmake, hvalues, rfl⟩ := h
    simp only [names, List.mem_append, List.mem_singleton, not_or] at hkey
    rw [List.filter_cons_of_neg (by simpa using hkey.2)] at hvalues
    exact ⟨make?, values, ih hmake hkey.1, hvalues, rfl⟩

theorem seq_none (make? : Option (α → σ)) : (make? <*> (none : Option α)) = none := by
  cases make? <;> rfl

/-- A member is read: the others go on from the slots that it leaves, or the whole is refused. -/
def Proceeds (outcome : Except Stop (fields.Slots × Bytes)) (written : List Member) (rest : Bytes)
    (result : Option σ) : Prop :=
  (∃ slots, outcome = .ok (slots, rest) ∧ ReadsFrom written fields slots result) ∨
    (∃ stop, outcome = .error stop) ∧ result = none

/-- What follows the key of a member. -/
def behindKey (m : Member) (rest : Bytes) : Bytes :=
  Bytes.ofString m.beforeColon ++ Ascii.colon ::
    (Bytes.ofString m.afterColon ++ (Bytes.ofString m.value ++ rest))

theorem gives_fieldValue {reader : Reader α} {value? : Option α} (name : String)
    (h : reader.Reads m.value value?) (hrest : Delimited rest) :
    Gives (fieldValue name reader none (behindKey m rest)) (value?.map fun a => (a, rest)) := by
  show Gives (takeColon _ >>= reader.run) _
  rw [behindKey, takeColon_eq m.isBlanks_beforeColon]
  exact h m.afterColon rest m.isBlanks_afterColon hrest

theorem exists_take?_of_mem (hnodup : fields.names.Nodup) (hkey : m.key ∈ fields.names)
    (h : ReadsFrom (m :: written) fields slots result) (hrest : Delimited rest) :
    ∃ outcome, fields.take? (Bytes.ofString m.key) slots (behindKey m rest) = some outcome ∧
      Proceeds outcome written rest result := by
  induction fields with
  | build make => exact nomatch hkey
  | field fields name reader missing ih =>
    obtain ⟨slots, slot⟩ := slots
    obtain ⟨make?, values, hmake, hvalues, rfl⟩ := h
    obtain ⟨hnodup, -, hnew⟩ := List.nodup_append.mp hnodup
    by_cases hname : m.key = name
    · rw [List.filter_cons_of_pos (by simpa using hname)] at hvalues
      obtain ⟨value?, values, hvalue, hothers, rfl⟩ := List.forall₂_cons_left_iff.mp hvalues
      refine ⟨_, take?_of_eq (congrArg Bytes.ofString hname.symm) slots slot _, ?_⟩
      have hmake : ReadsFrom written fields slots make? :=
        hmake.of_not_mem fun hmem => hnew m.key hmem name List.mem_cons_self hname
      cases slot with
      | some a => exact .inr ⟨⟨_, rfl⟩, seq_none make?⟩
      | none =>
        have hgives := gives_fieldValue name hvalue hrest
        cases value? with
        | some a =>
          rw [show fieldValue name reader none _ = _ from hgives]
          refine .inl ⟨(slots, some a), rfl, make?, values, hmake, hothers, ?_⟩
          cases values <;> rfl
        | none =>
          obtain ⟨stop, hstop⟩ := hgives
          rw [hstop]
          refine .inr ⟨⟨stop, rfl⟩, ?_⟩
          cases values <;> exact seq_none make?
    · have hmem : m.key ∈ fields.names := by simpa [names, hname] using hkey
      rw [List.filter_cons_of_neg (by simpa using hname)] at hvalues
      have hne : Bytes.ofString name ≠ Bytes.ofString m.key :=
        fun heq => hname (Bytes.ofString_injective heq).symm
      obtain ⟨outcome, htake, hproceeds⟩ := ih hnodup hmem hmake
      refine ⟨outcome >>= fun found => pure ((found.1, slot), found.2), ?_, ?_⟩
      · rw [take?_of_ne hne, htake]
        rfl
      obtain ⟨slots', rfl, hfrom⟩ | ⟨⟨stop, rfl⟩, rfl⟩ := hproceeds
      · exact .inl ⟨(slots', slot), rfl, make?, values, hfrom, hvalues, rfl⟩
      · exact .inr ⟨⟨stop, rfl⟩, rfl⟩

theorem take?_eq_none {key : String} (h : key ∉ fields.names) (s : Bytes) :
    fields.take? (Bytes.ofString key) slots s = none := by
  induction fields with
  | build make => rfl
  | field fields name reader missing ih =>
    obtain ⟨slots, slot⟩ := slots
    simp only [names, List.mem_append, List.mem_singleton, not_or] at h
    have hne : Bytes.ofString name ≠ Bytes.ofString key :=
      fun heq => h.2 (Bytes.ofString_injective heq).symm
    rw [take?_of_ne hne, ih h.1]
    rfl

theorem proceeds_member (hnodup : fields.names.Nodup)
    (hother : m.key ∉ fields.names → m.IsPlain)
    (h : ReadsFrom (m :: written) fields slots result) (hrest : Delimited rest) :
    Proceeds (fields.member slots (Bytes.ofString m.key) (behindKey m rest)) written rest
      result := by
  unfold member
  by_cases hkey : m.key ∈ fields.names
  · obtain ⟨outcome, htake, hproceeds⟩ := exists_take?_of_mem hnodup hkey h hrest
    rw [htake]
    exact hproceeds
  · rw [take?_eq_none hkey, behindKey, takeColon_eq m.isBlanks_beforeColon]
    refine .inl ⟨slots, ?_, h.of_not_mem hkey⟩
    show skipValue _ >>= _ = _
    rw [skipValue_eq (hother hkey).2 m.isBlanks_afterColon hrest]
    rfl

section Members

variable {isFirst : Bool} {lead tail : Bytes} {before : String}

/-- A member, with what is before it. -/
theorem gives_members_cons (hnodup : fields.names.Nodup) (hlead : Lead isFirst lead)
    (hbefore : IsBlanks before) (hplain : ∀ c ∈ m.key.toList, IsPlain c)
    (hother : m.key ∉ fields.names → m.IsPlain)
    (h : ReadsFrom (m :: written) fields slots result) (htail : Delimited tail)
    (hrun : ∀ slots, ReadsFrom written fields slots result →
      Gives (fields.members slots false tail) (result.map fun a => (a, rest))) :
    Gives (fields.members slots isFirst
        (lead ++ (Bytes.ofString before ++ (Bytes.ofString m.text ++ tail))))
      (result.map fun a => (a, rest)) := by
  have hmembers : fields.members slots isFirst
      (lead ++ (Bytes.ofString before ++ (Bytes.ofString m.text ++ tail))) =
        (fields.member slots (Bytes.ofString m.key) (behindKey m tail) >>= fun found =>
          fields.members found.1 false found.2) := by
    simp only [Member.text, Bytes.ofString_append, List.append_assoc]
    exact members_key (nextKey_key hlead hbefore _) (text_key hplain _)
  rw [hmembers]
  obtain ⟨slots', hok, hfrom⟩ | ⟨⟨stop, hstop⟩, rfl⟩ := proceeds_member hnodup hother h htail
  · rw [hok]
    exact hrun slots' hfrom
  · rw [hstop]
    exact ⟨stop, rfl⟩

/-- The members of an object are read from the first to the last, and up to one that is refused. -/
theorem gives_members (hnodup : fields.names.Nodup) {s : String}
    (hs : Separated Member.text written s)
    (hplain : ∀ m ∈ written, ∀ c ∈ m.key.toList, IsPlain c)
    (hothers : ∀ m ∈ written, m.key ∉ fields.names → m.IsPlain)
    (h : ReadsFrom written fields slots result) (hlead : Lead isFirst lead) (rest : Bytes) :
    Gives (fields.members slots isFirst
        (lead ++ (Bytes.ofString s ++ Ascii.closeObject :: rest)))
      (result.map fun a => (a, rest)) := by
  induction hs generalizing slots isFirst lead with
  | @single m before after hbefore hafter =>
    rw [Bytes.ofString_append, Bytes.ofString_append, List.append_assoc, List.append_assoc]
    refine gives_members_cons hnodup hlead hbefore (hplain m List.mem_cons_self)
      (hothers m List.mem_cons_self) h (delimited_append hafter (by decide) rest) ?_
    intro slots hend
    rw [hend.eq_complete]
    exact members_done (nextKey_done false hafter rest)
  | @cons m written before after s hbefore hafter _ ih =>
    simp only [Bytes.ofString_append, List.append_assoc]
    refine gives_members_cons hnodup hlead hbefore (hplain m List.mem_cons_self)
      (hothers m List.mem_cons_self) h (delimited_append hafter (by decide) _) ?_
    intro slots hnext
    have hcomma := ih (fun m hm => hplain m (List.mem_cons_of_mem _ hm))
      (fun m hm => hothers m (List.mem_cons_of_mem _ hm)) hnext (.later hafter)
    rw [List.append_assoc] at hcomma
    exact hcomma

end Members

theorem takeStruct_object (name : String) {blanks : String} (hblanks : IsBlanks blanks)
    (s : Bytes) :
    Reader.takeStruct name fields (Bytes.ofString blanks ++ Ascii.openObject :: s) =
      fields.members fields.empty true s := by
  rw [Reader.takeStruct, skipBlanks_eq hblanks rfl]
  exact if_pos rfl

theorem reads_struct (name : String) {s : String} (hnodup : fields.names.Nodup)
    (hplain : ∀ name ∈ fields.names, ∀ c ∈ name.toList, IsPlain c)
    (hs : Enclosed "\x7b" "\x7d" Member.text written s)
    (hothers : ∀ m ∈ written, m.key ∉ fields.names → m.IsPlain)
    (h : fields.Reads (fun _ => Reader.Reads) written result) :
    (Reader.struct name fields).Reads s result := by
  intro blanks rest hblanks _
  show Gives (Reader.takeStruct name fields _) _
  have hfrom := h.readsFrom_empty
  have hkeys : ∀ m ∈ written, ∀ c ∈ m.key.toList, IsPlain c := by
    intro m hm
    by_cases hkey : m.key ∈ fields.names
    · exact hplain m.key hkey
    · exact (hothers m hm hkey).1
  cases hs with
  | @empty inner hinner =>
    simp only [Bytes.ofString_append, List.append_assoc]
    rw [hfrom.eq_complete]
    refine (takeStruct_object name hblanks _).trans ?_
    exact members_done (nextKey_done true hinner rest)
  | parts hs =>
    simp only [Bytes.ofString_append, List.append_assoc]
    have hrun := gives_members hnodup hs hkeys hothers hfrom .first rest
    exact (takeStruct_object name hblanks _).symm ▸ hrun

end Run
end Fields

section Decode

variable {α : Type} {reader : Reader α} {before text after : String}

theorem delimited_blanks {blanks : String} (h : IsBlanks blanks) :
    Delimited (Bytes.ofString blanks) :=
  fun b hb => .inl (h.isBlank b (List.mem_of_mem_head? hb))

theorem skipBlanks_blanks {blanks : String} (h : IsBlanks blanks) :
    skipBlanks (Bytes.ofString blanks) = [] := by
  rw [skipBlanks, ← List.append_nil (Bytes.ofString blanks), List.dropWhile_append_of_pos h.isBlank]
  rfl

theorem Reader.Reads.gives_run {result : Option α} (h : reader.Reads text result)
    (hbefore : IsBlanks before) (hafter : IsBlanks after) :
    Gives (reader.run (Bytes.ofString (before ++ (text ++ after))))
      (result.map fun a => (a, Bytes.ofString after)) := by
  rw [Bytes.ofString_append, Bytes.ofString_append]
  exact h before _ hbefore (delimited_blanks hafter)

theorem decode_of_reads_some {a : α} (hbefore : IsBlanks before) (hafter : IsBlanks after)
    (h : reader.Reads text (some a)) : reader.decode (before ++ (text ++ after)) = .ok a := by
  have hrun : reader.run _ = .ok (a, _) := h.gives_run hbefore hafter
  simp only [Reader.decode, hrun, skipBlanks_blanks hafter]

theorem decode_of_reads_none (hbefore : IsBlanks before) (hafter : IsBlanks after)
    (h : reader.Reads text none) :
    ∃ fault, reader.decode (before ++ (text ++ after)) = .error fault := by
  obtain ⟨stop, hstop⟩ := h.gives_run hbefore hafter
  simp only [Reader.decode, hstop]
  exact ⟨_, rfl⟩

end Decode

theorem lawful_json : Format.json.Lawful fun _ => Reader.Reads where
  reads_word := Reader.reads_word
  reads_size := Reader.reads_natural "usize" (by decide)
  reads_bool := Reader.reads_bool
  reads_struct name _ _ _ _ hnodup hplain htext hothers hfields :=
    Fields.reads_struct name hnodup hplain htext hothers hfields
  decode_of_some := decode_of_reads_some
  decode_of_none := decode_of_reads_none

end Atari6502.Settings
