import Atari6502.Proofs.Objects
import Atari6502.Proofs.Overrides

/-! Settings documents: those that write some of the settings, in any order and among any other
members, mean the defaults with these settings changed. This holds in every lawful format. -/
namespace Atari6502.Settings

open Grammar

/-- The member writes the setting, which is one of the part. -/
def Part.Writes (part : Part) (m : Member) (a : Assignment) : Prop :=
  a.part = part ∧ m.key = a.name ∧ m.value = a.text

/-- The member is the object of the block. -/
def Block.Writes (m : Member) (block : Block) : Prop :=
  m.key = block.name ∧
    IsObject block.part.settingNames block.part.Writes block.assignments m.value

/-- The document writes the settings of the blocks, in this order. -/
def IsDocument (blocks : List Block) (document : String) : Prop :=
  ∃ before body after, IsBlanks before ∧ IsBlanks after ∧
    IsObject ["loader", "listing"] Block.Writes blocks body ∧ document = before ++ (body ++ after)

section Values

variable {α γ : Type} {name : α → String} {key : String} {select : α → Option (Option γ)}
  {elements : List α}

/-- The values that the members of an object have for a field. -/
theorem forall₂_values {names : List String} {Writes : Member → α → Prop} {members : List Member}
    {R : Member → Option γ → Prop} (h : Lists names Writes members elements) (hkey : key ∈ names)
    (hselect : Selects name key select) (hname : ∀ {m a}, Writes m a → m.key = name a)
    (hreads : ∀ {m a value?}, Writes m a → select a = some value? → R m value?) :
    List.Forall₂ R (members.filter fun m => m.key = key) (elements.filterMap select) := by
  induction h with
  | nil => exact .nil
  | @field m members a elements hwrites _ ih =>
    cases hvalue : select a with
    | none =>
      have hne : ¬m.key = key := fun heq => by
        simpa [hvalue] using (hselect a).mpr ((hname hwrites).symm.trans heq)
      rw [List.filterMap_cons_none hvalue, List.filter_cons_of_neg (by simpa using hne)]
      exact ih
    | some value? =>
      have heq : m.key = key := (hname hwrites).trans ((hselect a).mp (by rw [hvalue]; rfl))
      rw [List.filterMap_cons_some hvalue, List.filter_cons_of_pos (by simpa using heq)]
      exact .cons (hreads hwrites hvalue) ih
  | @other m members elements _ hother _ _ ih =>
    have hne : ¬m.key = key := fun heq => hother (heq ▸ hkey)
    rw [List.filter_cons_of_neg (by simpa using hne)]
    exact ih

end Values

theorem isPlain_of_all {s : String} (h : (s.toList.all fun c => decide (IsPlain c)) = true) :
    ∀ c ∈ s.toList, IsPlain c :=
  fun c hc => of_decide_eq_true (List.all_eq_true.mp h c hc)

section Documents

variable {format : Format} {Reads : ∀ ⦃α : Type⦄, format.Decoder α → String → Option α → Prop}
  {blocks : List Block} {document s : String} {written : List Assignment}

theorem Part.key_mem_of_writes {part : Part} {m : Member} {a : Assignment}
    (h : part.Writes m a) : m.key ∈ part.settingNames := by
  obtain ⟨rfl, hkey, -⟩ := h
  rw [hkey]
  exact a.name_mem_settingNames

/-- The values of a setting in the members of an object. -/
theorem forall₂_setting {part : Part} {members : List Member} {γ : Type}
    {decoder : format.Decoder γ} {key : String} {select : Assignment → Option (Option γ)}
    (h : Lists part.settingNames part.Writes members written) (hkey : key ∈ part.settingNames)
    (hselect : Selects Assignment.name key select)
    (hreads : ∀ {a value?}, select a = some value? → Reads decoder a.text value?) :
    List.Forall₂ (fun m value? => Reads decoder m.value value?)
      (members.filter fun m => m.key = key) (written.filterMap select) := by
  refine forall₂_values h hkey hselect (fun hwrites => hwrites.2.1) ?_
  rintro m a value? ⟨-, -, hvalue⟩ hsome
  rw [hvalue]
  exact hreads hsome

theorem reads_loader (hformat : format.Lawful Reads)
    (h : IsObject Part.loader.settingNames Part.loader.Writes written s) :
    Reads (LoaderSettings.decoder format) s (loaderOf? written) := by
  obtain ⟨members, hlists, hs⟩ := h
  refine hformat.reads_struct "LoaderConfig" (by simp [Fields.names]) ?_ hs
    (hlists.isPlain_of_not_mem Part.key_mem_of_writes) (.field (.build _) ?_)
  · simp only [Fields.names, List.nil_append, List.forall_mem_singleton]
    exact isPlain_of_all (by decide)
  · refine forall₂_setting hlists (by decide) Assignment.selects_address? ?_
    rintro (value | _ | _ | _) value? ⟨⟩
    exact hformat.reads_word value

theorem reads_listing (hformat : format.Lawful Reads)
    (h : IsObject Part.listing.settingNames Part.listing.Writes written s) :
    Reads (ListingSettings.decoder format) s (listingOf? written) := by
  obtain ⟨members, hlists, hs⟩ := h
  refine hformat.reads_struct "ListingConfig" (by simp [Fields.names]) ?_ hs
    (hlists.isPlain_of_not_mem Part.key_mem_of_writes)
    (.field (.field (.field (.build _) ?_) ?_) ?_)
  · simp only [Fields.names, List.nil_append, List.cons_append, List.forall_mem_cons]
    exact ⟨isPlain_of_all (by decide), isPlain_of_all (by decide), isPlain_of_all (by decide),
      List.forall_mem_nil _⟩
  · refine forall₂_setting hlists (by decide) Assignment.selects_limit? ?_
    rintro (_ | value | _ | _) value? ⟨⟩
    exact hformat.reads_size value
  · refine forall₂_setting hlists (by decide) Assignment.selects_bytes? ?_
    rintro (_ | _ | value | _) value? ⟨⟩
    exact hformat.reads_bool value
  · refine forall₂_setting hlists (by decide) Assignment.selects_width? ?_
    rintro (_ | _ | _ | value) value? ⟨⟩
    exact hformat.reads_size value

theorem reads_blocks (hformat : format.Lawful Reads)
    (h : IsObject ["loader", "listing"] Block.Writes blocks s) :
    Reads (decoder format) s (settingsOf? blocks) := by
  obtain ⟨members, hlists, hs⟩ := h
  have hkeys : ∀ {m : Member} {block : Block}, Block.Writes m block →
      m.key ∈ ["loader", "listing"] := by
    rintro m ⟨part, written⟩ ⟨hkey, -⟩
    rw [hkey]
    cases part <;> simp [Block.name, Part.name]
  refine hformat.reads_struct "Config" (by simp [Fields.names]) ?_ hs
    (hlists.isPlain_of_not_mem hkeys) (.field (.field (.build _) ?_) ?_)
  · simp only [Fields.names, List.nil_append, List.cons_append, List.forall_mem_cons]
    exact ⟨isPlain_of_all (by decide), isPlain_of_all (by decide), List.forall_mem_nil _⟩
  · refine forall₂_values hlists (by simp) (Block.selects .loader loaderOf?)
      (fun hwrites => hwrites.1) ?_
    rintro m ⟨_ | _, written⟩ value? ⟨-, hobject⟩ ⟨⟩
    exact reads_loader hformat hobject
  · refine forall₂_values hlists (by simp) (Block.selects .listing listingOf?)
      (fun hwrites => hwrites.1) ?_
    rintro m ⟨_ | _, written⟩ value? ⟨-, hobject⟩ ⟨⟩
    exact reads_listing hformat hobject

theorem part_eq_of_mem (h : IsDocument blocks document) :
    ∀ block ∈ blocks, ∀ a ∈ block.assignments, a.part = block.part := by
  intro block hblock a ha
  obtain ⟨-, -, -, -, -, ⟨_, hblocks, -⟩, -⟩ := h
  obtain ⟨-, -, _, hwritten, -⟩ := hblocks.exists_writes block hblock
  obtain ⟨-, hpart, -⟩ := hwritten.exists_writes a ha
  exact hpart

/-- A document that writes some of the settings, in any order, with any blanks and among any other
members, gives each of these settings the value that is written and leaves the others at their
defaults. If something in it is written twice or a value is out of range, it is refused. -/
theorem parse_document (hformat : format.Lawful Reads) (h : IsDocument blocks document) :
    let written := blocks.flatMap Block.assignments
    (Sound blocks → ∃ settings, parse format document = .ok settings ∧
        (∀ a ∈ written, a ∈ settings.assignments) ∧
        ∀ a ∈ ({} : Settings).assignments, a.name ∉ written.map Assignment.name →
          a ∈ settings.assignments) ∧
      (¬Sound blocks → ∃ fault, parse format document = .error fault) := by
  intro written
  have hpart := part_eq_of_mem h
  obtain ⟨before, body, after, hbefore, hafter, hobject, rfl⟩ := h
  have hreads := reads_blocks hformat hobject
  rw [← isSome_settingsOf?_iff hpart]
  cases hsettings : settingsOf? blocks with
  | none =>
    rw [hsettings] at hreads
    refine ⟨fun hsound => absurd hsound (by decide), fun _ => ?_⟩
    exact hformat.decode_of_none hbefore hafter hreads
  | some settings =>
    rw [hsettings] at hreads
    refine ⟨fun _ => ⟨settings, hformat.decode_of_some hbefore hafter hreads, ?_, ?_⟩,
      fun hunsound => absurd rfl hunsound⟩
    · intro a ha
      obtain ⟨block, hblock, hmem⟩ := List.mem_flatMap.mp ha
      exact mem_assignments_of_mem hsettings hblock hmem (hpart block hblock a hmem)
    · intro a ha hnot
      exact mem_assignments_of_not_mem hsettings ha hnot

-- The width comes before the address, and a list with a number and an object is passed over.
theorem parse_document_reordered :
    let document := "\x7b\"x\": [1.5e3, \x7b\x7d],\n \"listing\": \x7b\"hex_width\":8\x7d," ++
      "\"loader\":\x7b \"fallback_address\" : 4096\x7d \x7d"
    let blocks : List Block := [⟨.listing, [.hexWidth 8]⟩, ⟨.loader, [.fallbackAddress 4096]⟩]
    IsDocument blocks document ∧ Sound blocks ∧
      (∃ settings, parse .json document = .ok settings ∧ .hexWidth 8 ∈ settings.assignments ∧
        .fallbackAddress 4096 ∈ settings.assignments ∧
        .excerptLimit 300 ∈ settings.assignments) ∧
      ∃ fault, parse .json "\x7b\"loader\":\x7b\"fallback_address\":65536\x7d\x7d" = .error fault := by
  intro document blocks
  have hnone : IsBlanks "" := by decide
  have hspace : IsBlanks " " := by decide
  have hline : IsBlanks "\n " := by decide
  have hnumber : IsNumber ("" ++ ("1" ++ (("." ++ "5") ++ ("e" ++ ("" ++ "3"))))) :=
    .parts (by decide) (.digits (by decide) (by decide)) (.digits (by decide))
      (.digits (by decide) (by decide) (by decide))
  have hempty : IsValue "\x7b\x7d" :=
    @IsValue.object [] _ (.empty hnone) (fun _ h => nomatch h) (fun _ h => nomatch h)
  have hlist : IsValue "[1.5e3, \x7b\x7d]" := by
    refine @IsValue.list ["1.5e3", "\x7b\x7d"] _
      (.parts (.cons hnone hnone (.single hspace hnone))) ?_
    simp only [List.forall_mem_cons]
    exact ⟨.number hnumber, hempty, fun _ h => nomatch h⟩
  have hlisting : IsObject Part.listing.settingNames Part.listing.Writes [.hexWidth 8]
      "\x7b\"hex_width\":8\x7d" :=
    ⟨[{ key := "hex_width", value := "8" }], .field ⟨rfl, rfl, rfl⟩ .nil,
      .parts (.single hnone hnone)⟩
  have hloader : IsObject Part.loader.settingNames Part.loader.Writes [.fallbackAddress 4096]
      "\x7b \"fallback_address\" : 4096\x7d" :=
    ⟨[{ key := "fallback_address", value := "4096", beforeColon := " ", afterColon := " " }],
      .field ⟨rfl, rfl, by decide⟩ .nil, .parts (.single hspace hnone)⟩
  have hdocument : IsDocument blocks document := by
    refine ⟨"", _, "", hnone, hnone, ⟨[
      { key := "x", value := "[1.5e3, \x7b\x7d]", afterColon := " " },
      { key := "listing", value := "\x7b\"hex_width\":8\x7d", afterColon := " " },
      { key := "loader", value := "\x7b \"fallback_address\" : 4096\x7d" }],
      .other (isPlain_of_all (by decide)) (by decide) hlist
        (.field ⟨rfl, hlisting⟩ (.field ⟨rfl, hloader⟩ .nil)),
      .parts (.cons hnone hnone (.cons hline hnone (.single hnone hspace)))⟩, ?_⟩
    decide
  have hsound : Sound blocks := by
    refine ⟨by decide, by decide, ?_⟩
    simp [blocks, Assignment.InRange]
  have hlarge : IsObject Part.loader.settingNames Part.loader.Writes [.fallbackAddress 65536]
      "\x7b\"fallback_address\":65536\x7d" :=
    ⟨[{ key := "fallback_address", value := "65536" }], .field ⟨rfl, rfl, by decide⟩ .nil,
      .parts (.single hnone hnone)⟩
  have hrefused : IsDocument [⟨.loader, [.fallbackAddress 65536]⟩]
      "\x7b\"loader\":\x7b\"fallback_address\":65536\x7d\x7d" := by
    refine ⟨"", _, "", hnone, hnone,
      ⟨[{ key := "loader", value := "\x7b\"fallback_address\":65536\x7d" }],
        .field ⟨rfl, hlarge⟩ .nil, .parts (.single hnone hnone)⟩, ?_⟩
    decide
  have hunsound : ¬Sound [⟨.loader, [.fallbackAddress 65536]⟩] := fun h =>
    absurd (h.inRange _ List.mem_cons_self _ List.mem_cons_self) (by decide : ¬65536 ≤ 65535)
  obtain ⟨settings, hparse, hwritten, hdefault⟩ := (parse_document lawful_json hdocument).1 hsound
  exact ⟨hdocument, hsound, ⟨settings, hparse, hwritten _ (by decide), hwritten _ (by decide),
    hdefault _ (by decide) (by decide)⟩, (parse_document lawful_json hrefused).2 hunsound⟩

end Documents

end Atari6502.Settings
