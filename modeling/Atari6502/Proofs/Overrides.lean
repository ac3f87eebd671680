import Atari6502.Proofs.Format
import Atari6502.Settings.Document
import Mathlib.Data.List.Nodup
import Mathlib.Tactic.Tauto

/-! What written settings make of the defaults: each setting has the value that is written, and the
others stay as they are. If something is written twice or a value is out of range, nothing is made. -/
namespace Atari6502.Settings

/-- A setting, and the value that a document gives it. -/
inductive Assignment where
  | fallbackAddress (value : Nat)
  | excerptLimit (value : Nat)
  | showBytes (value : Bool)
  | hexWidth (value : Nat)
deriving DecidableEq, Repr

/-- The objects that a document has for settings. -/
inductive Part where
  | loader
  | listing
deriving DecidableEq, Repr

namespace Part

def name : Part → String
  | loader => "loader"
  | listing => "listing"

/-- The names of the settings in this part. -/
def settingNames : Part → List String
  | loader => ["fallback_address"]
  | listing => ["prompt_limit", "show_bytes", "hex_width"]

end Part

namespace Assignment

/-- Where the setting is written. -/
def part : Assignment → Part
  | fallbackAddress _ => .loader
  | excerptLimit _ | showBytes _ | hexWidth _ => .listing

def name : Assignment → String
  | fallbackAddress _ => "fallback_address"
  | excerptLimit _ => "prompt_limit"
  | showBytes _ => "show_bytes"
  | hexWidth _ => "hex_width"

/-- The value as it is written: in decimal digits, or as a word. -/
def text : Assignment → String
  | fallbackAddress value | excerptLimit value | hexWidth value => toString value
  | showBytes value => toString value

/-- The setting can have the value. -/
def InRange : Assignment → Prop
  | fallbackAddress value => value ≤ 0xFFFF
  | excerptLimit value | hexWidth value => value ≤ 0xFFFFFFFFFFFFFFFF
  | showBytes _ => True

theorem name_mem_settingNames (a : Assignment) : a.name ∈ a.part.settingNames := by
  cases a <;> simp [part, name, Part.settingNames]

end Assignment

/-- All that the settings say. -/
def assignments (settings : Settings) : List Assignment :=
  [.fallbackAddress settings.fallbackAddress.toNat, .excerptLimit settings.excerptLimit,
    .showBytes settings.showBytes, .hexWidth settings.hexWidth]

/-- The settings that a document writes in one object. -/
structure Block where
  part : Part
  assignments : List Assignment
deriving DecidableEq, Repr

def Block.name (block : Block) : String :=
  block.part.name

/-- Nothing is written twice, and all values are in range. -/
structure Sound (blocks : List Block) : Prop where
  nodup_blocks : (blocks.map Block.name).Nodup
  nodup_assignments : ∀ block ∈ blocks, (block.assignments.map Assignment.name).Nodup
  inRange : ∀ block ∈ blocks, ∀ a ∈ block.assignments, a.InRange

/-! What a list of values is worth to a field, of which the elements of a list write some. -/

section Single

variable {α γ : Type} {name : α → String} {key : String} {select : α → Option (Option γ)}
  {elements : List α} {missing c : γ}

/-- `select` gives the values of the elements that write `key`, and of no others. -/
def Selects (name : α → String) (key : String) (select : α → Option (Option γ)) : Prop :=
  ∀ a, (select a).isSome = true ↔ name a = key

theorem isSome_single_iff {values : List (Option γ)} :
    (single missing values).isSome = true ↔ values.length ≤ 1 ∧ none ∉ values := by
  cases values with
  | nil => simp [single]
  | cons value? values =>
    cases values with
    | nil => cases value? <;> simp [single]
    | cons _ _ => simp [single]

theorem eq_some_of_mem {values : List (Option γ)} {value? : Option γ}
    (h : single missing values = some c) (hvalue : value? ∈ values) : value? = some c := by
  cases values with
  | nil => exact nomatch hvalue
  | cons first values =>
    cases values with
    | nil => exact (List.mem_singleton.mp hvalue).trans h
    | cons _ _ => exact nomatch h

theorem isSome_seq {β : Type} (make? : Option (γ → β)) (value? : Option γ) :
    (make? <*> value?).isSome = (make?.isSome && value?.isSome) := by
  cases make? <;> cases value? <;> rfl

theorem single_of_forall_eq_none (missing : γ) (h : ∀ a ∈ elements, select a = none) :
    single missing (elements.filterMap select) = some missing := by
  rw [List.filterMap_eq_nil_iff.mpr h]
  rfl

namespace Selects

theorem length_filterMap (h : Selects name key select) :
    (elements.filterMap select).length = (elements.map name).count key := by
  induction elements with
  | nil => rfl
  | cons a elements ih =>
    cases hselect : select a with
    | none =>
      have hname : name a ≠ key := fun hname => by simpa [hselect] using (h a).mpr hname
      rw [List.filterMap_cons_none hselect, List.map_cons, List.count_cons_of_ne hname, ih]
    | some value? =>
      have hname : name a = key := (h a).mp (by rw [hselect]; rfl)
      rw [List.filterMap_cons_some hselect, List.map_cons, hname, List.count_cons_self,
        List.length_cons, ih]

/-- A field is not refused if it is written once at most, with a value that is not refused. -/
theorem isSome_single (h : Selects name key select) :
    (single missing (elements.filterMap select)).isSome = true ↔
      (elements.map name).count key ≤ 1 ∧ ∀ a ∈ elements, select a ≠ some none := by
  rw [isSome_single_iff, h.length_filterMap, List.mem_filterMap]
  simp only [not_exists, not_and, ne_eq]

end Selects

/-- The names are among finitely many, so it is enough to count these. -/
theorem nodup_map_iff {names : List String} (h : ∀ a ∈ elements, name a ∈ names) :
    (elements.map name).Nodup ↔ ∀ key ∈ names, (elements.map name).count key ≤ 1 := by
  rw [List.nodup_iff_count_le_one]
  constructor
  · intro hcount key _
    exact hcount key
  · intro hcount key
    by_cases hkey : key ∈ elements.map name
    · obtain ⟨a, ha, rfl⟩ := List.mem_map.mp hkey
      exact hcount _ (h a ha)
    · rw [List.count_eq_zero_of_not_mem hkey]
      exact Nat.zero_le 1

end Single

/-! What assignments and blocks are worth. -/

namespace Assignment

def address? : Assignment → Option (Option Address)
  | fallbackAddress value => some (if value ≤ 0xFFFF then some (UInt16.ofNat value) else none)
  | _ => none

/-- A number of 64 bits. -/
def size? (value : Nat) : Option Nat :=
  if value ≤ 0xFFFFFFFFFFFFFFFF then some value else none

theorem eq_of_size? {value n : Nat} (h : size? value = some n) : n = value := by
  unfold size? at h
  split at h
  · exact (Option.some.inj h).symm
  · cases h

def limit? : Assignment → Option (Option Nat)
  | excerptLimit value => some (size? value)
  | _ => none

def bytes? : Assignment → Option (Option Bool)
  | showBytes value => some (some value)
  | _ => none

def width? : Assignment → Option (Option Nat)
  | hexWidth value => some (size? value)
  | _ => none

theorem selects_address? : Selects name "fallback_address" address? := by
  rintro (_ | _ | _ | _) <;> simp [address?, name]

theorem selects_limit? : Selects name "prompt_limit" limit? := by
  rintro (_ | _ | _ | _) <;> simp [limit?, name]

theorem selects_bytes? : Selects name "show_bytes" bytes? := by
  rintro (_ | _ | _ | _) <;> simp [bytes?, name]

theorem selects_width? : Selects name "hex_width" width? := by
  rintro (_ | _ | _ | _) <;> simp [width?, name]

theorem inRange_iff (a : Assignment) :
    a.InRange ↔ a.address? ≠ some none ∧ a.limit? ≠ some none ∧ a.width? ≠ some none := by
  cases a <;> simp [InRange, address?, limit?, width?, size?]

end Assignment

/-- The settings of the loader that the assignments of a block make. -/
def loaderOf? (written : List Assignment) : Option LoaderSettings :=
  LoaderSettings.mk <$> single LoaderSettings.missingAddress (written.filterMap (·.address?))

/-- The settings of the renderers that the assignments of a block make. -/
def listingOf? (written : List Assignment) : Option ListingSettings :=
  ListingSettings.mk <$> single ListingSettings.missingLimit (written.filterMap (·.limit?)) <*>
    single false (written.filterMap (·.bytes?)) <*>
    single ListingSettings.missingWidth (written.filterMap (·.width?))

theorem loaderOf?_eq_some_iff {written : List Assignment} {loader : LoaderSettings} :
    loaderOf? written = some loader ↔
      single LoaderSettings.missingAddress (written.filterMap (·.address?)) =
        some loader.fallbackAddress := by
  unfold loaderOf?
  cases single LoaderSettings.missingAddress (written.filterMap (·.address?)) <;>
    cases loader <;> simp

theorem listingOf?_eq_some_iff {written : List Assignment} {listing : ListingSettings} :
    listingOf? written = some listing ↔
      single ListingSettings.missingLimit (written.filterMap (·.limit?)) =
          some listing.excerptLimit ∧
        single false (written.filterMap (·.bytes?)) = some listing.showBytes ∧
        single ListingSettings.missingWidth (written.filterMap (·.width?)) =
          some listing.hexWidth := by
  unfold listingOf?
  cases single ListingSettings.missingLimit (written.filterMap (·.limit?)) <;>
    cases single false (written.filterMap (·.bytes?)) <;>
    cases single ListingSettings.missingWidth (written.filterMap (·.width?)) <;>
    cases listing <;> simp [Seq.seq]

/-- What the block makes of its part, if that is `part`. -/
def Block.select {β : Type} (part : Part) (of? : List Assignment → Option β) (block : Block) :
    Option (Option β) :=
  if block.part = part then some (of? block.assignments) else none

theorem Block.selects {β : Type} (part : Part) (of? : List Assignment → Option β) :
    Selects Block.name part.name (Block.select part of?) := by
  rintro ⟨other, written⟩
  cases part <;> cases other <;> simp [select, name, Part.name]

/-- The settings that the blocks of a document make. -/
def settingsOf? (blocks : List Block) : Option Settings :=
  Settings.mk <$> single .default (blocks.filterMap (Block.select .loader loaderOf?)) <*>
    single .default (blocks.filterMap (Block.select .listing listingOf?))

theorem settingsOf?_eq_some_iff {blocks : List Block} {settings : Settings} :
    settingsOf? blocks = some settings ↔
      single .default (blocks.filterMap (Block.select .loader loaderOf?)) =
          some settings.loader ∧
        single .default (blocks.filterMap (Block.select .listing listingOf?)) =
          some settings.listing := by
  unfold settingsOf?
  cases single .default (blocks.filterMap (Block.select .loader loaderOf?)) <;>
    cases single .default (blocks.filterMap (Block.select .listing listingOf?)) <;>
    cases settings <;> simp [Seq.seq]

/-! Sound blocks make settings, and others do not. -/

section Sound

variable {written : List Assignment} {blocks : List Block}

theorem isSome_loaderOf?_iff (hpart : ∀ a ∈ written, a.part = .loader) :
    (loaderOf? written).isSome = true ↔
      (written.map Assignment.name).Nodup ∧ ∀ a ∈ written, a.InRange := by
  have hnames : ∀ a ∈ written, a.name ∈ Part.loader.settingNames :=
    fun a ha => hpart a ha ▸ a.name_mem_settingNames
  have hrange : ∀ a ∈ written, (a.InRange ↔ a.address? ≠ some none) := by
    intro a ha
    have ha := hpart a ha
    cases a <;> simp_all [Assignment.part, Assignment.inRange_iff, Assignment.limit?,
      Assignment.width?]
  rw [nodup_map_iff hnames, forall₂_congr hrange]
  rw [loaderOf?, Option.map_eq_map, Option.isSome_map, Assignment.selects_address?.isSome_single]
  simp [Part.settingNames]

theorem isSome_listingOf?_iff (hpart : ∀ a ∈ written, a.part = .listing) :
    (listingOf? written).isSome = true ↔
      (written.map Assignment.name).Nodup ∧ ∀ a ∈ written, a.InRange := by
  have hnames : ∀ a ∈ written, a.name ∈ Part.listing.settingNames :=
    fun a ha => hpart a ha ▸ a.name_mem_settingNames
  have hrange : ∀ a ∈ written, (a.InRange ↔
      a.limit? ≠ some none ∧ a.bytes? ≠ some none ∧ a.width? ≠ some none) := by
    intro a ha
    have ha := hpart a ha
    cases a <;> simp_all [Assignment.part, Assignment.inRange_iff, Assignment.address?,
      Assignment.bytes?]
  rw [nodup_map_iff hnames, forall₂_congr hrange]
  simp only [listingOf?, isSome_seq, Option.map_eq_map, Option.isSome_map, Bool.and_eq_true,
    Assignment.selects_limit?.isSome_single, Assignment.selects_bytes?.isSome_single,
    Assignment.selects_width?.isSome_single, Part.settingNames, List.forall_mem_cons]
  simp only [forall_and, List.not_mem_nil, false_implies, implies_true, and_true]
  tauto

/-- What is asked of the assignments of a block. -/
theorem select_ne_iff {block : Block} (hpart : ∀ a ∈ block.assignments, a.part = block.part) :
    (block.select .loader loaderOf? ≠ some none ∧ block.select .listing listingOf? ≠ some none) ↔
      (block.assignments.map Assignment.name).Nodup ∧ ∀ a ∈ block.assignments, a.InRange := by
  obtain ⟨part, written⟩ := block
  cases part with
  | loader =>
    rw [← isSome_loaderOf?_iff hpart]
    simp [Block.select, Option.isSome_iff_ne_none]
  | listing =>
    rw [← isSome_listingOf?_iff hpart]
    simp [Block.select, Option.isSome_iff_ne_none]

theorem isSome_settingsOf?_iff
    (hpart : ∀ block ∈ blocks, ∀ a ∈ block.assignments, a.part = block.part) :
    (settingsOf? blocks).isSome = true ↔ Sound blocks := by
  have hnames : ∀ block ∈ blocks, block.name ∈ ["loader", "listing"] := by
    rintro ⟨part, written⟩ -
    cases part <;> simp [Block.name, Part.name]
  have hblocks : (∀ block ∈ blocks, block.select .loader loaderOf? ≠ some none ∧
      block.select .listing listingOf? ≠ some none) ↔
        ∀ block ∈ blocks, (block.assignments.map Assignment.name).Nodup ∧
          ∀ a ∈ block.assignments, a.InRange :=
    forall₂_congr fun block hblock => select_ne_iff (hpart block hblock)
  have hsettings : (settingsOf? blocks).isSome = true ↔
      (∀ key ∈ ["loader", "listing"], (blocks.map Block.name).count key ≤ 1) ∧
        ∀ block ∈ blocks, block.select .loader loaderOf? ≠ some none ∧
          block.select .listing listingOf? ≠ some none := by
    have hloader := Block.selects .loader loaderOf?
    have hlisting := Block.selects .listing listingOf?
    simp only [settingsOf?, isSome_seq, Option.map_eq_map, Option.isSome_map, Bool.and_eq_true,
      hloader.isSome_single, hlisting.isSome_single, Part.name, List.forall_mem_cons]
    simp only [forall_and, List.not_mem_nil, false_implies, implies_true, and_true]
    tauto
  rw [hsettings, hblocks, ← nodup_map_iff hnames]
  constructor
  · rintro ⟨hnodup, hall⟩
    exact ⟨hnodup, fun block hblock => (hall block hblock).1, fun block hblock =>
      (hall block hblock).2⟩
  · intro h
    exact ⟨h.nodup_blocks, fun block hblock =>
      ⟨h.nodup_assignments block hblock, h.inRange block hblock⟩⟩

end Sound

/-! The settings of sound blocks. -/

/-- A setting of a part: how assignments write it, and where it stands in the `β` that they make.
`missing` stands in for the setting and `default` for the whole part, which has the same value. -/
structure Setting (β γ : Type) where
  part : Part
  of? : List Assignment → Option β
  default : β
  get : β → γ
  select : Assignment → Option (Option γ)
  missing : γ
  single_eq {written : List Assignment} {b : β} (h : of? written = some b) :
    single missing (written.filterMap select) = some (get b)
  get_default : get default = missing

namespace Setting

def address : Setting LoaderSettings Address where
  part := .loader
  of? := loaderOf?
  default := .default
  get := LoaderSettings.fallbackAddress
  select := Assignment.address?
  missing := LoaderSettings.missingAddress
  single_eq h := loaderOf?_eq_some_iff.mp h
  get_default := rfl

def limit : Setting ListingSettings Nat where
  part := .listing
  of? := listingOf?
  default := .default
  get := ListingSettings.excerptLimit
  select := Assignment.limit?
  missing := ListingSettings.missingLimit
  single_eq h := (listingOf?_eq_some_iff.mp h).1
  get_default := rfl

def bytes : Setting ListingSettings Bool where
  part := .listing
  of? := listingOf?
  default := .default
  get := ListingSettings.showBytes
  select := Assignment.bytes?
  missing := false
  single_eq h := (listingOf?_eq_some_iff.mp h).2.1
  get_default := rfl

def width : Setting ListingSettings Nat where
  part := .listing
  of? := listingOf?
  default := .default
  get := ListingSettings.hexWidth
  select := Assignment.width?
  missing := ListingSettings.missingWidth
  single_eq h := (listingOf?_eq_some_iff.mp h).2.2
  get_default := rfl

variable {β γ : Type} (setting : Setting β γ) {blocks : List Block} {b : β}

theorem of?_eq_some {block : Block}
    (h : single setting.default (blocks.filterMap (Block.select setting.part setting.of?)) = some b)
    (hblock : block ∈ blocks) (hpart : block.part = setting.part) :
    setting.of? block.assignments = some b :=
  eq_some_of_mem h (List.mem_filterMap.mpr ⟨block, hblock, if_pos hpart⟩)

/-- The setting has the value that is written. -/
theorem eq_some_get {block : Block} {a : Assignment} {value? : Option γ}
    (h : single setting.default (blocks.filterMap (Block.select setting.part setting.of?)) = some b)
    (hblock : block ∈ blocks) (hpart : block.part = setting.part) (ha : a ∈ block.assignments)
    (hvalue : setting.select a = some value?) : value? = some (setting.get b) := by
  have hsingle := setting.single_eq (setting.of?_eq_some h hblock hpart)
  exact eq_some_of_mem hsingle (List.mem_filterMap.mpr ⟨a, ha, hvalue⟩)

/-- A setting that is not written has its default, whether or not others of its part are written. -/
theorem get_eq_default
    (h : single setting.default (blocks.filterMap (Block.select setting.part setting.of?)) = some b)
    (hnone : ∀ block ∈ blocks, ∀ a ∈ block.assignments, setting.select a = none) :
    setting.get b = setting.get setting.default := by
  by_cases hblock : ∃ block ∈ blocks, block.part = setting.part
  · obtain ⟨block, hblock, hpart⟩ := hblock
    have hsingle := setting.single_eq (setting.of?_eq_some h hblock hpart)
    have hmissing := single_of_forall_eq_none setting.missing (hnone block hblock)
    rw [setting.get_default]
    exact Option.some.inj (hsingle.symm.trans hmissing)
  · have habsent : ∀ block ∈ blocks, Block.select setting.part setting.of? block = none :=
      fun block hmem => if_neg fun hpart => hblock ⟨block, hmem, hpart⟩
    have hmissing := single_of_forall_eq_none setting.default habsent
    rw [Option.some.inj (h.symm.trans hmissing)]

end Setting

section Assignments

variable {blocks : List Block} {settings : Settings}

theorem mem_assignments_of_mem (h : settingsOf? blocks = some settings) {block : Block}
    {a : Assignment} (hblock : block ∈ blocks) (ha : a ∈ block.assignments)
    (hpart : a.part = block.part) : a ∈ settings.assignments := by
  obtain ⟨hloader, hlisting⟩ := settingsOf?_eq_some_iff.mp h
  cases a with
  | fallbackAddress value =>
    have hvalue := Setting.address.eq_some_get hloader hblock hpart.symm ha rfl
    have hle : value ≤ 0xFFFF := by
      by_contra hlarge
      rw [if_neg hlarge] at hvalue
      cases hvalue
    rw [if_pos hle] at hvalue
    have hword : settings.fallbackAddress = UInt16.ofNat value := (Option.some.inj hvalue).symm
    have hnat : (UInt16.ofNat value).toNat = value :=
      UInt16.toNat_ofNat_of_lt' (Nat.lt_succ_of_le hle)
    simp [assignments, hword, hnat]
  | excerptLimit value =>
    have hvalue := Setting.limit.eq_some_get hlisting hblock hpart.symm ha rfl
    have hlimit : settings.excerptLimit = value := Assignment.eq_of_size? hvalue
    simp [assignments, hlimit]
  | showBytes value =>
    have hvalue := Setting.bytes.eq_some_get hlisting hblock hpart.symm ha rfl
    have hbytes : settings.showBytes = value := (Option.some.inj hvalue).symm
    simp [assignments, hbytes]
  | hexWidth value =>
    have hvalue := Setting.width.eq_some_get hlisting hblock hpart.symm ha rfl
    have hwidth : settings.hexWidth = value := Assignment.eq_of_size? hvalue
    simp [assignments, hwidth]

theorem eq_none_of_not_mem {γ : Type} {key : String} {select : Assignment → Option (Option γ)}
    (hselect : Selects Assignment.name key select)
    (hnot : key ∉ (blocks.flatMap Block.assignments).map Assignment.name) :
    ∀ block ∈ blocks, ∀ a ∈ block.assignments, select a = none := by
  intro block hblock a ha
  have hname : a.name ≠ key := by
    rintro rfl
    exact hnot (List.mem_map_of_mem (List.mem_flatMap.mpr ⟨block, hblock, ha⟩))
  exact Option.not_isSome_iff_eq_none.mp fun hsome => hname ((hselect a).mp hsome)

theorem mem_assignments_of_not_mem (h : settingsOf? blocks = some settings) {a : Assignment}
    (ha : a ∈ ({} : Settings).assignments)
    (hnot : a.name ∉ (blocks.flatMap Block.assignments).map Assignment.name) :
    a ∈ settings.assignments := by
  obtain ⟨hloader, hlisting⟩ := settingsOf?_eq_some_iff.mp h
  simp only [assignments, List.mem_cons, List.not_mem_nil, or_false] at ha ⊢
  rcases ha with rfl | rfl | rfl | rfl
  · have hnone := eq_none_of_not_mem Assignment.selects_address? hnot
    have heq := Setting.address.get_eq_default hloader hnone
    exact .inl (congrArg (fun n : Address => Assignment.fallbackAddress n.toNat) heq.symm)
  · have hnone := eq_none_of_not_mem Assignment.selects_limit? hnot
    have heq := Setting.limit.get_eq_default hlisting hnone
    exact .inr (.inl (congrArg _ heq.symm))
  · have hnone := eq_none_of_not_mem Assignment.selects_bytes? hnot
    have heq := Setting.bytes.get_eq_default hlisting hnone
    exact .inr (.inr (.inl (congrArg _ heq.symm)))
  · have hnone := eq_none_of_not_mem Assignment.selects_width? hnot
    have heq := Setting.width.get_eq_default hlisting hnone
    exact .inr (.inr (.inr (congrArg _ heq.symm)))

end Assignments

end Atari6502.Settings
