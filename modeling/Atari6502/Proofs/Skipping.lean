import Atari6502.Proofs.Scanning

/-! Passing over values: whatever stands in a value, scanning goes on right behind it. -/
namespace Atari6502.Settings.Scan

open Grammar

variable {rest : Bytes}

section Numbers

variable {sign whole fraction exponent digits : String}

theorem skipExponent_digits (hsign : sign ∈ ["", "+", "-"]) (h : IsDigits digits)
    (hrest : startsWithDigit rest = false) :
    skipExponent (Bytes.ofString sign ++ (Bytes.ofString digits ++ rest)) = .ok rest := by
  obtain ⟨b, t, hcons, hb, ht, -⟩ := h.exists_cons
  have hskip : skipDigits (t ++ rest) = rest := skipDigits_append ht hrest
  have hne : ¬(b = Ascii.plus ∨ b = Ascii.minus) := by
    rintro (rfl | rfl) <;> exact absurd hb (by decide)
  rw [hcons]
  simp only [List.mem_cons, List.not_mem_nil, or_false] at hsign
  rcases hsign with rfl | rfl | rfl
  · show skipExponent (b :: (t ++ rest)) = _
    simp only [skipExponent, if_neg hne, if_pos hb, hskip]
  · show skipExponent (Ascii.plus :: b :: (t ++ rest)) = _
    simp only [skipExponent, true_or, if_true, if_pos hb, hskip]
  · show skipExponent (Ascii.minus :: b :: (t ++ rest)) = _
    simp only [skipExponent, or_true, if_true, if_pos hb, hskip]

theorem startsWithDigit_exponent (h : IsExponent exponent) (hrest : Delimited rest) :
    startsWithDigit (Bytes.ofString exponent ++ rest) = false := by
  cases h with
  | absent => exact hrest.startsWithDigit
  | digits hletter =>
    simp only [List.mem_cons, List.not_mem_nil, or_false] at hletter
    rcases hletter with rfl | rfl <;> rfl

theorem startsWithDigit_fraction (hfraction : IsFraction fraction)
    (h : startsWithDigit rest = false) :
    startsWithDigit (Bytes.ofString fraction ++ rest) = false := by
  cases hfraction with
  | absent => exact h
  | digits => rfl

/-- An exponent may stand behind digits on either side of the point, or be missing there. -/
theorem skipExponent?_eq (h : IsExponent exponent) (hrest : Delimited rest) :
    (match Bytes.ofString exponent ++ rest with
      | [] => .ok []
      | b :: r => if b = Ascii.lowerE ∨ b = Ascii.upperE then skipExponent r else .ok (b :: r)) =
      (.ok rest : Except Stop Bytes) := by
  cases h with
  | absent =>
    cases rest with
    | nil => rfl
    | cons b r => exact if_neg hrest.ne_of_cons.2
  | @digits letter sign digits hletter hsign hdigits =>
    have hskip := skipExponent_digits hsign hdigits hrest.startsWithDigit
    rw [Bytes.ofString_append, Bytes.ofString_append, List.append_assoc, List.append_assoc]
    simp only [List.mem_cons, List.not_mem_nil, or_false] at hletter
    rcases hletter with rfl | rfl
    · exact (if_pos (.inl rfl)).trans hskip
    · exact (if_pos (.inr rfl)).trans hskip

theorem skipFraction_eq (hfraction : IsFraction fraction) (hexponent : IsExponent exponent)
    (hrest : Delimited rest) :
    skipFraction (Bytes.ofString fraction ++ (Bytes.ofString exponent ++ rest)) = .ok rest := by
  have hskip := skipExponent?_eq hexponent hrest
  have hstop := startsWithDigit_exponent hexponent hrest
  cases hfraction with
  | absent =>
    show skipFraction (Bytes.ofString exponent ++ rest) = _
    cases hbytes : Bytes.ofString exponent ++ rest with
    | nil =>
      rw [hbytes] at hskip
      exact hskip
    | cons b r =>
      have hpoint : b ≠ Ascii.point := by
        cases hexponent with
        | absent =>
          rw [show rest = b :: r from hbytes] at hrest
          exact hrest.ne_of_cons.1
        | digits hletter =>
          simp only [List.mem_cons, List.not_mem_nil, or_false] at hletter
          rcases hletter with rfl | rfl <;>
            obtain rfl := (List.cons.inj hbytes).1 <;> decide
      rw [hbytes] at hskip
      rw [skipFraction, if_neg hpoint]
      exact hskip
  | @digits digits hdigits =>
    have hstart : startsWithDigit (Bytes.ofString digits ++ (Bytes.ofString exponent ++ rest)) =
        true := startsWithDigit_append (Bytes.ofString_ne_nil hdigits.1) hdigits.isDigit
    rw [Bytes.ofString_append, List.append_assoc]
    show skipFraction (Ascii.point :: (Bytes.ofString digits ++ _)) = _
    rw [skipFraction, if_pos rfl, hstart, skipDigits_append hdigits.isDigit hstop]
    exact hskip

theorem skipUnsigned_whole (h : IsWhole whole) (hrest : startsWithDigit rest = false) :
    skipUnsigned (Bytes.ofString whole ++ rest) = skipFraction rest := by
  cases h with
  | zero =>
    show skipUnsigned (Ascii.zero :: rest) = _
    rw [skipUnsigned, if_pos rfl, hrest]
    rfl
  | digits h hfirst =>
    obtain ⟨b, t, hcons, hb, ht, hzero⟩ := h.exists_cons
    rw [hcons, List.cons_append, skipUnsigned, if_neg (fun hb => hfirst (hzero hb)), if_pos hb,
      skipDigits_append ht hrest]

theorem skipUnsigned_eq (hwhole : IsWhole whole) (hfraction : IsFraction fraction)
    (hexponent : IsExponent exponent) (hrest : Delimited rest) :
    skipUnsigned (Bytes.ofString (whole ++ (fraction ++ exponent)) ++ rest) = .ok rest := by
  have hstop := startsWithDigit_fraction hfraction (startsWithDigit_exponent hexponent hrest)
  rw [Bytes.ofString_append, Bytes.ofString_append, List.append_assoc, List.append_assoc,
    skipUnsigned_whole hwhole hstop, skipFraction_eq hfraction hexponent hrest]

end Numbers

section Scalars

theorem skipScalar_digit {b : UInt8} (hb : Ascii.isDigit b = true) (s : Bytes) :
    skipScalar (b :: s) = skipUnsigned (b :: s) := by
  have hne : ∀ x : UInt8, Ascii.isDigit x = false → b ≠ x := by
    rintro x hx rfl
    rw [hb] at hx
    exact Bool.noConfusion hx
  rw [skipScalar, if_neg (hne _ rfl), if_neg (hne _ rfl), if_neg (hne _ rfl), if_neg (hne _ rfl),
    if_pos hb]

theorem skipScalar_word {s : String} (h : s ∈ ["null", "true", "false"]) (rest : Bytes) :
    skipScalar (Bytes.ofString s ++ rest) = .ok rest := by
  simp only [List.mem_cons, List.not_mem_nil, or_false] at h
  rcases h with rfl | rfl | rfl
  · exact word_append (Bytes.ofString "ull") rest
  · exact word_append (Bytes.ofString "rue") rest
  · exact word_append (Bytes.ofString "alse") rest

theorem skipScalar_number {s : String} (h : IsNumber s) (hrest : Delimited rest) :
    skipScalar (Bytes.ofString s ++ rest) = .ok rest := by
  obtain ⟨hsign, hwhole, hfraction, hexponent⟩ := h
  have hskip := skipUnsigned_eq hwhole hfraction hexponent hrest
  simp only [List.mem_cons, List.not_mem_nil, or_false] at hsign
  rcases hsign with rfl | rfl
  · obtain ⟨b, t, hcons, hb⟩ := hwhole.exists_cons
    rw [Bytes.ofString_append, hcons, List.cons_append, List.cons_append] at hskip
    show skipScalar (Bytes.ofString _ ++ rest) = _
    rw [String.empty_append, Bytes.ofString_append, hcons, List.cons_append, List.cons_append,
      skipScalar_digit hb]
    exact hskip
  · rw [Bytes.ofString_append, List.append_assoc]
    exact hskip

theorem skipScalar_text {s : String} (h : IsContent s) (rest : Bytes) :
    skipScalar (Bytes.ofString ("\"" ++ (s ++ "\"")) ++ rest) = .ok rest := by
  rw [Bytes.ofString_append, Bytes.ofString_append, List.append_assoc, List.append_assoc]
  exact skipText_content h rest

end Scalars

variable {nesting : List Nesting}

theorem skipFrom_of_skipStep {phase phase' : Phase} {nesting' : List Nesting} {s r : Bytes}
    (h : skipStep phase nesting s = .ok (some (phase', nesting', r))) :
    skipFrom phase nesting s = skipFrom phase' nesting' r := by
  rw [skipFrom]
  split
  · simp_all
  · simp_all
  · rename_i heq
    rw [h] at heq
    cases heq
    rfl

/-! Where a value has just ended. -/

section Ended

variable {blanks : String} {s : Bytes}

theorem skipFrom_list_comma (h : IsBlanks blanks) (s : Bytes) :
    skipFrom .ended (.list :: nesting) (Bytes.ofString blanks ++ Ascii.comma :: s) =
      skipFrom .awaiting (.list :: nesting) s := by
  apply skipFrom_of_skipStep
  rw [skipStep, skipBlanks_eq h rfl]
  exact if_pos rfl

theorem skipFrom_list_close (h : IsBlanks blanks) (s : Bytes) :
    skipFrom .ended (.list :: nesting) (Bytes.ofString blanks ++ Ascii.closeList :: s) =
      skipFrom .ended nesting s := by
  apply skipFrom_of_skipStep
  rw [skipStep, skipBlanks_eq h rfl]
  exact (if_neg (by decide)).trans (if_pos rfl)

theorem skipFrom_object_comma (h : IsBlanks blanks) {r : Bytes} (hkey : skipKey s = .ok r) :
    skipFrom .ended (.object :: nesting) (Bytes.ofString blanks ++ Ascii.comma :: s) =
      skipFrom .awaiting (.object :: nesting) r := by
  apply skipFrom_of_skipStep
  rw [skipStep, skipBlanks_eq h rfl]
  refine (if_pos rfl).trans ?_
  rw [hkey]
  rfl

theorem skipFrom_object_close (h : IsBlanks blanks) (s : Bytes) :
    skipFrom .ended (.object :: nesting) (Bytes.ofString blanks ++ Ascii.closeObject :: s) =
      skipFrom .ended nesting s := by
  apply skipFrom_of_skipStep
  rw [skipStep, skipBlanks_eq h rfl]
  exact (if_neg (by decide)).trans (if_pos rfl)

end Ended

/-! Where a value comes next. -/

section Awaiting

variable {blanks inner : String}

/-- Scanning passes over the text in one step. -/
def IsScalar (text : String) : Prop :=
  ∀ rest, Delimited rest → skipScalar (Bytes.ofString text ++ rest) = .ok rest

theorem not_mem_of_skipScalar {b : UInt8} {s r : Bytes} (h : skipScalar (b :: s) = .ok r) :
    b ∉ [0x20, 0x09, 0x0A, 0x0D, Ascii.openList, Ascii.openObject, Ascii.closeList] := by
  intro hb
  simp only [List.mem_cons, List.not_mem_nil, or_false] at hb
  rcases hb with rfl | rfl | rfl | rfl | rfl | rfl | rfl <;> exact nomatch h

theorem IsScalar.exists_cons {text : String} (h : IsScalar text) :
    ∃ b t, Bytes.ofString text = b :: t ∧ Ascii.isBlank b = false ∧ b ≠ Ascii.openList ∧
      b ≠ Ascii.openObject ∧ b ≠ Ascii.closeList := by
  have hskip := h [] (by rintro b ⟨⟩)
  cases hbytes : Bytes.ofString text with
  | nil =>
    rw [hbytes] at hskip
    exact nomatch hskip
  | cons b t =>
    rw [hbytes] at hskip
    have hb := not_mem_of_skipScalar hskip
    simp only [List.mem_cons, List.not_mem_nil, or_false, not_or] at hb
    obtain ⟨hspace, htab, hfeed, hreturn, hlist, hobject, hclose⟩ := hb
    refine ⟨b, t, rfl, ?_, hlist, hobject, hclose⟩
    simp [Ascii.isBlank, hspace, htab, hfeed, hreturn]

theorem skipFrom_scalar {text : String} (h : IsScalar text) (hblanks : IsBlanks blanks)
    (hrest : Delimited rest) :
    skipFrom .awaiting nesting (Bytes.ofString blanks ++ (Bytes.ofString text ++ rest)) =
      skipFrom .ended nesting rest := by
  obtain ⟨b, t, hcons, hblank, hlist, hobject, -⟩ := h.exists_cons
  have hskip := h rest hrest
  rw [hcons, List.cons_append] at hskip ⊢
  apply skipFrom_of_skipStep
  rw [skipStep, skipBlanks_eq hblanks hblank]
  refine (if_neg hlist).trans ((if_neg hobject).trans ?_)
  rw [hskip]
  rfl

theorem skipFrom_list_empty (hblanks : IsBlanks blanks) (hinner : IsBlanks inner) (s : Bytes) :
    skipFrom .awaiting nesting
        (Bytes.ofString blanks ++
          Ascii.openList :: (Bytes.ofString inner ++ Ascii.closeList :: s)) =
      skipFrom .ended nesting s := by
  apply skipFrom_of_skipStep
  rw [skipStep, skipBlanks_eq hblanks rfl]
  refine (if_pos rfl).trans ?_
  rw [skipBlanks_eq hinner rfl]
  exact if_pos rfl

theorem skipFrom_list_open (hblanks : IsBlanks blanks) (hinner : IsBlanks inner) {b : UInt8}
    (hb : Ascii.isBlank b = false) (hclose : b ≠ Ascii.closeList) (s : Bytes) :
    skipFrom .awaiting nesting
        (Bytes.ofString blanks ++ Ascii.openList :: (Bytes.ofString inner ++ b :: s)) =
      skipFrom .awaiting (.list :: nesting) (b :: s) := by
  apply skipFrom_of_skipStep
  rw [skipStep, skipBlanks_eq hblanks rfl]
  refine (if_pos rfl).trans ?_
  rw [skipBlanks_eq hinner hb]
  exact if_neg hclose

theorem skipFrom_object_empty (hblanks : IsBlanks blanks) (hinner : IsBlanks inner) (s : Bytes) :
    skipFrom .awaiting nesting
        (Bytes.ofString blanks ++
          Ascii.openObject :: (Bytes.ofString inner ++ Ascii.closeObject :: s)) =
      skipFrom .ended nesting s := by
  apply skipFrom_of_skipStep
  rw [skipStep, skipBlanks_eq hblanks rfl]
  refine (if_neg (by decide)).trans ((if_pos rfl).trans ?_)
  rw [skipBlanks_eq hinner rfl]
  exact if_pos rfl

theorem skipFrom_object_open (hblanks : IsBlanks blanks) (hinner : IsBlanks inner) {s r : Bytes}
    (hkey : skipKey (Ascii.quote :: s) = .ok r) :
    skipFrom .awaiting nesting
        (Bytes.ofString blanks ++ Ascii.openObject :: (Bytes.ofString inner ++ Ascii.quote :: s)) =
      skipFrom .awaiting (.object :: nesting) r := by
  apply skipFrom_of_skipStep
  rw [skipStep, skipBlanks_eq hblanks rfl]
  refine (if_neg (by decide)).trans ((if_pos rfl).trans ?_)
  rw [skipBlanks_eq hinner rfl]
  refine (if_neg (by decide)).trans ?_
  rw [hkey]
  rfl

end Awaiting

/-! Whole values. The nesting outside of a value is none of its business, so that the statement for
a list or an object follows from those for its parts. -/

/-- Scanning goes on behind the text, wherever it stands. -/
def Skips (text : String) : Prop :=
  ∀ (nesting : List Nesting) (blanks : String) (rest : Bytes), IsBlanks blanks → Delimited rest →
    skipFrom .awaiting nesting (Bytes.ofString blanks ++ (Bytes.ofString text ++ rest)) =
      skipFrom .ended nesting rest

theorem skipFrom_items {items : List String} {s : String} (h : Separated id items s)
    (hitems : ∀ item ∈ items, Skips item) (nesting : List Nesting) (rest : Bytes) :
    skipFrom .awaiting (.list :: nesting) (Bytes.ofString s ++ Ascii.closeList :: rest) =
      skipFrom .ended nesting rest := by
  induction h with
  | @single item before after hbefore hafter =>
    have hdelimited : Delimited (Bytes.ofString after ++ Ascii.closeList :: rest) :=
      delimited_append hafter (by decide) rest
    have hskips := hitems item List.mem_cons_self (.list :: nesting) before _ hbefore hdelimited
    rw [Bytes.ofString_append, Bytes.ofString_append, List.append_assoc, List.append_assoc]
    exact hskips.trans (skipFrom_list_close hafter rest)
  | @cons item items before after s hbefore hafter _ ih =>
    have hrun := ih fun other hother => hitems other (List.mem_cons_of_mem item hother)
    have hdelimited : Delimited (Bytes.ofString after ++ Ascii.comma ::
        (Bytes.ofString s ++ Ascii.closeList :: rest)) := delimited_append hafter (by decide) _
    have hskips := hitems item List.mem_cons_self (.list :: nesting) before _ hbefore hdelimited
    simp only [Bytes.ofString_append, List.append_assoc]
    exact hskips.trans ((skipFrom_list_comma hafter _).trans hrun)

theorem skipKey_member {m : Member} {blanks : String} (hblanks : IsBlanks blanks)
    (hkey : IsContent m.key) (s : Bytes) :
    skipKey (Bytes.ofString blanks ++ (Bytes.ofString m.text ++ s)) =
      .ok (Bytes.ofString m.afterColon ++ (Bytes.ofString m.value ++ s)) := by
  simp only [Member.text, Bytes.ofString_append, List.append_assoc]
  show skipKey (Bytes.ofString blanks ++ Ascii.quote :: _) = _
  rw [skipKey, skipBlanks_eq hblanks rfl]
  refine (if_pos rfl).trans ?_
  show skipText (Bytes.ofString m.key ++ Ascii.quote :: _) >>= takeColon = _
  rw [skipText_content hkey]
  exact takeColon_eq m.isBlanks_beforeColon _

theorem skipFrom_members {members : List Member} {s : String}
    (h : Separated Member.text members s) (hkeys : ∀ m ∈ members, IsContent m.key)
    (hvalues : ∀ m ∈ members, Skips m.value) (nesting : List Nesting) (rest : Bytes) :
    ∃ r, skipKey (Bytes.ofString s ++ Ascii.closeObject :: rest) = .ok r ∧
      skipFrom .awaiting (.object :: nesting) r = skipFrom .ended nesting rest := by
  induction h with
  | @single m before after hbefore hafter =>
    have hdelimited : Delimited (Bytes.ofString after ++ Ascii.closeObject :: rest) :=
      delimited_append hafter (by decide) rest
    have hskips := hvalues m List.mem_cons_self (.object :: nesting) m.afterColon _
      m.isBlanks_afterColon hdelimited
    refine ⟨_, ?_, hskips.trans (skipFrom_object_close hafter rest)⟩
    rw [Bytes.ofString_append, Bytes.ofString_append, List.append_assoc, List.append_assoc]
    exact skipKey_member hbefore (hkeys m List.mem_cons_self) _
  | @cons m members before after s hbefore hafter _ ih =>
    obtain ⟨r, hkey, hrun⟩ := ih
      (fun other hother => hkeys other (List.mem_cons_of_mem m hother))
      (fun other hother => hvalues other (List.mem_cons_of_mem m hother))
    have hdelimited : Delimited (Bytes.ofString after ++ Ascii.comma ::
        (Bytes.ofString s ++ Ascii.closeObject :: rest)) := delimited_append hafter (by decide) _
    have hskips := hvalues m List.mem_cons_self (.object :: nesting) m.afterColon _
      m.isBlanks_afterColon hdelimited
    refine ⟨_, ?_, hskips.trans ((skipFrom_object_comma hafter hkey).trans hrun)⟩
    simp only [Bytes.ofString_append, List.append_assoc]
    exact skipKey_member hbefore (hkeys m List.mem_cons_self) _

theorem isScalar_word {s : String} (h : s ∈ ["null", "true", "false"]) : IsScalar s :=
  fun rest _ => skipScalar_word h rest

theorem isScalar_number {s : String} (h : IsNumber s) : IsScalar s :=
  fun _ hrest => skipScalar_number h hrest

theorem isScalar_text {s : String} (h : IsContent s) : IsScalar ("\"" ++ (s ++ "\"")) :=
  fun rest _ => skipScalar_text h rest

theorem exists_first_of_enclosed {α : Type} {opening closing : String} {text : α → String}
    {parts : List α} {s : String} (h : Enclosed opening closing text parts s) :
    ∃ behind, s = opening ++ behind := by
  cases h with
  | empty => exact ⟨_, rfl⟩
  | parts => exact ⟨_, rfl⟩

theorem exists_first_of_isValue {text : String} (h : IsValue text) :
    ∃ b t, Bytes.ofString text = b :: t ∧ Ascii.isBlank b = false ∧ b ≠ Ascii.closeList := by
  have hscalar : IsScalar text →
      ∃ b t, Bytes.ofString text = b :: t ∧ Ascii.isBlank b = false ∧ b ≠ Ascii.closeList := by
    intro hscalar
    obtain ⟨b, t, hcons, hblank, -, -, hclose⟩ := hscalar.exists_cons
    exact ⟨b, t, hcons, hblank, hclose⟩
  cases h with
  | word h => exact hscalar (isScalar_word h)
  | number h => exact hscalar (isScalar_number h)
  | text h => exact hscalar (isScalar_text h)
  | list h =>
    obtain ⟨behind, rfl⟩ := exists_first_of_enclosed h
    exact ⟨Ascii.openList, Bytes.ofString behind, Bytes.ofString_append _ _, rfl, by decide⟩
  | object h =>
    obtain ⟨behind, rfl⟩ := exists_first_of_enclosed h
    exact ⟨Ascii.openObject, Bytes.ofString behind, Bytes.ofString_append _ _, rfl, by decide⟩

theorem skips_list {items : List String} {s : String} (h : Enclosed "[" "]" id items s)
    (hvalues : ∀ item ∈ items, IsValue item) (hitems : ∀ item ∈ items, Skips item) : Skips s := by
  intro nesting blanks rest hblanks _
  cases h with
  | @empty inner hinner =>
    simp only [Bytes.ofString_append, List.append_assoc]
    exact skipFrom_list_empty hblanks hinner rest
  | parts h =>
    obtain ⟨before, item, behind, hbefore, hmem, rfl, htrimmed⟩ := h.exists_first
    obtain ⟨b, t, hcons, hblank, hclose⟩ := exists_first_of_isValue (hvalues item hmem)
    have hrun := skipFrom_items htrimmed hitems nesting rest
    simp only [id, Bytes.ofString_append, List.append_assoc, hcons, List.cons_append] at hrun ⊢
    exact (skipFrom_list_open hblanks hbefore hblank hclose _).trans hrun

theorem skips_object {members : List Member} {s : String}
    (h : Enclosed "\x7b" "\x7d" Member.text members s) (hkeys : ∀ m ∈ members, IsContent m.key)
    (hvalues : ∀ m ∈ members, Skips m.value) : Skips s := by
  intro nesting blanks rest hblanks _
  cases h with
  | @empty inner hinner =>
    simp only [Bytes.ofString_append, List.append_assoc]
    exact skipFrom_object_empty hblanks hinner rest
  | parts h =>
    obtain ⟨before, m, behind, hbefore, -, rfl, htrimmed⟩ := h.exists_first
    obtain ⟨r, hkey, hrun⟩ := skipFrom_members htrimmed hkeys hvalues nesting rest
    simp only [Member.text, Bytes.ofString_append, List.append_assoc] at hkey ⊢
    exact (skipFrom_object_open hblanks hbefore hkey).trans hrun

theorem skips_of_isValue {text : String} (h : IsValue text) : Skips text := by
  induction h with
  | word h => exact fun _ _ _ hblanks hrest => skipFrom_scalar (isScalar_word h) hblanks hrest
  | number h => exact fun _ _ _ hblanks hrest => skipFrom_scalar (isScalar_number h) hblanks hrest
  | text h => exact fun _ _ _ hblanks hrest => skipFrom_scalar (isScalar_text h) hblanks hrest
  | list h hvalues ih => exact skips_list h hvalues ih
  | object h hkeys _ ih => exact skips_object h hkeys ih

theorem skipValue_eq {text blanks : String} (h : IsValue text) (hblanks : IsBlanks blanks)
    (hrest : Delimited rest) :
    skipValue (Bytes.ofString blanks ++ (Bytes.ofString text ++ rest)) = .ok rest := by
  rw [skipValue, skips_of_isValue h [] blanks rest hblanks hrest, skipFrom]
  rfl

end Atari6502.Settings.Scan
