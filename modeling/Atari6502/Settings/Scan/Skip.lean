import Atari6502.Settings.Scan.Number
import Atari6502.Settings.Scan.Text

/-! Passing over values of any kind and depth. -/
namespace Atari6502.Settings.Scan

/-- What a value stands in. -/
inductive Nesting where
  | list
  | object
deriving DecidableEq, Repr

/-- A value comes next, or has just ended. -/
inductive Phase where
  | awaiting
  | ended
deriving DecidableEq, Repr

/-- Passes over a value that is neither a list nor an object. -/
def skipScalar : Bytes → Except Stop Bytes
  | [] => .error (.behind .endInValue [])
  | b :: s =>
    if b = Ascii.lowerN then word (Bytes.ofString "ull") s
    else if b = Ascii.lowerT then word (Bytes.ofString "rue") s
    else if b = Ascii.lowerF then word (Bytes.ofString "alse") s
    else if b = Ascii.minus then skipUnsigned s
    else if Ascii.isDigit b then skipUnsigned (b :: s)
    else if b = Ascii.quote then skipText s
    else .error (.behind .expectedValue (b :: s))

/-- Takes the colon between a key and its value. -/
def takeColon (s : Bytes) : Except Stop Bytes :=
  match skipBlanks s with
  | [] => .error (.behind .endInObject [])
  | b :: r => if b = Ascii.colon then .ok r else .error (.behind .expectedColon (b :: r))

/-- Passes over a key and its colon. -/
def skipKey (s : Bytes) : Except Stop Bytes :=
  match skipBlanks s with
  | [] => .error (.behind .endInObject [])
  | b :: r =>
    if b = Ascii.quote then skipText r >>= takeColon
    else .error (.behind .keyNotString (b :: r))

theorem length_skipScalar_lt {s r : Bytes} (h : skipScalar s = .ok r) : r.length < s.length := by
  unfold skipScalar at h
  cases s with
  | nil => cases h
  | cons b s =>
    dsimp only at h
    split at h
    · exact Nat.lt_succ_of_le (length_word_le h)
    split at h
    · exact Nat.lt_succ_of_le (length_word_le h)
    split at h
    · exact Nat.lt_succ_of_le (length_word_le h)
    split at h
    · exact Nat.lt_succ_of_lt (length_skipUnsigned_lt h)
    split at h
    · exact length_skipUnsigned_lt h
    split at h
    · exact Nat.lt_succ_of_lt (length_skipText_lt h)
    · cases h

theorem length_takeColon_lt {s r : Bytes} (h : takeColon s = .ok r) : r.length < s.length := by
  unfold takeColon at h
  cases hblanks : skipBlanks s with
  | nil =>
    rw [hblanks] at h
    cases h
  | cons b t =>
    rw [hblanks] at h
    dsimp only at h
    split at h
    · cases h
      exact length_lt_of_skipBlanks hblanks
    · cases h

theorem length_skipKey_lt {s r : Bytes} (h : skipKey s = .ok r) : r.length < s.length := by
  unfold skipKey at h
  cases hblanks : skipBlanks s with
  | nil =>
    rw [hblanks] at h
    cases h
  | cons b t =>
    have hlt := length_lt_of_skipBlanks hblanks
    rw [hblanks] at h
    dsimp only at h
    split at h
    · obtain ⟨rest, htext, hcolon⟩ := exists_of_bind_eq_ok h
      have htext := length_skipText_lt htext
      have hcolon := length_takeColon_lt hcolon
      omega
    · cases h

/-- One step: takes a scalar, a bracket, or a comma with the key that follows it. The result is none
when the outermost value has ended. -/
def skipStep (phase : Phase) (nesting : List Nesting) (s : Bytes) :
    Except Stop (Option (Phase × List Nesting × Bytes)) :=
  match phase, nesting with
  | .ended, [] => .ok none
  | .awaiting, _ =>
    match skipBlanks s with
    | [] => .error (.behind .endInValue [])
    | b :: r =>
      if b = Ascii.openList then
        match skipBlanks r with
        | [] => .error (.behind .endInList [])
        | c :: t =>
          if c = Ascii.closeList then .ok (some (.ended, nesting, t))
          else .ok (some (.awaiting, .list :: nesting, c :: t))
      else if b = Ascii.openObject then
        match skipBlanks r with
        | [] => .error (.behind .endInObject [])
        | c :: t =>
          if c = Ascii.closeObject then .ok (some (.ended, nesting, t))
          else do return some (.awaiting, .object :: nesting, ← skipKey (c :: t))
      else do return some (.ended, nesting, ← skipScalar (b :: r))
  | .ended, .list :: outer =>
    match skipBlanks s with
    | [] => .error (.behind .endInList [])
    | b :: r =>
      if b = Ascii.comma then .ok (some (.awaiting, nesting, r))
      else if b = Ascii.closeList then .ok (some (.ended, outer, r))
      else .error (.behind .expectedCommaOrListEnd (b :: r))
  | .ended, .object :: outer =>
    match skipBlanks s with
    | [] => .error (.behind .endInObject [])
    | b :: r =>
      if b = Ascii.comma then do return some (.awaiting, nesting, ← skipKey r)
      else if b = Ascii.closeObject then .ok (some (.ended, outer, r))
      else .error (.behind .expectedCommaOrObjectEnd (b :: r))

/-- A step that ends with another scanner leaves what that one leaves. -/
theorem eq_ok_of_bind_pure {first : Except Stop Bytes} {phase phase' : Phase}
    {nesting nesting' : List Nesting} {r : Bytes}
    (h : (do return some (phase, nesting, ← first)) = Except.ok (some (phase', nesting', r))) :
    first = .ok r := by
  obtain ⟨t, hfirst, hpure⟩ := exists_of_bind_eq_ok h
  cases hpure
  exact hfirst

theorem length_skipStep_lt {phase phase' : Phase} {nesting nesting' : List Nesting} {s r : Bytes}
    (h : skipStep phase nesting s = .ok (some (phase', nesting', r))) : r.length < s.length := by
  unfold skipStep at h
  cases hblanks : skipBlanks s with
  | nil =>
    simp only [hblanks] at h
    split at h <;> cases h
  | cons b t =>
    have hlt := length_lt_of_skipBlanks hblanks
    simp only [hblanks] at h
    split at h
    · cases h
    · -- A list or an object opens, or a scalar is passed over.
      split at h
      · cases hinner : skipBlanks t with
        | nil =>
          rw [hinner] at h
          cases h
        | cons c u =>
          have hinner' := length_lt_of_skipBlanks hinner
          rw [hinner] at h
          dsimp only at h
          split at h
          · cases h
            omega
          · cases h
            rw [List.length_cons]
            omega
      split at h
      · cases hinner : skipBlanks t with
        | nil =>
          rw [hinner] at h
          cases h
        | cons c u =>
          have hinner' := length_lt_of_skipBlanks hinner
          rw [hinner] at h
          dsimp only at h
          split at h
          · cases h
            omega
          · have hkey := length_skipKey_lt (eq_ok_of_bind_pure h)
            rw [List.length_cons] at hkey
            omega
      · have hscalar := length_skipScalar_lt (eq_ok_of_bind_pure h)
        rw [List.length_cons] at hscalar
        omega
    · split at h
      · cases h
        exact hlt
      split at h
      · cases h
        exact hlt
      · cases h
    · split at h
      · exact Nat.lt_trans (length_skipKey_lt (eq_ok_of_bind_pure h)) hlt
      split at h
      · cases h
        exact hlt
      · cases h

/-- Passes over the rest of a value that is read up to `phase` inside of `nesting`. -/
def skipFrom (phase : Phase) (nesting : List Nesting) (s : Bytes) : Except Stop Bytes :=
  match _h : skipStep phase nesting s with
  | .error stop => .error stop
  | .ok none => .ok s
  | .ok (some (phase, nesting, r)) => skipFrom phase nesting r
termination_by s.length
decreasing_by exact length_skipStep_lt _h

/-- Passes over a value. -/
def skipValue (s : Bytes) : Except Stop Bytes :=
  skipFrom .awaiting [] s

theorem length_skipFrom_le {phase : Phase} {nesting : List Nesting} {s r : Bytes}
    (h : skipFrom phase nesting s = .ok r) : r.length ≤ s.length := by
  fun_induction skipFrom phase nesting s with
  | case1 => cases h
  | case2 =>
    cases h
    exact Nat.le_refl _
  | case3 phase nesting s phase' nesting' rest hstep ih =>
    exact Nat.le_of_lt (Nat.lt_of_le_of_lt (ih h) (length_skipStep_lt hstep))

theorem length_skipValue_le {s r : Bytes} (h : skipValue s = .ok r) : r.length ≤ s.length :=
  length_skipFrom_le h

end Atari6502.Settings.Scan
