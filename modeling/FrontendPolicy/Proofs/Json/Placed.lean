import Mathlib.Tactic.SplitIfs
import FrontendPolicy.Json.Record

/-!
# Where a text is rejected

A failure inside a list or an object that is still loose takes its place when the bracket is left,
and tokens fail at a spot of the text to begin with. Records have brackets around them. So a
rejected record is rejected right after some bytes of the text, whatever its fields are
(`Reader.position_of_whole_record`).
-/

namespace FrontendPolicy.Json

variable {α β ρ : Type}

/-- Whether a failure has its place. -/
def Failure.isPlaced : Failure → Bool
  | .placed .. => true
  | .loose .. => false

/-- A result that is no failure, or one that has its place. -/
def FailsInPlace (r : Except Failure α) : Prop := ∀ f, r = .error f → f.isPlaced = true

theorem failsInPlace_ok (a : α) : FailsInPlace (.ok a) := by
  intro f h
  cases h

theorem failsInPlace_placed (cause : Cause) (spot : Spot) :
    FailsInPlace (.error (.placed cause spot) : Except Failure α) := by
  intro f h
  rw [← Except.error.inj h]
  rfl

theorem failsInPlace_here (cause : Cause) (rest : List Char) :
    FailsInPlace (.error (failHere cause rest) : Except Failure α) :=
  failsInPlace_placed cause _

theorem failsInPlace_next (cause : Cause) (rest : List Char) :
    FailsInPlace (.error (failNext cause rest) : Except Failure α) :=
  failsInPlace_placed cause _

/-- A failure that is handed on keeps its place. -/
theorem FailsInPlace.of_error {r : Except Failure α} {f : Failure} (h : FailsInPlace r)
    (hr : r = .error f) : FailsInPlace (.error f : Except Failure β) := by
  intro f' hf
  rw [← Except.error.inj hf]
  exact h f hr

/-! ## Tokens -/

theorem failsInPlace_scanWord (word cs : List Char) : FailsInPlace (scanWord word cs) := by
  fun_induction scanWord word cs with
  | case1 cs => exact failsInPlace_ok cs
  | case2 => exact failsInPlace_here _ _
  | case3 _ _ _ ih => exact ih
  | case4 => exact failsInPlace_next _ _

theorem failsInPlace_badUnit (cs : List Char) :
    FailsInPlace (.error (badUnit cs) : Except Failure α) := by
  unfold badUnit
  split
  · exact failsInPlace_here _ _
  · exact failsInPlace_placed _ _

theorem failsInPlace_readUnit (cs : List Char) : FailsInPlace (readUnit cs) := by
  unfold readUnit
  split
  · split
    · exact failsInPlace_ok _
    · exact failsInPlace_badUnit _
  · exact failsInPlace_badUnit _

theorem failsInPlace_readPair (high : Nat) (cs : List Char) :
    FailsInPlace (readPair high cs) := by
  unfold readPair
  split
  · split
    · rename_i hu
      exact (failsInPlace_readUnit _).of_error hu
    · split
      · exact failsInPlace_ok _
      · exact failsInPlace_here _ _
  · exact failsInPlace_here _ _
  · exact failsInPlace_here _ _
  · exact failsInPlace_next _ _
  · exact failsInPlace_next _ _

theorem failsInPlace_readEscape (cs : List Char) : FailsInPlace (readEscape cs) := by
  unfold readEscape
  split
  · exact failsInPlace_here _ _
  · split
    · split
      · rename_i hu
        exact (failsInPlace_readUnit _).of_error hu
      · split
        · exact failsInPlace_here _ _
        · split
          · exact failsInPlace_readPair _ _
          · exact failsInPlace_ok _
    · split
      · exact failsInPlace_ok _
      · exact failsInPlace_next _ _

theorem failsInPlace_readText (done cs : List Char) : FailsInPlace (readText done cs) := by
  fun_induction readText done cs with
  | case1 => exact failsInPlace_here _ _
  | case2 => exact failsInPlace_ok _
  | case3 _ _ _ he _ => exact (failsInPlace_readEscape _).of_error he
  | case4 _ _ _ _ _ _ ih => exact ih
  | case5 => exact failsInPlace_next _ _
  | case6 _ _ _ _ _ _ ih => exact ih

theorem failsInPlace_scanDigits (cutShort : Cause) (cs : List Char) :
    FailsInPlace (scanDigits cutShort cs) := by
  unfold scanDigits
  split
  · exact failsInPlace_next _ _
  · split
    · exact failsInPlace_ok _
    · exact failsInPlace_next _ _

theorem failsInPlace_scanWhole (cutShort : Cause) (cs : List Char) :
    FailsInPlace (scanWhole cutShort cs) := by
  unfold scanWhole
  split
  · split
    · exact failsInPlace_next _ _
    · exact failsInPlace_ok _
  · exact failsInPlace_scanDigits _ _

theorem failsInPlace_scanFraction (cutShort : Cause) (cs : List Char) :
    FailsInPlace (scanFraction cutShort cs) := by
  unfold scanFraction
  split
  · exact failsInPlace_scanDigits _ _
  · exact failsInPlace_ok _

theorem failsInPlace_scanExponent (cutShort : Cause) (cs : List Char) :
    FailsInPlace (scanExponent cutShort cs) := by
  unfold scanExponent
  split
  · split
    · split
      · rename_i hd
        exact (failsInPlace_scanDigits _ _).of_error hd
      · exact failsInPlace_ok _
    · exact failsInPlace_ok _
  · exact failsInPlace_ok _

theorem failsInPlace_scanUnsigned (cutShort : Cause) (negative : Bool) (cs : List Char) :
    FailsInPlace (scanUnsigned cutShort negative cs) := by
  unfold scanUnsigned
  split
  · rename_i hw
    exact (failsInPlace_scanWhole _ _).of_error hw
  · split
    · rename_i hf
      exact (failsInPlace_scanFraction _ _).of_error hf
    · split
      · rename_i he
        exact (failsInPlace_scanExponent _ _).of_error he
      · exact failsInPlace_ok _

theorem failsInPlace_readAmount (cs : List Char) : FailsInPlace (readAmount cs) := by
  unfold readAmount
  split
  · rename_i hn
    refine FailsInPlace.of_error ?_ hn
    unfold scanNumeral
    split <;> exact failsInPlace_scanUnsigned _ _ _
  · split
    · exact failsInPlace_here _ _
    · exact failsInPlace_ok _

/-! ## Values -/

theorem failsInPlace_wordMismatch (expected : String) (found : Found) (word cs : List Char) :
    FailsInPlace (.error (wordMismatch expected found word cs) : Except Failure α) := by
  unfold wordMismatch
  split
  · rename_i hw
    exact (failsInPlace_scanWord _ _).of_error hw
  · exact failsInPlace_here _ _

/-- A value of the wrong type is reported after it was read, or where it starts. -/
theorem failsInPlace_mismatch (expected : String) (cs : List Char) :
    FailsInPlace (.error (mismatch expected cs) : Except Failure α) := by
  unfold mismatch
  split
  · exact failsInPlace_next _ _
  -- One case for each character that a value may start with.
  · split_ifs
    · exact failsInPlace_wordMismatch _ _ _ _
    · exact failsInPlace_wordMismatch _ _ _ _
    · exact failsInPlace_wordMismatch _ _ _ _
    · split
      · rename_i ha
        exact (failsInPlace_readAmount _).of_error ha
      · exact failsInPlace_here _ _
    · split
      · rename_i ht
        exact (failsInPlace_readText _ _).of_error ht
      · exact failsInPlace_here _ _
    · exact failsInPlace_here _ _
    · exact failsInPlace_here _ _
    · exact failsInPlace_next _ _

/-- Leaving a list or an object gives a loose failure its place. -/
theorem failsInPlace_leave (bracket : Bracket) (r : Except Failure (α × List Char)) :
    FailsInPlace (leave bracket r) := by
  unfold leave
  split
  · split
    · exact failsInPlace_ok _
    · exact failsInPlace_next _ _
  · exact failsInPlace_placed _ _
  · exact failsInPlace_here _ _

/-- A record fails in place, whatever the readers of its fields do. -/
theorem failsInPlace_record (shape : Shape ρ) (cs : List Char) :
    FailsInPlace ((Reader.record shape).run cs) := by
  simp only [Reader.record]
  split
  · exact failsInPlace_leave _ _
  · exact failsInPlace_leave _ _
  · exact failsInPlace_mismatch _ _

/-! ## Rejections -/

theorem position_of_isPlaced {f : Failure} (h : f.isPlaced = true) (text : List Char) :
    ∃ n, (f.rejection text).position = some (.after ((Text.encode text).take n)) := by
  cases f with
  | placed cause spot => exact ⟨_, rfl⟩
  | loose cause rest => simp [Failure.isPlaced] at h

/-- A text that is rejected as a record is rejected right after some of its first bytes. -/
theorem Reader.position_of_whole_record {shape : Shape ρ} {text : String} {r : Rejection}
    (h : (Reader.record shape).whole text = .error r) :
    ∃ n, r.position = some (.after ((Text.encode text.toList).take n)) := by
  unfold Reader.whole at h
  split at h
  · rename_i f hr
    rw [← Except.error.inj h]
    exact position_of_isPlaced (failsInPlace_record shape _ f hr) _
  · split at h
    · simp at h
    · rw [← Except.error.inj h]
      exact position_of_isPlaced rfl _

end FrontendPolicy.Json
