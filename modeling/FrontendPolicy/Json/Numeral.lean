import FrontendPolicy.Json.Fault

/-!
# Numbers in a JSON text

A number is scanned as its digits (`Numeral`) and then weighed (`Numeral.amount`). Its value is an
integer of 64 bits where the numeral is one and fits, and otherwise a double, computed from as many
digits as fit 64 bits and a power of ten. A number too large for a double is refused.
-/

namespace FrontendPolicy.Json

/-! ## Scanning -/

/-- The digits of a number. -/
structure Numeral where
  negative : Bool
  whole : List Nat
  fraction : List Nat
  exponent : Option (Bool × List Nat)
deriving DecidableEq, Repr

/-- The digits at the front of a text. -/
def leadingDigits (cs : List Char) : List Nat :=
  (cs.takeWhile Char.isDigit).map fun c => c.toNat - '0'.toNat

/-- A text without the digits at its front. -/
def dropDigits (cs : List Char) : List Char := cs.dropWhile Char.isDigit

/-- Whether a text starts with a digit. -/
def startsWithDigit : List Char → Bool
  | [] => false
  | c :: _ => c.isDigit

theorem length_dropDigits_le (cs : List Char) : (dropDigits cs).length ≤ cs.length :=
  (List.dropWhile_suffix _).length_le

/-- One digit or more. Nothing else may stand here, and the end of the text is reported with the
cause that the caller gives. -/
def scanDigits (cutShort : Cause) (cs : List Char) : Except Failure (List Nat × List Char) :=
  match cs with
  | [] => .error (failNext cutShort [])
  | c :: rest =>
    if c.isDigit then .ok (leadingDigits (c :: rest), dropDigits rest)
    else .error (failNext .badNumber (c :: rest))

/-- The digits before the point. A zero stands alone. -/
def scanWhole (cutShort : Cause) (cs : List Char) : Except Failure (List Nat × List Char) :=
  match cs with
  | '0' :: rest =>
    if startsWithDigit rest then .error (failNext .badNumber rest) else .ok ([0], rest)
  | _ => scanDigits cutShort cs

/-- The digits after the point, none if there is no point. -/
def scanFraction (cutShort : Cause) (cs : List Char) : Except Failure (List Nat × List Char) :=
  match cs with
  | '.' :: rest => scanDigits cutShort rest
  | _ => .ok ([], cs)

/-- The sign of an exponent and what follows it. -/
def splitSign (cs : List Char) : Bool × List Char :=
  match cs with
  | '-' :: rest => (true, rest)
  | '+' :: rest => (false, rest)
  | _ => (false, cs)

/-- The exponent, if there is one. -/
def scanExponent (cutShort : Cause) (cs : List Char) :
    Except Failure (Option (Bool × List Nat) × List Char) :=
  match cs with
  | c :: rest =>
    if c = 'e' || c = 'E' then
      match scanDigits cutShort (splitSign rest).2 with
      | .error f => .error f
      | .ok (digits, rest') => .ok (some ((splitSign rest).1, digits), rest')
    else .ok (none, c :: rest)
  | [] => .ok (none, [])

/-- The number at the front of a text, after its sign. -/
def scanUnsigned (cutShort : Cause) (negative : Bool) (cs : List Char) :
    Except Failure (Numeral × List Char) :=
  match scanWhole cutShort cs with
  | .error f => .error f
  | .ok (whole, rest₁) =>
    match scanFraction cutShort rest₁ with
    | .error f => .error f
    | .ok (fraction, rest₂) =>
      match scanExponent cutShort rest₂ with
      | .error f => .error f
      | .ok (exponent, rest₃) => .ok (⟨negative, whole, fraction, exponent⟩, rest₃)

/-- The number at the front of a text. -/
def scanNumeral (cutShort : Cause) (cs : List Char) : Except Failure (Numeral × List Char) :=
  match cs with
  | '-' :: rest => scanUnsigned cutShort true rest
  | _ => scanUnsigned cutShort false cs

theorem length_of_scanDigits {e : Cause} {cs rest : List Char} {ds : List Nat}
    (h : scanDigits e cs = .ok (ds, rest)) : rest.length < cs.length := by
  unfold scanDigits at h
  split at h
  · simp at h
  · split at h
    · simp only [Except.ok.injEq, Prod.mk.injEq] at h
      rw [← h.2]
      exact Nat.lt_succ_of_le (length_dropDigits_le _)
    · simp at h

theorem length_of_scanWhole {e : Cause} {cs rest : List Char} {ds : List Nat}
    (h : scanWhole e cs = .ok (ds, rest)) : rest.length < cs.length := by
  unfold scanWhole at h
  split at h
  · split at h
    · simp at h
    · simp only [Except.ok.injEq, Prod.mk.injEq] at h
      rw [← h.2]
      exact Nat.lt_succ_self _
  · exact length_of_scanDigits h

theorem length_of_scanFraction {e : Cause} {cs rest : List Char} {ds : List Nat}
    (h : scanFraction e cs = .ok (ds, rest)) : rest.length ≤ cs.length := by
  unfold scanFraction at h
  split at h
  · exact Nat.le_succ_of_le (Nat.le_of_lt (length_of_scanDigits h))
  · simp only [Except.ok.injEq, Prod.mk.injEq] at h
    exact Nat.le_of_eq (congrArg List.length h.2.symm)

theorem length_splitSign_le (cs : List Char) : (splitSign cs).2.length ≤ cs.length := by
  unfold splitSign
  split <;> simp

theorem length_of_scanExponent {e : Cause} {cs rest : List Char} {x : Option (Bool × List Nat)}
    (h : scanExponent e cs = .ok (x, rest)) : rest.length ≤ cs.length := by
  unfold scanExponent at h
  split at h
  · rename_i c tail
    split at h
    · split at h
      · simp at h
      · rename_i hd
        simp only [Except.ok.injEq, Prod.mk.injEq] at h
        have h1 := length_of_scanDigits hd
        have h2 := length_splitSign_le tail
        rw [← h.2, List.length_cons]
        omega
    · simp only [Except.ok.injEq, Prod.mk.injEq] at h
      exact Nat.le_of_eq (congrArg List.length h.2.symm)
  · simp only [Except.ok.injEq, Prod.mk.injEq] at h
    exact Nat.le_of_eq (congrArg List.length h.2.symm)

theorem length_of_scanUnsigned {e : Cause} {b : Bool} {cs rest : List Char} {n : Numeral}
    (h : scanUnsigned e b cs = .ok (n, rest)) : rest.length < cs.length := by
  unfold scanUnsigned at h
  split at h
  · simp at h
  · rename_i h₁
    split at h
    · simp at h
    · rename_i h₂
      split at h
      · simp at h
      · rename_i h₃
        simp only [Except.ok.injEq, Prod.mk.injEq] at h
        have := length_of_scanWhole h₁
        have := length_of_scanFraction h₂
        have := length_of_scanExponent h₃
        rw [← h.2]
        omega

/-- A number has at least one digit. -/
theorem length_of_scanNumeral {e : Cause} {cs rest : List Char} {n : Numeral}
    (h : scanNumeral e cs = .ok (n, rest)) : rest.length < cs.length := by
  unfold scanNumeral at h
  split at h
  · exact Nat.lt_succ_of_lt (length_of_scanUnsigned h)
  · exact length_of_scanUnsigned h

/-! ## Weighing -/

/-- The largest significand, all ones in 64 bits. -/
def maxSignificand : Nat := 0xFFFFFFFFFFFFFFFF

/-- The size of the smallest signed integer of 64 bits. -/
def maxNegative : Nat := 0x8000000000000000

/-- The largest power of ten that an exponent may state, all ones in 31 bits. -/
def maxExponent : Nat := 0x7FFFFFFF

/-- Appends digits to a number while it stays within the limit. Also gives the digits that no
longer fit. -/
def absorb (limit : Nat) : Nat → List Nat → Nat × List Nat
  | value, [] => (value, [])
  | value, d :: ds =>
    if value * 10 + d ≤ limit then absorb limit (value * 10 + d) ds else (value, d :: ds)

/-- A power of ten as a double. -/
def powerOfTen (n : Nat) : Float := Float.ofScientific 1 false n

/-- Divides a double by a power of ten, in steps that a double can hold. -/
def scaleDown (x : Float) (n : Nat) : Float :=
  if n ≤ 308 then x / powerOfTen n
  else if x == 0 then x
  else scaleDown (x / powerOfTen 308) (n - 308)
termination_by n

/-- A double times a power of ten, if that is still finite. -/
def scale? (x : Float) : Int → Option Float
  | .ofNat n =>
    if n ≤ 308 then
      let y := x * powerOfTen n
      if y.isInf then none else some y
    else if x == 0 then some x
    else none
  | .negSucc n => some (scaleDown x (n + 1))

/-- A number that no double holds, with the count of its digits that were left when that became
known. -/
structure OutOfRange where
  unread : Nat

/-- The double of a significand and a power of ten. -/
def realAmount (negative : Bool) (significand : Nat) (power : Int) : Except OutOfRange Amount :=
  match scale? significand.toUInt64.toFloat power with
  | none => .error ⟨0⟩
  | some x => .ok (.real (Decimal.ofFloat (if negative then -x else x)))

/-- The value of an integer numeral. Zero with a sign and integers outside the signed 64-bit
range below zero are doubles. -/
def wholeAmount (negative : Bool) (significand : Nat) : Except OutOfRange Amount :=
  if !negative then .ok (.whole significand)
  else if significand = 0 || maxNegative < significand then realAmount true significand 0
  else .ok (.whole (-(significand : Int)))

/-- The value of a numeral. Digits that no longer fit the significand count as places before the
point and are dropped after it. -/
def Numeral.amount (n : Numeral) : Except OutOfRange Amount :=
  let (high, dropped) := absorb maxSignificand 0 n.whole
  let (significand, cut) := absorb maxSignificand high n.fraction
  let power : Int := dropped.length - (n.fraction.length - cut.length : Nat)
  match n.exponent with
  | none =>
    if dropped.isEmpty && n.fraction.isEmpty then wholeAmount n.negative significand
    else realAmount n.negative significand power
  | some (down, digits) =>
    match absorb maxExponent 0 digits with
    | (e, []) =>
      realAmount n.negative significand (if down then power - (e : Int) else power + (e : Int))
    | (_, _ :: unread) =>
      if significand ≠ 0 && !down then .error ⟨unread.length⟩
      else .ok (.real ⟨n.negative, [0], 0⟩)

/-- The number at the front of a text and its value. A number out of range is refused at the
digit that shows it. -/
def readAmount (cs : List Char) : Except Failure (Amount × List Char) :=
  match scanNumeral .endInValue cs with
  | .error f => .error f
  | .ok (n, rest) =>
    match n.amount with
    | .error e =>
      .error (failHere .numberOutOfRange (cs.drop (cs.length - rest.length - e.unread)))
    | .ok a => .ok (a, rest)

end FrontendPolicy.Json
