import FrontendPolicy.Json.Fault

/-!
# String literals in a JSON text

What stands between two double quotes. An escape may spell half of a character only, so that
`readEscape` has to look for the other half. `readText` gives the text that a literal denotes, and
`skipText` passes over a literal without asking whether its surrogates pair up.

Each function starts after the opening quote or the backslash, and each one that succeeds leaves
less of the text than it was given.
-/

namespace FrontendPolicy.Json

/-! ## Escapes -/

/-- The character that a backslash and one letter spell. -/
def letterEscape? (c : Char) : Option Char :=
  if c = '"' then some '"'
  else if c = '\\' then some '\\'
  else if c = '/' then some '/'
  else if c = 'b' then some '\x08'
  else if c = 'f' then some '\x0c'
  else if c = 'n' then some '\n'
  else if c = 'r' then some '\r'
  else if c = 't' then some '\t'
  else none

/-- The value of a hexadecimal digit. -/
def hexDigit? (c : Char) : Option Nat :=
  if '0' ≤ c ∧ c ≤ '9' then some (c.toNat - '0'.toNat)
  else if 'a' ≤ c ∧ c ≤ 'f' then some (c.toNat - 'a'.toNat + 10)
  else if 'A' ≤ c ∧ c ≤ 'F' then some (c.toNat - 'A'.toNat + 10)
  else none

/-- The number that four hexadecimal digits spell. -/
def hexUnit? (a b c d : Char) : Option Nat := do
  let a ← hexDigit? a
  let b ← hexDigit? b
  let c ← hexDigit? c
  let d ← hexDigit? d
  some (a * 0x1000 + b * 0x100 + c * 0x10 + d)

/-- What is wrong where four hexadecimal digits are missing. Four bytes are taken in any case. -/
def badUnit (cs : List Char) : Failure :=
  if (Text.encode (cs.take 4)).length < 4 then failHere .endInText []
  else .placed .badEscape ⟨cs, 4⟩

/-- The number that the next four characters spell. -/
def readUnit (cs : List Char) : Except Failure (Nat × List Char) :=
  match cs with
  | a :: b :: c :: d :: rest =>
    match hexUnit? a b c d with
    | some n => .ok (n, rest)
    | none => .error (badUnit cs)
  | _ => .error (badUnit cs)

/-- The first halves of surrogate pairs. -/
def isHighSurrogate (n : Nat) : Bool := 0xD800 ≤ n && n ≤ 0xDBFF

/-- The second halves of surrogate pairs. -/
def isLowSurrogate (n : Nat) : Bool := 0xDC00 ≤ n && n ≤ 0xDFFF

/-- The character of a surrogate pair. -/
def pairChar (high low : Nat) : Char :=
  Char.ofNat (0x10000 + (high - 0xD800) * 0x400 + (low - 0xDC00))

/-- The second half of the pair that the surrogate `high` begins. -/
def readPair (high : Nat) (cs : List Char) : Except Failure (Char × List Char) :=
  match cs with
  | '\\' :: 'u' :: rest =>
    match readUnit rest with
    | .error f => .error f
    | .ok (low, rest') =>
      if isLowSurrogate low then .ok (pairChar high low, rest')
      else .error (failHere .unpairedSurrogate rest')
  | [] => .error (failHere .endInText [])
  | ['\\'] => .error (failHere .endInText [])
  | '\\' :: rest => .error (failNext .missingSurrogate rest)
  | _ => .error (failNext .missingSurrogate cs)

/-- The character that the escape at the front spells. -/
def readEscape (cs : List Char) : Except Failure (Char × List Char) :=
  match cs with
  | [] => .error (failHere .endInText [])
  | c :: rest =>
    if c = 'u' then
      match readUnit rest with
      | .error f => .error f
      | .ok (n, rest') =>
        if isLowSurrogate n then .error (failHere .unpairedSurrogate rest')
        else if isHighSurrogate n then readPair n rest'
        else .ok (Char.ofNat n, rest')
    else
      match letterEscape? c with
      | some d => .ok (d, rest)
      | none => .error (failNext .badEscape cs)

/-- Passes over the escape at the front. -/
def skipEscape (cs : List Char) : Except Failure (List Char) :=
  match cs with
  | [] => .error (failHere .endInText [])
  | c :: rest =>
    if c = 'u' then
      match readUnit rest with
      | .error f => .error f
      | .ok (_, rest') => .ok rest'
    else
      match letterEscape? c with
      | some _ => .ok rest
      | none => .error (failNext .badEscape cs)

theorem length_of_readUnit {cs rest : List Char} {n : Nat} (h : readUnit cs = .ok (n, rest)) :
    rest.length < cs.length := by
  unfold readUnit at h
  split at h
  · split at h
    · simp only [Except.ok.injEq, Prod.mk.injEq] at h
      rw [← h.2]
      simp only [List.length_cons]
      omega
    · simp at h
  · simp at h

theorem length_of_readPair {n : Nat} {cs rest : List Char} {c : Char}
    (h : readPair n cs = .ok (c, rest)) : rest.length < cs.length := by
  unfold readPair at h
  split at h
  · split at h
    · simp at h
    · rename_i hu
      split at h
      · simp only [Except.ok.injEq, Prod.mk.injEq] at h
        have := length_of_readUnit hu
        rw [← h.2]
        simp only [List.length_cons]
        omega
      · simp at h
  all_goals simp at h

/-- An escape has at least one character. -/
theorem length_of_readEscape {cs rest : List Char} {c : Char}
    (h : readEscape cs = .ok (c, rest)) : rest.length < cs.length := by
  unfold readEscape at h
  split at h
  · simp at h
  · split at h
    · split at h
      · simp at h
      · rename_i hu
        have := length_of_readUnit hu
        split at h
        · simp at h
        · split at h
          · have := length_of_readPair h
            simp only [List.length_cons]
            omega
          · simp only [Except.ok.injEq, Prod.mk.injEq] at h
            rw [← h.2, List.length_cons]
            omega
    · split at h
      · simp only [Except.ok.injEq, Prod.mk.injEq] at h
        rw [← h.2]
        exact Nat.lt_succ_self _
      · simp at h

theorem length_of_skipEscape {cs rest : List Char} (h : skipEscape cs = .ok rest) :
    rest.length < cs.length := by
  unfold skipEscape at h
  split at h
  · simp at h
  · split at h
    · split at h
      · simp at h
      · rename_i hu
        have := length_of_readUnit hu
        simp only [Except.ok.injEq] at h
        rw [← h, List.length_cons]
        omega
    · split at h
      · simp only [Except.ok.injEq] at h
        rw [← h]
        exact Nat.lt_succ_self _
      · simp at h

/-! ## Literals -/

/-- The characters that must be escaped in a literal. -/
def isControl (c : Char) : Bool := c.toNat < 0x20

/-- The rest of a literal, up to and with its closing quote. `done` is what was read so far, the
last character first. -/
def readText (done : List Char) (cs : List Char) : Except Failure (String × List Char) :=
  match cs with
  | [] => .error (failHere .endInText [])
  | c :: rest =>
    if c = '"' then .ok (String.ofList done.reverse, rest)
    else if c = '\\' then
      match _h : readEscape rest with
      | .error f => .error f
      | .ok (d, rest') => readText (d :: done) rest'
    else if isControl c then .error (failNext .controlCharacter cs)
    else readText (c :: done) rest
termination_by cs.length
decreasing_by
  · exact Nat.lt_succ_of_lt (length_of_readEscape _h)
  · exact Nat.lt_succ_self _

/-- Passes over the rest of a literal. -/
def skipText (cs : List Char) : Except Failure (List Char) :=
  match cs with
  | [] => .error (failHere .endInText [])
  | c :: rest =>
    if c = '"' then .ok rest
    else if c = '\\' then
      match _h : skipEscape rest with
      | .error f => .error f
      | .ok rest' => skipText rest'
    else if isControl c then .error (failHere .controlCharacter cs)
    else skipText rest
termination_by cs.length
decreasing_by
  · exact Nat.lt_succ_of_lt (length_of_skipEscape _h)
  · exact Nat.lt_succ_self _

/-- A literal ends with a quote. -/
theorem length_of_readText {done cs rest : List Char} {s : String}
    (h : readText done cs = .ok (s, rest)) : rest.length < cs.length := by
  fun_induction readText done cs with
  | case1 => simp at h
  | case2 =>
    simp only [Except.ok.injEq, Prod.mk.injEq] at h
    rw [← h.2]
    exact Nat.lt_succ_self _
  | case3 => simp at h
  | case4 _ _ _ _ he _ ih =>
    have := ih h
    have := length_of_readEscape he
    simp only [List.length_cons]
    omega
  | case5 => simp at h
  | case6 done c tail _ _ _ ih => exact Nat.lt_succ_of_lt (ih h)

theorem length_of_skipText {cs rest : List Char} (h : skipText cs = .ok rest) :
    rest.length < cs.length := by
  fun_induction skipText cs with
  | case1 => simp at h
  | case2 =>
    simp only [Except.ok.injEq] at h
    rw [← h]
    exact Nat.lt_succ_self _
  | case3 => simp at h
  | case4 _ _ he _ ih =>
    have := ih h
    have := length_of_skipEscape he
    simp only [List.length_cons]
    omega
  | case5 => simp at h
  | case6 c tail _ _ _ ih => exact Nat.lt_succ_of_lt (ih h)

end FrontendPolicy.Json
