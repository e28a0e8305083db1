import FrontendPolicy.Json.Fault

/-!
# Tokens between the values of a JSON text

Space, the words of JSON, and what stands between the parts of a list or an object. `nextElement`
and `nextKey` find where the next part starts, if there is one. `leave` is the way out, on which a
failure that is still loose is given its place.
-/

namespace FrontendPolicy.Json

/-! ## Space and words -/

/-- The characters that may stand between tokens. -/
def isSpace (c : Char) : Bool := c = ' ' || c = '\t' || c = '\n' || c = '\r'

/-- A text without the space at its front. -/
def skipSpace (cs : List Char) : List Char := cs.dropWhile isSpace

theorem length_skipSpace_le (cs : List Char) : (skipSpace cs).length ≤ cs.length :=
  (List.dropWhile_suffix _).length_le

/-- What follows a token is shorter than the text with the space before the token. -/
theorem length_of_skipSpace {cs rest : List Char} {c : Char} (h : skipSpace cs = c :: rest) :
    rest.length < cs.length := by
  have := length_skipSpace_le cs
  rw [h, List.length_cons] at this
  exact this

/-- Takes the letters of a word off a text. -/
def scanWord : List Char → List Char → Except Failure (List Char)
  | [], cs => .ok cs
  | _ :: _, [] => .error (failHere .endInValue [])
  | w :: word, c :: cs =>
    if c = w then scanWord word cs else .error (failNext .expectedWord (c :: cs))

theorem length_of_scanWord {word cs rest : List Char} (h : scanWord word cs = .ok rest) :
    rest.length ≤ cs.length := by
  fun_induction scanWord word cs with
  | case1 =>
    simp only [Except.ok.injEq] at h
    exact Nat.le_of_eq (congrArg List.length h.symm)
  | case2 => simp at h
  | case3 _ _ _ ih => exact Nat.le_succ_of_le (ih h)
  | case4 => simp at h

/-- Takes the letters of a word off a text, which then stands for the given value. -/
def readWord {α : Type} (value : α) (word cs : List Char) : Except Failure (α × List Char) :=
  match scanWord word cs with
  | .error f => .error f
  | .ok rest => .ok (value, rest)

theorem length_of_readWord {α : Type} {value a : α} {word cs rest : List Char}
    (h : readWord value word cs = .ok (a, rest)) : rest.length ≤ cs.length := by
  unfold readWord at h
  split at h
  · simp at h
  · rename_i hw
    simp only [Except.ok.injEq, Prod.mk.injEq] at h
    rw [← h.2]
    exact length_of_scanWord hw

/-! ## Parts of lists and objects -/

/-- Where the next element of a list starts, if the list does not end there. Every element but
the first follows a comma. -/
def nextElement (first : Bool) (cs : List Char) : Except Failure (Option (List Char)) :=
  match skipSpace cs with
  | [] => .error (failNext (.endInBracket .list) [])
  | c :: rest =>
    if c = ']' then .ok none
    else if first then .ok (some (c :: rest))
    else if c = ',' then
      match skipSpace rest with
      | [] => .error (failNext .endInValue [])
      | d :: rest' =>
        if d = ']' then .error (failNext .trailingComma (d :: rest'))
        else .ok (some (d :: rest'))
    else .error (failNext (.expectedCommaOrEnd .list) (c :: rest))

/-- The text after the opening quote of the next key of an object, if the object does not end
there. Every key but the first follows a comma. -/
def nextKey (first : Bool) (cs : List Char) : Except Failure (Option (List Char)) :=
  match skipSpace cs with
  | [] => .error (failNext (.endInBracket .object) [])
  | c :: rest =>
    if c = '\x7d' then .ok none
    else if first then
      if c = '"' then .ok (some rest) else .error (failNext .expectedKey (c :: rest))
    else if c = ',' then
      match skipSpace rest with
      | [] => .error (failNext .endInValue [])
      | d :: rest' =>
        if d = '"' then .ok (some rest')
        else if d = '\x7d' then .error (failNext .trailingComma (d :: rest'))
        else .error (failNext .expectedKey (d :: rest'))
    else .error (failNext (.expectedCommaOrEnd .object) (c :: rest))

/-- The text after the colon that follows a key. -/
def scanColon (cs : List Char) : Except Failure (List Char) :=
  match skipSpace cs with
  | [] => .error (failNext (.endInBracket .object) [])
  | c :: rest => if c = ':' then .ok rest else .error (failNext .expectedColon (c :: rest))

theorem length_of_nextElement {first : Bool} {cs rest : List Char}
    (h : nextElement first cs = .ok (some rest)) : rest.length ≤ cs.length := by
  unfold nextElement at h
  split at h
  · simp at h
  · rename_i c tail hs
    have h₁ := length_of_skipSpace hs
    split at h
    · simp at h
    · split at h
      · simp only [Except.ok.injEq, Option.some.injEq] at h
        rw [← h, List.length_cons]
        exact h₁
      · split at h
        · split at h
          · simp at h
          · rename_i hs'
            have h₂ := length_of_skipSpace hs'
            split at h
            · simp at h
            · simp only [Except.ok.injEq, Option.some.injEq] at h
              rw [← h, List.length_cons]
              omega
        · simp at h

theorem length_of_nextKey {first : Bool} {cs rest : List Char}
    (h : nextKey first cs = .ok (some rest)) : rest.length < cs.length := by
  unfold nextKey at h
  split at h
  · simp at h
  · rename_i hs
    have h₁ := length_of_skipSpace hs
    split at h
    · simp at h
    · split at h
      · split at h
        · simp only [Except.ok.injEq, Option.some.injEq] at h
          rw [← h]
          exact h₁
        · simp at h
      · split at h
        · split at h
          · simp at h
          · rename_i hs'
            have h₂ := length_of_skipSpace hs'
            split at h
            · simp only [Except.ok.injEq, Option.some.injEq] at h
              rw [← h]
              omega
            · split at h <;> simp at h
        · simp at h

theorem length_of_scanColon {cs rest : List Char} (h : scanColon cs = .ok rest) :
    rest.length < cs.length := by
  unfold scanColon at h
  split at h
  · simp at h
  · rename_i hs
    split at h
    · simp only [Except.ok.injEq] at h
      rw [← h]
      exact length_of_skipSpace hs
    · simp at h

/-! ## The end of lists and objects -/

/-- What follows the last part of a list or an object: what is left of the text, and what is
wrong unless the bracket is closed there. -/
def close (bracket : Bracket) (cs : List Char) : List Char × Option Cause :=
  match skipSpace cs with
  | [] => ([], some (.endInBracket bracket))
  | c :: rest =>
    if c = bracket.closer then (rest, none)
    else if c = ',' then
      match bracket with
      | .object => (c :: rest, some .trailingComma)
      | .list =>
        match skipSpace rest with
        | ']' :: rest' => (']' :: rest', some .trailingComma)
        | other => (other, some .trailingCharacters)
    else (c :: rest, some .trailingCharacters)

/-- Ends a list or an object whose parts gave this result. -/
def leave {α : Type} (bracket : Bracket) :
    Except Failure (α × List Char) → Except Failure (α × List Char)
  | .ok (a, rest) =>
    match close bracket rest with
    | (rest', none) => .ok (a, rest')
    | (rest', some cause) => .error (failNext cause rest')
  | .error (.placed cause spot) => .error (.placed cause spot)
  | .error (.loose cause rest) => .error (failHere cause (close bracket rest).1)

theorem length_close_le (bracket : Bracket) (cs : List Char) :
    (close bracket cs).1.length ≤ cs.length := by
  unfold close
  split
  · exact Nat.zero_le _
  · rename_i c rest hs
    have h₁ := length_of_skipSpace hs
    split
    · exact Nat.le_of_lt h₁
    · split
      · cases bracket with
        | object => exact h₁
        | list =>
          have h₂ := length_skipSpace_le rest
          dsimp only
          split
          · rename_i hs'
            rw [hs'] at h₂
            exact Nat.le_trans h₂ (Nat.le_of_lt h₁)
          · exact Nat.le_trans h₂ (Nat.le_of_lt h₁)
      · exact h₁

/-- A list or an object that ends well gives the value of its parts. -/
theorem leave_eq_ok {α : Type} {bracket : Bracket} {r : Except Failure (α × List Char)} {a : α}
    {rest : List Char} (h : leave bracket r = .ok (a, rest)) :
    ∃ inner, r = .ok (a, inner) ∧ rest.length ≤ inner.length := by
  unfold leave at h
  split at h
  · rename_i b inner
    have hle := length_close_le bracket inner
    split at h
    · rename_i hc
      rw [hc] at hle
      simp only [Except.ok.injEq, Prod.mk.injEq] at h
      exact ⟨inner, by rw [h.1], by rw [← h.2]; exact hle⟩
    · simp at h
  · simp at h
  · simp at h

end FrontendPolicy.Json
