import FrontendPolicy.Json.Reader

/-!
# Passing over a value

A value that nobody asked for is passed over, however deeply its lists and objects are nested: the
open brackets are kept on a stack. `Reader.skip` takes a plain value or an opening bracket
(`scanStart`), closes the brackets that end after it (`settle`), and goes on until the stack is
empty.
-/

namespace FrontendPolicy.Json

/-- Takes a plain value, or the opening bracket of any other value. -/
def scanStart (cs : List Char) : Except Failure (Option Bracket × List Char) :=
  match skipSpace cs with
  | [] => .error (failNext .endInValue [])
  | c :: rest =>
    if c = 'n' then readWord none ['u', 'l', 'l'] rest
    else if c = 't' then readWord none ['r', 'u', 'e'] rest
    else if c = 'f' then readWord none ['a', 'l', 's', 'e'] rest
    else if c = '-' || c.isDigit then
      mapValue (fun _ => none) (scanNumeral .badNumber (c :: rest))
    else if c = '"' then
      match skipText rest with
      | .error f => .error f
      | .ok rest' => .ok (none, rest')
    else if c = '[' then .ok (some .list, rest)
    else if c = '\x7b' then .ok (some .object, rest)
    else .error (failNext .expectedValue (c :: rest))

/-- The start of the next value inside a bracket: a key and a colon come before it in an object,
nothing in a list. -/
def enter (bracket : Bracket) (cs : List Char) : Except Failure (List Char) :=
  match bracket with
  | .list => .ok cs
  | .object =>
    match skipSpace cs with
    | [] => .error (failNext (.endInBracket .object) [])
    | c :: rest =>
      if c = '"' then
        match skipText rest with
        | .error f => .error f
        | .ok rest' => scanColon rest'
      else .error (failNext .expectedKey (c :: rest))

/-- Closes the brackets that end here and enters the next value of the innermost one left, which
follows a comma unless its bracket has just been opened. Gives the brackets that are open there,
none if the outermost one has been closed. -/
def settle (opened : Bool) (cs : List Char) :
    List Bracket → Except Failure (List Bracket × List Char)
  | [] => .ok ([], cs)
  | bracket :: outer =>
    match skipSpace cs with
    | [] => .error (failNext (.endInBracket bracket) [])
    | c :: rest =>
      if c = bracket.closer then settle false rest outer
      else if opened then (enter bracket (c :: rest)).map (bracket :: outer, ·)
      else if c = ',' then (enter bracket rest).map (bracket :: outer, ·)
      else .error (failNext (.expectedCommaOrEnd bracket) (c :: rest))

theorem length_of_scanStart {cs rest : List Char} {b : Option Bracket}
    (h : scanStart cs = .ok (b, rest)) : rest.length < cs.length := by
  unfold scanStart at h
  split at h
  · simp at h
  · rename_i c tail hs
    have h₁ := length_of_skipSpace hs
    have word : ∀ {word : List Char},
        readWord (none : Option Bracket) word tail = .ok (b, rest) → rest.length < cs.length :=
      fun hw => Nat.lt_of_le_of_lt (length_of_readWord hw) h₁
    split at h
    · exact word h
    · split at h
      · exact word h
      · split at h
        · exact word h
        · split at h
          · obtain ⟨n, hn, _⟩ := mapValue_eq_ok h
            have := length_of_scanNumeral hn
            rw [List.length_cons] at this
            omega
          · split at h
            · split at h
              · simp at h
              · rename_i ht
                have := length_of_skipText ht
                simp only [Except.ok.injEq, Prod.mk.injEq] at h
                rw [← h.2]
                omega
            · split at h
              · simp only [Except.ok.injEq, Prod.mk.injEq] at h
                rw [← h.2]
                exact h₁
              · split at h
                · simp only [Except.ok.injEq, Prod.mk.injEq] at h
                  rw [← h.2]
                  exact h₁
                · simp at h

theorem length_of_enter {b : Bracket} {cs rest : List Char} (h : enter b cs = .ok rest) :
    rest.length ≤ cs.length := by
  unfold enter at h
  split at h
  · simp only [Except.ok.injEq] at h
    exact Nat.le_of_eq (congrArg List.length h.symm)
  · split at h
    · simp at h
    · rename_i hs
      have := length_of_skipSpace hs
      split at h
      · split at h
        · simp at h
        · rename_i ht
          have := length_of_skipText ht
          have := length_of_scanColon h
          omega
      · simp at h

theorem length_of_settle {opened : Bool} {cs rest : List Char} {stack stack' : List Bracket}
    (h : settle opened cs stack = .ok (stack', rest)) : rest.length ≤ cs.length := by
  have entered : ∀ {b : Bracket} {outer : List Bracket} {inner : List Char},
      (enter b inner).map (b :: outer, ·) = .ok (stack', rest) → rest.length ≤ inner.length := by
    intro b outer inner he
    cases hb : enter b inner with
    | error => simp [hb, Except.map] at he
    | ok r =>
      simp only [hb, Except.map, Except.ok.injEq, Prod.mk.injEq] at he
      rw [← he.2]
      exact length_of_enter hb
  fun_induction settle opened cs stack with
  | case1 =>
    simp only [Except.ok.injEq, Prod.mk.injEq] at h
    exact Nat.le_of_eq (congrArg List.length h.2.symm)
  | case2 => simp at h
  | case3 _ _ _ _ _ hs ih =>
    have := ih h
    have := length_of_skipSpace hs
    omega
  | case4 _ _ _ _ _ hs =>
    have := entered h
    have := length_of_skipSpace hs
    rw [List.length_cons] at *
    omega
  | case5 =>
    have := entered h
    have := length_of_skipSpace ‹skipSpace _ = ',' :: _›
    omega
  | case6 => simp at h

/-- Passes over values until every bracket of the stack is closed. -/
def skipFrom (stack : List Bracket) (cs : List Char) : Except Failure (List Char) :=
  match _start : scanStart cs with
  | .error f => .error f
  | .ok (opened, inner) =>
    match _settled : settle opened.isSome inner (opened.toList ++ stack) with
    | .error f => .error f
    | .ok ([], rest) => .ok rest
    | .ok (b :: outer, rest) => skipFrom (b :: outer) rest
termination_by cs.length
decreasing_by
  exact Nat.lt_of_le_of_lt (length_of_settle _settled) (length_of_scanStart _start)

theorem length_of_skipFrom {stack : List Bracket} {cs rest : List Char}
    (h : skipFrom stack cs = .ok rest) : rest.length < cs.length := by
  fun_induction skipFrom stack cs with
  | case1 => simp at h
  | case2 => simp at h
  | case3 _ _ _ _ hs _ ht =>
    simp only [Except.ok.injEq] at h
    rw [← h]
    exact Nat.lt_of_le_of_lt (length_of_settle ht) (length_of_scanStart hs)
  | case4 _ _ _ _ hs _ _ _ ht ih =>
    have := ih h
    have := length_of_settle ht
    have := length_of_scanStart hs
    omega

/-- Any value, of which nothing is kept. -/
def Reader.skip : Reader Unit where
  run cs := (skipFrom [] cs).map ((), ·)
  progress {cs a rest} h := by
    cases hs : skipFrom [] cs with
    | error => simp [hs, Except.map] at h
    | ok r =>
      simp only [hs, Except.map, Except.ok.injEq, Prod.mk.injEq, true_and] at h
      rw [← h]
      exact length_of_skipFrom hs

end FrontendPolicy.Json
