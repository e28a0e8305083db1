import FrontendPolicy.Json.Literal
import FrontendPolicy.Json.Numeral
import FrontendPolicy.Json.Token

/-!
# Reading typed values

A `Reader` takes a value of one type off the front of a text and leaves the rest. It carries the
proof that a value takes at least one character, which is why reading a list of values ends. The
readers of plain values report through `mismatch` that another value stands there.
-/

namespace FrontendPolicy.Json

/-! ## Readers -/

/-- Takes a value off the front of a text. A value takes at least one character. -/
structure Reader (α : Type) where
  run : List Char → Except Failure (α × List Char)
  progress : ∀ {cs : List Char} {a : α} {rest : List Char},
    run cs = .ok (a, rest) → rest.length < cs.length

/-- The result of a reader with its value changed. -/
def mapValue {α β : Type} (f : α → β) :
    Except Failure (α × List Char) → Except Failure (β × List Char)
  | .error e => .error e
  | .ok (a, rest) => .ok (f a, rest)

theorem mapValue_eq_ok {α β : Type} {f : α → β} {r : Except Failure (α × List Char)} {b : β}
    {rest : List Char} (h : mapValue f r = .ok (b, rest)) : ∃ a, r = .ok (a, rest) ∧ f a = b := by
  cases r with
  | error => simp [mapValue] at h
  | ok p =>
    simp only [mapValue, Except.ok.injEq, Prod.mk.injEq] at h
    exact ⟨p.1, by rw [← h.2], h.1⟩

/-- Reads the same texts and changes the value. -/
def Reader.map {α β : Type} (f : α → β) (r : Reader α) : Reader β where
  run cs := mapValue f (r.run cs)
  progress h := by
    obtain ⟨a, ha, _⟩ := mapValue_eq_ok h
    exact r.progress ha

/-! ## Plain values -/

/-- The report of a word that stands in place of the expected value. -/
def wordMismatch (expected : String) (found : Found) (word cs : List Char) : Failure :=
  match scanWord word cs with
  | .error f => f
  | .ok rest => failHere (.wrongType found expected) rest

/-- The report of a value that stands in place of the expected one. The value is read first, a
list or an object excepted, so that what is wrong with it is reported before its type. -/
def mismatch (expected : String) (cs : List Char) : Failure :=
  match cs with
  | [] => failNext .endInValue []
  | c :: rest =>
    if c = 'n' then wordMismatch expected .null ['u', 'l', 'l'] rest
    else if c = 't' then wordMismatch expected (.flag true) ['r', 'u', 'e'] rest
    else if c = 'f' then wordMismatch expected (.flag false) ['a', 'l', 's', 'e'] rest
    else if c = '-' || c.isDigit then
      match readAmount cs with
      | .error f => f
      | .ok (a, rest') => failHere (.wrongType (.number a) expected) rest'
    else if c = '"' then
      match readText [] rest with
      | .error f => f
      | .ok (s, rest') => failHere (.wrongType (.text s) expected) rest'
    else if c = '[' then failHere (.wrongType .list expected) cs
    else if c = '\x7b' then failHere (.wrongType .object expected) cs
    else failNext .expectedValue cs

/-- A text. The error texts call it by the given name. -/
def Reader.text (expected : String) : Reader String where
  run cs :=
    match skipSpace cs with
    | '"' :: rest => readText [] rest
    | other => .error (mismatch expected other)
  progress h := by
    split at h
    · rename_i hs
      exact Nat.lt_trans (length_of_readText h) (length_of_skipSpace hs)
    · simp at h

/-- A truth value. -/
def Reader.flag : Reader Bool where
  run cs :=
    match skipSpace cs with
    | 't' :: rest => readWord true ['r', 'u', 'e'] rest
    | 'f' :: rest => readWord false ['a', 'l', 's', 'e'] rest
    | other => .error (mismatch "a boolean" other)
  progress h := by
    split at h
    · rename_i hs
      exact Nat.lt_of_le_of_lt (length_of_readWord h) (length_of_skipSpace hs)
    · rename_i hs
      exact Nat.lt_of_le_of_lt (length_of_readWord h) (length_of_skipSpace hs)
    · simp at h

/-- A value or `null`. -/
def Reader.optional {α : Type} (r : Reader α) : Reader (Option α) where
  run cs :=
    match skipSpace cs with
    | 'n' :: rest => readWord none ['u', 'l', 'l'] rest
    | _ => mapValue some (r.run cs)
  progress h := by
    split at h
    · rename_i hs
      exact Nat.lt_of_le_of_lt (length_of_readWord h) (length_of_skipSpace hs)
    · obtain ⟨a, ha, _⟩ := mapValue_eq_ok h
      exact r.progress ha

/-! ## Lists -/

/-- The elements of a list, up to its end. `done` is what was read so far, the last one first. -/
def readElements {α : Type} (r : Reader α) (done : List α) (cs : List Char) :
    Except Failure (List α × List Char) :=
  match _next : nextElement done.isEmpty cs with
  | .error f => .error f
  | .ok none => .ok (done.reverse, cs)
  | .ok (some start) =>
    match _read : r.run start with
    | .error f => .error f
    | .ok (a, rest) => readElements r (a :: done) rest
termination_by cs.length
decreasing_by exact Nat.lt_of_lt_of_le (r.progress _read) (length_of_nextElement _next)

theorem length_of_readElements {α : Type} {r : Reader α} {done as : List α}
    {cs rest : List Char} (h : readElements r done cs = .ok (as, rest)) :
    rest.length ≤ cs.length := by
  fun_induction readElements r done cs with
  | case1 => simp at h
  | case2 =>
    simp only [Except.ok.injEq, Prod.mk.injEq] at h
    exact Nat.le_of_eq (congrArg List.length h.2.symm)
  | case3 => simp at h
  | case4 _ _ _ hn _ _ hr ih =>
    have := ih h
    have := r.progress hr
    have := length_of_nextElement hn
    omega

/-- A list of values. -/
def Reader.list {α : Type} (r : Reader α) : Reader (List α) where
  run cs :=
    match skipSpace cs with
    | '[' :: rest => leave .list (readElements r [] rest)
    | other => .error (mismatch "a sequence" other)
  progress h := by
    split at h
    · rename_i hs
      obtain ⟨inner, hr, hle⟩ := leave_eq_ok h
      have := length_of_readElements hr
      have := length_of_skipSpace hs
      omega
    · simp at h

/-! ## Whole texts -/

/-- Reads a text that is one value with space around it. -/
def Reader.whole {α : Type} (r : Reader α) (text : String) : Except Rejection α :=
  match r.run text.toList with
  | .error f => .error (f.rejection text.toList)
  | .ok (a, rest) =>
    match skipSpace rest with
    | [] => .ok a
    | other => .error ((failNext .trailingCharacters other).rejection text.toList)

end FrontendPolicy.Json
