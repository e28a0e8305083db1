import FrontendPolicy.Text.CaseTable

/-!
# Lower-casing

The full lower-case mapping of a text. A character is mapped on its own, with two exceptions:

* the capital I with dot becomes two characters, `i` and a combining dot;
* a capital sigma becomes the final form `ς` at the end of a word, that is after a cased letter
  and not before one, where case-ignorable characters are skipped in both directions.
-/

namespace FrontendPolicy.Text

/-- Whether a character is a cased letter. -/
def isCased (c : Char) : Bool := Ranges.covers casedRanges c.toNat

/-- Whether a character is skipped in the search for a cased neighbour. -/
def isCaseIgnorable (c : Char) : Bool := Ranges.covers caseIgnorableRanges c.toNat

/-- The lower-case code point, or the code point itself where no span holds it. -/
def lowerCode : List LowerSpan → Nat → Nat
  | [], n => n
  | s :: rest, n =>
    if n < s.first then n
    else if n ≤ s.last then
      if (n - s.first) % s.stride = 0 then s.target + (n - s.first) else lowerCode rest n
    else lowerCode rest n

/-- The single-character lower-case form of a character. -/
def lowerChar (c : Char) : Char := Char.ofNat (lowerCode lowerSpans c.toNat)

/-- Whether the first character that is not skipped is a cased letter. -/
def leadsToCased (cs : List Char) : Bool :=
  match cs.dropWhile isCaseIgnorable with
  | [] => false
  | c :: _ => isCased c

/-- Lower-cases the rest of a text. `afterCased` tells whether the last character before it that
is not skipped is a cased letter. -/
def lowerFrom (afterCased : Bool) : List Char → List Char
  | [] => []
  | c :: rest =>
    let after := if isCaseIgnorable c then afterCased else isCased c
    if c = 'Σ' then
      (if afterCased && !leadsToCased rest then 'ς' else 'σ') :: lowerFrom after rest
    else if c = 'İ' then 'i' :: '\u0307' :: lowerFrom after rest
    else lowerChar c :: lowerFrom after rest

/-- The lower-case form of a text. -/
def lower (cs : List Char) : List Char := lowerFrom false cs

end FrontendPolicy.Text
