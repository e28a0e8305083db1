import FrontendPolicy.Text.Lowercase

/-!
# Lower-casing into ASCII

Which characters have an ASCII character as their lower-case form is a fact about the whole table of
mappings: the ASCII characters themselves, and the Kelvin sign.
-/

namespace FrontendPolicy.Text

/-! ## The table of mappings -/

/-- The code points of a run. -/
structure LowerSpan.Holds (s : LowerSpan) (n : Nat) : Prop where
  first : s.first ≤ n
  last : n ≤ s.last
  stride : (n - s.first) % s.stride = 0

/-- A code point stays as it is or is mapped by a run of the table that holds it. -/
theorem lowerCode_cases (spans : List LowerSpan) (n : Nat) :
    lowerCode spans n = n ∨
      ∃ s ∈ spans, s.Holds n ∧ lowerCode spans n = s.target + (n - s.first) := by
  induction spans with
  | nil => exact Or.inl rfl
  | cons s spans ih =>
    have hrest : lowerCode spans n = n ∨ ∃ s' ∈ s :: spans, s'.Holds n ∧
        lowerCode spans n = s'.target + (n - s'.first) := by
      rcases ih with h | ⟨s', hs, h⟩
      · exact Or.inl h
      · exact Or.inr ⟨s', List.mem_cons_of_mem _ hs, h⟩
    unfold lowerCode
    split
    · exact Or.inl rfl
    · rename_i hfirst
      split
      · rename_i hlast
        split
        · rename_i hstride
          have hheld : s.Holds n := ⟨Nat.le_of_not_lt hfirst, hlast, hstride⟩
          exact Or.inr ⟨s, List.mem_cons_self, hheld, rfl⟩
        · exact hrest
      · exact hrest

/-- The runs of the table whose forms are ASCII characters: the capital letters and the Kelvin
sign. -/
theorem lowerSpans_ascii : ∀ s ∈ lowerSpans, s.target < 0x80 →
    s.last ≤ 0x5A ∨ (s.first = 0x212A ∧ s.last = 0x212A) := by
  decide +kernel

/-- Within ASCII the capital letters are lower-cased. -/
theorem lowerCode_ascii : ∀ n < 0x80,
    lowerCode lowerSpans n = if 0x41 ≤ n ∧ n ≤ 0x5A then n + 0x20 else n := by
  decide

/-- The Kelvin sign is lower-cased to a `k`. -/
theorem lowerCode_kelvin : lowerCode lowerSpans 0x212A = 0x6B := by
  decide +kernel

/-- Only ASCII characters and the Kelvin sign have an ASCII form. -/
theorem lowerCode_lt {n : Nat} (h : lowerCode lowerSpans n < 0x80) : n < 0x80 ∨ n = 0x212A := by
  rcases lowerCode_cases lowerSpans n with hn | ⟨s, hs, ⟨hfirst, hlast, -⟩, hn⟩
  · exact Or.inl (hn ▸ h)
  · -- A run that maps anything into ASCII starts there.
    rcases lowerSpans_ascii s hs (by omega) with hs | ⟨hs, hs'⟩
    · exact Or.inl (by omega)
    · exact Or.inr (by omega)

end FrontendPolicy.Text
