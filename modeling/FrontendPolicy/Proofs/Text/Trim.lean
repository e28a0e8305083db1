import FrontendPolicy.Text.Blank

/-!
# Trimming

A character that is not blank stays in a text that is trimmed, and a text whose ends are not blank
stays as it is (`IsTrimmed`). Trimming does not see how many blanks stand at the ends, nor which
ones.
-/

namespace FrontendPolicy.Text

variable {cs : List Char}

/-! ## Characters -/

theorem mem_dropWhile {c : Char} {cs : List Char} (h : c ∈ cs) (hc : isBlank c = false) :
    c ∈ cs.dropWhile isBlank := by
  induction cs with
  | nil => exact h
  | cons d cs ih =>
    by_cases hd : isBlank d = true
    · rw [List.dropWhile_cons_of_pos hd]
      rcases List.mem_cons.mp h with rfl | h
      · rw [hc] at hd
        exact absurd hd (by decide)
      · exact ih h
    · rw [List.dropWhile_cons_of_neg hd]
      exact h

/-- Trimming takes away nothing but blanks. -/
theorem mem_trim {c : Char} {cs : List Char} (h : c ∈ cs) (hc : isBlank c = false) :
    c ∈ trim cs := by
  rw [trim, trimEnd, List.mem_reverse]
  apply mem_dropWhile _ hc
  rw [List.mem_reverse]
  exact mem_dropWhile h hc

theorem trimEnd_isPrefix (cs : List Char) : trimEnd cs <+: cs := by
  rw [trimEnd, ← List.reverse_suffix, List.reverse_reverse]
  exact List.dropWhile_suffix isBlank

theorem mem_of_mem_trim {c : Char} (h : c ∈ trim cs) : c ∈ cs :=
  (List.dropWhile_suffix isBlank).mem ((trimEnd_isPrefix _).mem h)

/-! ## Trimmed texts -/

/-- A text that neither starts nor ends with a blank. -/
structure IsTrimmed (cs : List Char) : Prop where
  starts : ∀ c ∈ cs.head?, isBlank c = false
  ends : ∀ c ∈ cs.getLast?, isBlank c = false

theorem dropWhile_of_head? (h : ∀ c ∈ cs.head?, isBlank c = false) :
    cs.dropWhile isBlank = cs := by
  cases cs with
  | nil => rfl
  | cons c cs =>
    have hc : isBlank c = false := h c rfl
    rw [List.dropWhile_cons_of_neg (by rw [hc]; decide)]

theorem isBlank_head?_dropWhile (cs : List Char) :
    ∀ c ∈ (cs.dropWhile isBlank).head?, isBlank c = false := by
  intro c hc
  have h := List.head?_dropWhile_not isBlank cs
  rw [Option.mem_def.mp hc] at h
  exact h

/-- Trimming does nothing to a trimmed text. -/
theorem trim_of_isTrimmed (h : IsTrimmed cs) : trim cs = cs := by
  have hends : ∀ c ∈ cs.reverse.head?, isBlank c = false := by
    rw [List.head?_reverse]
    exact h.ends
  rw [trim, dropWhile_of_head? h.starts, trimEnd, dropWhile_of_head? hends, List.reverse_reverse]

/-- What is left by trimming is trimmed. -/
theorem isTrimmed_trim (cs : List Char) : IsTrimmed (trim cs) where
  starts := by
    intro c hc
    -- The end is trimmed last, and that takes no character off the start.
    obtain ⟨blanks, hblanks⟩ := trimEnd_isPrefix (cs.dropWhile isBlank)
    apply isBlank_head?_dropWhile cs c
    rw [← hblanks, List.head?_append, ← trim, Option.mem_def.mp hc]
    rfl
  ends := by
    rw [trim, trimEnd, List.getLast?_reverse]
    exact isBlank_head?_dropWhile _

/-! ## What trimming does not see -/

theorem trimEnd_append {blanks : List Char} (h : ∀ c ∈ blanks, isBlank c = true)
    (cs : List Char) : trimEnd (cs ++ blanks) = trimEnd cs := by
  have hreverse : ∀ c ∈ blanks.reverse, isBlank c = true := fun c hc =>
    h c (List.mem_reverse.mp hc)
  rw [trimEnd, List.reverse_append, List.dropWhile_append_of_pos hreverse, trimEnd]

/-- Blanks around a text make no difference. -/
theorem trim_padded {front back : List Char} (hfront : ∀ c ∈ front, isBlank c = true)
    (hback : ∀ c ∈ back, isBlank c = true) (cs : List Char) :
    trim (front ++ (cs ++ back)) = trim cs := by
  rw [trim, List.dropWhile_append_of_pos hfront, List.dropWhile_append]
  split
  · -- A text of nothing but blanks leaves nothing, whatever blanks follow it.
    rename_i hempty
    have hnone : back.dropWhile isBlank = [] := by
      rw [← List.append_nil back, List.dropWhile_append_of_pos hback]
      rfl
    rw [hnone, trim, List.isEmpty_iff.mp hempty]
  · rw [trimEnd_append hback, trim]

/-- Trimming goes along with a change of characters that keeps the blanks apart. -/
theorem trim_map {f : Char → Char} (hf : ∀ c, isBlank (f c) = isBlank c) (cs : List Char) :
    trim (cs.map f) = (trim cs).map f := by
  have hcomp : isBlank ∘ f = isBlank := funext hf
  rw [trim, trimEnd, List.dropWhile_map, ← List.map_reverse, List.dropWhile_map,
    ← List.map_reverse, hcomp, trim, trimEnd]

end FrontendPolicy.Text
