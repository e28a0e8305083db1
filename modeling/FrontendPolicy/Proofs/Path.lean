import Mathlib.Data.List.DropRight
import FrontendPolicy.Path
import FrontendPolicy.Proofs.Text.Lossy

/-!
# The last part of a path

The name that a path ends with is found by splitting the path at its slashes
(`Path.segments_eq_splitOn`). Empty parts and dots at the end do not count; what is left are the
`Path.leadingParts`, and the name is the last of them.
-/

namespace FrontendPolicy.Path

/-! ## Parts -/

theorem segments_eq_splitOn (bytes : List UInt8) : segments bytes = bytes.splitOn slash := by
  induction bytes with
  | nil => rfl
  | cons b rest ih =>
    rw [segments, List.splitOn_cons_eq_if_modifyHead, ih]
    by_cases hb : b = slash
    · rw [if_pos hb, if_pos (beq_iff_eq.mpr hb)]
    · rw [if_neg hb, if_neg (by simpa using hb)]
      cases hs : rest.splitOn slash with
      | nil => exact absurd hs (List.splitOn_ne_nil slash rest)
      | cons s more => rfl

/-- The parts between slashes hold no slash. -/
theorem slash_notMem_of_mem_splitOn {bytes s : List UInt8} (h : s ∈ bytes.splitOn slash) :
    slash ∉ s := by
  induction bytes generalizing s with
  | nil =>
    rw [List.splitOn_nil, List.mem_singleton] at h
    rw [h]
    exact List.not_mem_nil
  | cons b rest ih =>
    rw [List.splitOn_cons_eq_if_modifyHead] at h
    split at h
    · rcases List.mem_cons.mp h with rfl | h
      · exact List.not_mem_nil
      · exact ih h
    · rename_i hb
      -- The first byte goes to the first of the parts that the others make.
      cases hs : rest.splitOn slash with
      | nil => exact absurd hs (List.splitOn_ne_nil slash rest)
      | cons t more =>
        rw [hs] at ih
        rw [hs, List.modifyHead_cons] at h
        rcases List.mem_cons.mp h with rfl | h
        · rw [List.mem_cons, not_or]
          exact ⟨fun hslash => hb (beq_iff_eq.mpr hslash.symm), ih List.mem_cons_self⟩
        · exact ih (List.mem_cons_of_mem t h)

/-- The parts of a path between its slashes, without the empty ones and the dots at its end. -/
def leadingParts (p : Path) : List (List UInt8) :=
  (p.bytes.splitOn slash).rdropWhile fun s => s = [] ∨ s = [dot]

/-- The last of these parts is a name, or two dots. -/
theorem of_getLast?_leadingParts {p : Path} {s : List UInt8}
    (h : p.leadingParts.getLast? = some s) : s ≠ [] ∧ s ≠ [dot] ∧ slash ∉ s := by
  have hne : p.leadingParts ≠ [] := by
    intro hnil
    rw [hnil] at h
    exact absurd h (Option.some_ne_none s).symm
  have hlast : ¬decide (p.leadingParts.getLast hne = [] ∨ p.leadingParts.getLast hne = [dot]) :=
    List.rdropWhile_last_not _ _ hne
  have hmem : s ∈ p.bytes.splitOn slash :=
    (List.rdropWhile_prefix _ _).subset (List.mem_of_getLast? h)
  rw [List.getLast?_eq_some_getLast hne, Option.some.injEq] at h
  rw [h, decide_eq_true_eq, not_or] at hlast
  exact ⟨hlast.1, hlast.2, slash_notMem_of_mem_splitOn hmem⟩

/-! ## Steps -/

theorem step?_eq_none_iff {s : List UInt8} : step? s = none ↔ s = [] ∨ s = [dot] := by
  unfold step?
  split
  · rename_i h
    exact iff_of_true rfl (by simpa using h)
  · rename_i h
    refine iff_of_false ?_ (by simpa using h)
    split <;> exact Option.some_ne_none _

theorem findSome?_step? (parts : List (List UInt8)) : parts.findSome? step? =
    (parts.dropWhile fun s => s = [] ∨ s = [dot]).head?.bind step? := by
  induction parts with
  | nil => rfl
  | cons s parts ih =>
    rw [List.findSome?_cons, List.dropWhile_cons]
    by_cases hs : s = [] ∨ s = [dot]
    · rw [if_pos (decide_eq_true hs), step?_eq_none_iff.mpr hs]
      exact ih
    · rw [if_neg (by simpa using hs), List.head?_cons, Option.bind_some]
      cases h : step? s with
      | none => exact absurd (step?_eq_none_iff.mp h) hs
      | some c => rfl

/-- The last step among the parts of a path is that of the last leading part. -/
theorem getLast?_filterMap_step? (p : Path) :
    ((segments p.bytes).filterMap step?).getLast? = p.leadingParts.getLast?.bind step? := by
  rw [List.getLast?_filterMap, findSome?_step?, segments_eq_splitOn, leadingParts, List.rdropWhile,
    List.getLast?_reverse]

/-- The file name of a path is its last leading part, unless that is two dots. -/
theorem fileName?_eq (p : Path) : p.fileName? =
    p.leadingParts.getLast?.bind fun s => if s = [dot, dot] then none else some ⟨s⟩ := by
  rw [fileName?, components, List.getLast?_append, p.getLast?_filterMap_step?]
  cases h : p.leadingParts.getLast? with
  | none =>
    -- What may stand before the parts of a path is no name.
    rw [Option.bind_none, Option.bind_none, Option.none_or]
    cases p.isAbsolute with
    | true => rfl
    | false =>
      by_cases hhead : (segments p.bytes).head? = some [dot] <;> simp [hhead]
  | some s =>
    obtain ⟨hne, hdot, -⟩ := of_getLast?_leadingParts h
    have hstep : step? s = if s = [dot, dot] then some .up else some (.name s) := by
      simp [step?, hne, hdot]
    rw [Option.bind_some, Option.bind_some, hstep]
    by_cases hup : s = [dot, dot]
    · rw [if_pos hup, if_pos hup]
      rfl
    · rw [if_neg hup, if_neg hup]
      rfl

/-! ## Names at the end -/

/-- Slashes and dots after a name make parts that are no steps. -/
theorem exists_splitOn_append_flatten {pieces : List (List UInt8)}
    (h : ∀ s ∈ pieces, s = [slash] ∨ s = [slash, dot]) :
    ∃ parts : List (List UInt8), (∀ s ∈ parts, s = [] ∨ s = [dot]) ∧
      ∀ n, slash ∉ n → (n ++ pieces.flatten).splitOn slash = n :: parts := by
  induction pieces with
  | nil =>
    refine ⟨[], fun s hs => absurd hs List.not_mem_nil, fun n hn => ?_⟩
    rw [List.flatten_nil, List.append_nil, List.splitOn_eq_singleton hn]
  | cons piece pieces ih =>
    obtain ⟨parts, hparts, hsplit⟩ := ih fun s hs => h s (List.mem_cons_of_mem piece hs)
    rcases h piece List.mem_cons_self with rfl | rfl
    · refine ⟨[] :: parts, List.forall_mem_cons.mpr ⟨Or.inl rfl, hparts⟩, fun n hn => ?_⟩
      rw [List.flatten_cons, List.singleton_append,
        List.splitOn_append_cons_self_of_not_mem hn, ← hsplit [] List.not_mem_nil, List.nil_append]
    · refine ⟨[dot] :: parts, List.forall_mem_cons.mpr ⟨Or.inr rfl, hparts⟩, fun n hn => ?_⟩
      rw [List.flatten_cons, List.cons_append,
        List.splitOn_append_cons_self_of_not_mem hn, ← hsplit [dot] (by decide)]

/-- A name that nothing but slashes and dots follows is the last leading part. -/
theorem leadingParts_of_name (d : List UInt8) {n : List UInt8} {pieces : List (List UInt8)}
    (hslash : slash ∉ n) (hne : n ≠ []) (hdot : n ≠ [dot])
    (h : ∀ s ∈ pieces, s = [slash] ∨ s = [slash, dot]) :
    leadingParts ⟨d ++ slash :: (n ++ pieces.flatten)⟩ = d.splitOn slash ++ [n] := by
  obtain ⟨parts, hparts, hsplit⟩ := exists_splitOn_append_flatten h
  have hdropped : ∀ s ∈ parts.reverse, decide (s = [] ∨ s = [dot]) = true :=
    fun s hs => decide_eq_true (hparts s (List.mem_reverse.mp hs))
  have hkept : ¬decide (n = [] ∨ n = [dot]) = true := by
    simp [hne, hdot]
  -- Seen from the end, the parts after the name fall away and the name stays.
  rw [leadingParts, List.splitOn_append_cons_self, hsplit n hslash, List.rdropWhile,
    List.reverse_append, List.reverse_cons, List.append_assoc,
    List.dropWhile_append_of_pos hdropped, List.singleton_append, List.dropWhile_cons,
    if_neg hkept, List.reverse_cons, List.reverse_reverse]

end FrontendPolicy.Path
