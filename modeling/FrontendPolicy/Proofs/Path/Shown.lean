import FrontendPolicy.Proofs.Path

/-!
# Paths as they are shown

What is shown of a path spells a path that takes the same steps, each as it is shown. Slashes and
dots are ASCII, and these bytes stay where they are when stray runs between them are replaced.
-/

namespace FrontendPolicy

/-- A step as it is shown. -/
def Component.shown : Component → Component
  | .root => .root
  | .here => .here
  | .up => .up
  | .name bytes => .name (Text.shown bytes)

namespace Path

/-- The path that is spelled by what is shown of a path. -/
def shown (p : Path) : Path := .ofText p.lossyText

theorem bytes_shown (p : Path) : p.shown.bytes = Text.shown p.bytes := by
  rw [shown, ofText, lossyText, String.toList_ofList, Text.shown]

/-- The same is shown of a path and of what is shown of it. -/
theorem lossyText_shown (p : Path) : p.shown.lossyText = p.lossyText := by
  rw [lossyText, bytes_shown, Text.decodeLossy_shown, lossyText]

/-! ## Parts -/

/-- What is shown has the slashes of the bytes, and shows the parts between them. -/
theorem splitOn_shown (bytes : List UInt8) :
    (Text.shown bytes).splitOn slash = (bytes.splitOn slash).map Text.shown := by
  have hascii : slash.toNat < 0x80 := by decide
  -- The induction is on the length, since a whole part is taken off at a time.
  induction hn : bytes.length using Nat.strongRecOn generalizing bytes with
  | _ n ih =>
    subst hn
    by_cases h : slash ∈ bytes
    · obtain ⟨front, back, rfl, hfront⟩ := List.eq_append_cons_of_mem h
      have hshorter : back.length < (front ++ slash :: back).length := by
        rw [List.length_append, List.length_cons]
        omega
      have hfront' : slash ∉ Text.shown front := mt (Text.mem_shown_ascii hascii).mp hfront
      rw [Text.shown_append_ascii hascii, List.splitOn_append_cons_self_of_not_mem hfront',
        List.splitOn_append_cons_self_of_not_mem hfront, ih _ hshorter back rfl, List.map_cons]
    · have h' : slash ∉ Text.shown bytes := mt (Text.mem_shown_ascii hascii).mp h
      rw [List.splitOn_eq_singleton h', List.splitOn_eq_singleton h, List.map_singleton]

/-- The special parts of a path are shown as themselves, and nothing else is shown as one. -/
theorem shown_eq_special_iff {part special : List UInt8}
    (h : special ∈ [[], [dot], [dot, dot]]) : Text.shown part = special ↔ part = special := by
  have hall : [[], [dot], [dot, dot]].all (fun text => text.all (·.toNat < 0x80)) = true := by
    decide
  have hascii : special.all (·.toNat < 0x80) = true := List.all_eq_true.mp hall special h
  exact Text.shown_eq_ascii_iff fun a ha => of_decide_eq_true (List.all_eq_true.mp hascii a ha)

theorem head?_shown_eq_special_iff {parts : List (List UInt8)} {special : List UInt8}
    (h : special ∈ [[], [dot], [dot, dot]]) :
    (parts.map Text.shown).head? = some special ↔ parts.head? = some special := by
  cases parts with
  | nil => rfl
  | cons part parts =>
    rw [List.map_cons, List.head?_cons, List.head?_cons, Option.some_inj, Option.some_inj]
    exact shown_eq_special_iff h

theorem step?_shown (part : List UInt8) :
    step? (Text.shown part) = (step? part).map Component.shown := by
  have hnil : Text.shown part = [] ↔ part = [] := shown_eq_special_iff (by decide)
  have hdot : Text.shown part = [dot] ↔ part = [dot] := shown_eq_special_iff (by decide)
  have hup : Text.shown part = [dot, dot] ↔ part = [dot, dot] := shown_eq_special_iff (by decide)
  simp only [step?, hnil, hdot, hup]
  split
  · rfl
  · split <;> rfl

/-! ## Steps -/

/-- A path starts at the root if it is not empty and its first part is. -/
theorem isAbsolute_iff {p : Path} :
    p.isAbsolute = true ↔ p.bytes ≠ [] ∧ (p.bytes.splitOn slash).head? = some [] := by
  rw [isAbsolute, beq_iff_eq]
  cases p.bytes with
  | nil => simp
  | cons b rest =>
    rw [List.splitOn_cons_eq_if_modifyHead]
    by_cases hb : b = slash
    · simp [hb]
    · -- The first byte is part of the first part.
      cases hs : rest.splitOn slash with
      | nil => exact absurd hs (List.splitOn_ne_nil slash rest)
      | cons s more => simp [hb]

theorem isAbsolute_shown (p : Path) : p.shown.isAbsolute = p.isAbsolute := by
  have hhead : ((p.bytes.splitOn slash).map Text.shown).head? = some [] ↔
      (p.bytes.splitOn slash).head? = some [] := head?_shown_eq_special_iff (by decide)
  rw [Bool.eq_iff_iff, isAbsolute_iff, isAbsolute_iff, bytes_shown, splitOn_shown, hhead, Ne,
    Text.shown_eq_nil_iff]

/-- What is shown of a path takes the same steps, each as it is shown. -/
theorem components_shown (p : Path) : p.shown.components = p.components.map Component.shown := by
  have hparts : segments p.shown.bytes = (segments p.bytes).map Text.shown := by
    rw [segments_eq_splitOn, segments_eq_splitOn, bytes_shown, splitOn_shown]
  have hhead : ((segments p.bytes).map Text.shown).head? = some [dot] ↔
      (segments p.bytes).head? = some [dot] := head?_shown_eq_special_iff (by decide)
  have hsteps : ((segments p.bytes).map Text.shown).filterMap step? =
      ((segments p.bytes).filterMap step?).map Component.shown := by
    rw [List.filterMap_map, List.map_filterMap]
    exact congrArg (List.filterMap · _) (funext step?_shown)
  simp only [components, isAbsolute_shown, hparts, hhead, hsteps, List.map_append]
  congr 1
  split
  · rfl
  · split <;> rfl

/-- The file name of what is shown of a path is what is shown of its file name. -/
theorem fileName?_shown (p : Path) : p.shown.fileName? = p.fileName?.map shown := by
  rw [fileName?, fileName?, components_shown, List.getLast?_map]
  cases p.components.getLast? with
  | none => rfl
  | some step =>
    cases step with
    | name bytes => exact congrArg some (congrArg Path.mk (bytes_shown ⟨bytes⟩).symm)
    | root | here | up => rfl

end Path

end FrontendPolicy
