import FrontendPolicy.Proofs.Store

/-!
# The contents of files

What is in a file decides what is read from it, and nothing else. Where a write goes does not hang
on what is written, and stores that differ in the contents of files only have the same directories
(`Store.SameShape`).
-/

namespace FrontendPolicy

namespace Store

/-! ## Writing -/

/-- Where a write goes, and whether it goes anywhere, does not hang on what is written. -/
theorem exists_write_eq (s : Store) (p : Path) : ∃ r : Except FileFault Location,
    ∀ data, s.write p data = r.map fun l => s.put l (.file data) := by
  unfold write
  cases p.fault? with
  | some fault => exact ⟨.error fault, fun _ => rfl⟩
  | none =>
    cases p.parts.getLast? with
    | none => exact ⟨.error .isDirectory, fun _ => rfl⟩
    | some last =>
      cases s.walk (s.start p) p.parts.dropLast with
      | error fault => exact ⟨.error fault, fun _ => rfl⟩
      | ok here =>
        refine ⟨s.target p here last, fun data => ?_⟩
        dsimp only
        cases s.target p here last <;> rfl

/-- The path of a write leads to what was written, and nothing else is changed. -/
theorem locate_of_write {s s' : Store} {p : Path} {data : List UInt8}
    (h : s.write p data = .ok s') : ∃ l, s'.locate p = .ok (l, .file data) ∧
      ∀ l', l' ≠ l → s'.node? l' = s.node? l' := by
  obtain ⟨here, last, -, haim, hfile, -, hothers⟩ := aimsAt_of_write h
  exact ⟨here ++ [last], haim.locate hfile, hothers⟩

theorem read_of_locate {s : Store} {p : Path} {l : Location} {data : List UInt8}
    (h : s.locate p = .ok (l, .file data)) : s.read p = .ok data := by
  rw [read, h]

/-! ## Stores of one shape -/

/-- Two stores have their files and directories at the same locations, whatever is in the files. -/
structure SameShape (s s' : Store) : Prop where
  workingDirectory : s'.workingDirectory = s.workingDirectory
  directory : ∀ l, s'.node? l = some .directory ↔ s.node? l = some .directory
  isNone : ∀ l, (s'.node? l).isNone = (s.node? l).isNone

/-- What is where, after something is put at a location. The directories from the root to the
working directory stay. -/
theorem node?_put (s : Store) (l l' : Location) (n : Node) : (s.put l n).node? l' =
    if l' = l ∧ ¬l.isPrefixOf s.workingDirectory = true then some n else s.node? l' := by
  by_cases hl : l' = l
  · subst hl
    by_cases hp : l'.isPrefixOf s.workingDirectory = true
    · rw [if_neg fun h => h.2 hp, node?_of_isPrefixOf (s.put l' n) hp, node?_of_isPrefixOf s hp]
    · rw [if_pos ⟨rfl, hp⟩]
      simp only [node?, put, if_neg hp, List.find?_cons, decide_true, Option.map_some]
  · rw [if_neg fun h => hl h.1, node?_put_of_ne s n hl]

/-- Files with other contents at one location give stores of one shape. -/
theorem sameShape_put (s : Store) (l : Location) (data data' : List UInt8) :
    (s.put l (.file data)).SameShape (s.put l (.file data')) := by
  refine ⟨rfl, fun l' => ?_, fun l' => ?_⟩
  · rw [node?_put, node?_put]
    split
    · simp
    · rfl
  · rw [node?_put, node?_put]
    split <;> rfl

variable {s s' : Store}

theorem SameShape.step (h : s.SameShape s') (here : Location) (part : FileName) :
    s'.step here part = s.step here part := by
  simp only [Store.step, ne_eq, h.directory, h.isNone]

theorem SameShape.walk (h : s.SameShape s') (parts : List FileName) :
    ∀ here : Location, s'.walk here parts = s.walk here parts := by
  induction parts with
  | nil =>
    intro here
    rfl
  | cons part rest ih =>
    intro here
    rw [Store.walk, Store.walk, h.step]
    cases s.step here part with
    | error => rfl
    | ok next => exact ih next

theorem isDirectory_iff_locate (s : Store) (p : Path) :
    s.isDirectory p = true ↔ ∃ l, s.locate p = .ok (l, .directory) := by
  unfold isDirectory
  split
  · rename_i l h
    exact iff_of_true rfl ⟨l, h⟩
  · rename_i h
    exact iff_of_false Bool.false_ne_true fun ⟨l, hl⟩ => h l hl

/-- A path names a directory if it leads to one. -/
theorem isDirectory_eq_true_iff (s : Store) (p : Path) : s.isDirectory p = true ↔
    p.fault? = none ∧ ∃ l, s.walk (s.start p) p.parts = .ok l ∧ s.node? l = some .directory := by
  unfold isDirectory locate
  cases p.fault? with
  | some fault => simp
  | none =>
    cases s.walk (s.start p) p.parts with
    | error fault => simp
    | ok l =>
      rcases hn : s.node? l with _ | _ | _
      · simp [hn]
      · cases p.endsWithSlash <;> simp [hn]
      · simp [hn]

/-- Stores of one shape have the same directories. -/
theorem SameShape.isDirectory (h : s.SameShape s') (p : Path) :
    s'.isDirectory p = s.isDirectory p := by
  have hstart : s'.start p = s.start p := by
    rw [start, start, h.workingDirectory]
  rw [Bool.eq_iff_iff, isDirectory_eq_true_iff, isDirectory_eq_true_iff, hstart, h.walk]
  simp only [h.directory]

end Store

end FrontendPolicy
