import Mathlib.Data.List.Basic
import FrontendPolicy.Options.OutputPaths

/-!
# Going through the output paths

A visitor sees the tagged paths in their order (`Options.visitOutputs_eq_foldl`). They stand in
blocks, one for the main outputs and one for each side output, and the block of a side output is
what is left of them under its kind.
-/

namespace FrontendPolicy

/-- Module-only emission and merging are the actions that skip the main outputs. -/
theorem Action.writesPrimaryOutputs_eq_false_iff (a : Action) :
    a.writesPrimaryOutputs = false ↔ a = .emitModuleOnly ∨ a = .mergeModules := by
  cases a <;> decide

namespace Options

/-- The paths that are gone through one by one are the tagged paths in their order. -/
theorem visitOutputs_eq_foldl {σ : Type} (o : Options) (visit : σ → OutputKind → String → σ)
    (start : σ) : o.visitOutputs visit start =
      o.taggedPaths.foldl (fun s entry => visit s entry.1 entry.2) start := by
  rw [visitOutputs, taggedPaths, primaryOutputs, List.foldl_append, List.foldl_map,
    List.foldl_filterMap]
  congr 1
  · -- A side output is visited if it is tagged.
    funext s k
    rw [taggedSide]
    cases o.configured? k.2 <;> rfl
  · cases o.requestedAction.writesPrimaryOutputs <;> rfl

/-- Collecting the paths, the latest first, gives the tagged paths backwards. -/
theorem visitOutputs_cons (o : Options) :
    o.visitOutputs (fun done kind path => (kind, path) :: done) [] = o.taggedPaths.reverse := by
  rw [visitOutputs_eq_foldl]
  exact List.foldl_flip_cons_eq_append'.trans (List.append_nil _)

/-- Collecting something for each path, the latest last, gives one thing for each tagged path. -/
theorem visitOutputs_concat {α : Type} (o : Options) (f : OutputKind → String → α) :
    o.visitOutputs (fun done kind path => done ++ [f kind path]) [] =
      o.taggedPaths.map fun entry => f entry.1 entry.2 := by
  rw [visitOutputs_eq_foldl, List.foldl_append_eq_append, List.nil_append, ← List.flatMap_def,
    ← List.map_eq_flatMap]

/-- Without the fields, the paths that are gone through are still those of the tagged paths. -/
theorem visitPaths_eq_foldl {σ : Type} (o : Options) (visit : σ → String → σ) (start : σ) :
    o.visitPaths visit start = (o.taggedPaths.map (·.2)).foldl visit start := by
  rw [visitPaths, visitOutputs_eq_foldl, List.foldl_map]

/-- The output paths are the tagged paths without their fields. -/
theorem outputPaths_eq (o : Options) : o.outputPaths = o.taggedPaths.map (·.2) := by
  have hpush : o.visitPaths Array.push #[] = (o.taggedPaths.map (·.2)).toArray := by
    rw [visitPaths_eq_foldl, List.foldl_push_eq_append', Array.empty_append]
  exact congrArg Array.toList hpush

end Options

/-! ## Blocks of tagged paths -/

/-- The side output whose path is enumerated under a kind. Main outputs are no side outputs. -/
def OutputKind.side? : OutputKind → Option SideOutput
  | .primary => none
  | .module => some .module
  | .moduleDoc => some .moduleDoc
  | .objcHeader => some .objcHeader

namespace Options

/-- The tagged paths are a block of main outputs and up to three side outputs. -/
theorem taggedPaths_eq (o : Options) : o.taggedPaths =
    o.primaryOutputs.map (.primary, ·) ++ (o.configured? .module).toList.map (.module, ·) ++
      (o.configured? .moduleDoc).toList.map (.moduleDoc, ·) ++
      (o.configured? .objcHeader).toList.map (.objcHeader, ·) := by
  rw [taggedPaths, List.filterMap_eq_flatMap_toList]
  simp only [enumeratedSides, List.flatMap_cons, List.flatMap_nil, taggedSide, Option.toList_map,
    List.append_nil, List.append_assoc]

/-- The entries of a block are all of its kind. -/
theorem filter_map_tag (kind tag : OutputKind) (names : List String) :
    (names.map (tag, ·)).filter (fun entry => entry.1 = kind) =
      if tag = kind then names.map (tag, ·) else [] := by
  split
  · rename_i h
    refine List.filter_eq_self.mpr fun entry he => ?_
    obtain ⟨name, -, rfl⟩ := List.mem_map.mp he
    exact decide_eq_true h
  · rename_i h
    refine List.filter_eq_nil_iff.mpr fun entry he => ?_
    obtain ⟨name, -, rfl⟩ := List.mem_map.mp he
    exact fun hkind => h (of_decide_eq_true hkind)

/-- The only entry of a side output is its path, if it is configured. -/
theorem filter_taggedPaths_of_side {kind : OutputKind} {k : SideOutput} (h : kind.side? = some k)
    (o : Options) : o.taggedPaths.filter (fun entry => entry.1 = kind) =
      (o.configured? k).toList.map (kind, ·) := by
  simp only [taggedPaths_eq, List.filter_append, filter_map_tag]
  cases kind <;> cases h <;> simp

theorem mem_outputFilenames_of_mem_primaryOutputs {o : Options} {name : String}
    (h : name ∈ o.primaryOutputs) : name ∈ o.outputFilenames := by
  rw [primaryOutputs] at h
  split at h
  · exact h
  · exact absurd h List.not_mem_nil

/-- Each entry is a main output or the configured path of a side output. -/
theorem mem_taggedPaths_iff {o : Options} {kind : OutputKind} {path : String} :
    (kind, path) ∈ o.taggedPaths ↔ kind = .primary ∧ path ∈ o.primaryOutputs ∨
      ∃ k, kind.side? = some k ∧ o.configured? k = some path := by
  simp only [taggedPaths_eq, List.mem_append, List.mem_map, Option.mem_toList, Prod.mk.injEq]
  cases kind <;> simp [OutputKind.side?]

end Options

end FrontendPolicy
