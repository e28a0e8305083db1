import Mathlib.Logic.Basic
import FrontendPolicy.Options.Unused
import FrontendPolicy.Proofs.Options.Independence

/-!
# Which paths are unused

The unused paths are the configured ones that the row of the requested action rules out.
`Options.LeavesUnused` says so field by field, without a table of kinds that could mix them up, and
is what the list and the questions about single kinds are held against. The output paths that are
gone through agree with the list.
-/

namespace FrontendPolicy

namespace Options

/-- The path of a side output is set to some text, but the row of the requested action does not let
it be written. The column for modules answers for their documentation too. -/
inductive LeavesUnused (o : Options) : SideOutput → String → Prop where
  | dependencies {path : String} (set : o.dependenciesPath = some path) (nonempty : path ≠ "")
      (row : o.requestedAction.properties.canEmitDependencies = false) :
      LeavesUnused o .dependencies path
  | objcHeader {path : String} (set : o.objcHeaderPath = some path) (nonempty : path ≠ "")
      (row : o.requestedAction.properties.canEmitHeader = false) : LeavesUnused o .objcHeader path
  | module {path : String} (set : o.modulePath = some path) (nonempty : path ≠ "")
      (row : o.requestedAction.properties.canEmitModule = false) : LeavesUnused o .module path
  | moduleDoc {path : String} (set : o.moduleDocPath = some path) (nonempty : path ≠ "")
      (row : o.requestedAction.properties.canEmitModule = false) : LeavesUnused o .moduleDoc path
  | loadedModuleTrace {path : String} (set : o.loadedModuleTracePath = some path)
      (nonempty : path ≠ "")
      (row : o.requestedAction.properties.canEmitLoadedModuleTrace = false) :
      LeavesUnused o .loadedModuleTrace path

variable {o : Options} {k : SideOutput} {path : String}

/-- A path is unused if it is configured and the action does not emit its kind. -/
theorem leavesUnused_iff : o.LeavesUnused k path ↔
    o.configured? k = some path ∧ k.isEmittedBy o.requestedAction = false := by
  rw [configured?_eq_some_iff]
  constructor
  · intro h
    cases h <;> exact ⟨⟨‹_›, ‹_›⟩, ‹_›⟩
  · rintro ⟨⟨hset, hnonempty⟩, hrow⟩
    cases k with
    | dependencies => exact .dependencies hset hnonempty hrow
    | objcHeader => exact .objcHeader hset hnonempty hrow
    | module => exact .module hset hnonempty hrow
    | moduleDoc => exact .moduleDoc hset hnonempty hrow
    | loadedModuleTrace => exact .loadedModuleTrace hset hnonempty hrow

/-! ## The list -/

theorem unused?_eq_some_iff {u : UnusedPath} : o.unused? k = some u ↔
    o.LeavesUnused k u.path ∧ u.kind = k ∧ u.action = o.requestedAction := by
  rw [leavesUnused_iff, unused?]
  cases hrow : k.isEmittedBy o.requestedAction with
  | true => simp
  | false =>
    rw [if_neg Bool.false_ne_true, Option.map_eq_some_iff]
    constructor
    · rintro ⟨path, hpath, rfl⟩
      exact ⟨⟨hpath, rfl⟩, rfl, rfl⟩
    · rintro ⟨⟨hpath, -⟩, rfl, haction⟩
      exact ⟨u.path, hpath, by rw [← haction]⟩

theorem mem_unusedPaths_iff {u : UnusedPath} :
    u ∈ o.unusedPaths ↔ o.LeavesUnused u.kind u.path ∧ u.action = o.requestedAction := by
  rw [unusedPaths, List.mem_filterMap]
  constructor
  · rintro ⟨k, -, hu⟩
    obtain ⟨hunused, rfl, haction⟩ := unused?_eq_some_iff.mp hu
    exact ⟨hunused, haction⟩
  · rintro ⟨hunused, haction⟩
    exact ⟨u.kind, SideOutput.mem_all u.kind, unused?_eq_some_iff.mpr ⟨hunused, rfl, haction⟩⟩

theorem map_kind_unused? : (o.unused? k).map (·.kind) = Option.guard o.hasUnused k := by
  rw [unused?, Option.guard, hasUnused]
  cases k.isEmittedBy o.requestedAction <;> cases o.configured? k <;> rfl

/-- The kinds in the list are those with an unused path, each of them once. -/
theorem map_kind_unusedPaths (o : Options) :
    o.unusedPaths.map (·.kind) = SideOutput.all.filter o.hasUnused := by
  rw [unusedPaths, List.map_filterMap, funext fun k => map_kind_unused?, List.filterMap_eq_filter]

theorem hasUnused_iff : o.hasUnused k = true ↔ ∃ u ∈ o.unusedPaths, u.kind = k := by
  have hmem : k ∈ o.unusedPaths.map (·.kind) ↔ k ∈ SideOutput.all ∧ o.hasUnused k = true := by
    rw [map_kind_unusedPaths, List.mem_filter]
  rw [← List.mem_map, hmem]
  exact (and_iff_right (SideOutput.mem_all k)).symm

/-! ## Output paths -/

/-- A side output that is gone through is unused, or else of a kind that the action emits. -/
theorem xor_mem_unusedPaths (h : o.configured? k = some path) :
    Xor (⟨k, path, o.requestedAction⟩ ∈ o.unusedPaths)
      (k.isEmittedBy o.requestedAction = true) := by
  rw [mem_unusedPaths_iff, leavesUnused_iff]
  cases hrow : k.isEmittedBy o.requestedAction with
  | true => exact Or.inr ⟨rfl, fun hu => Bool.noConfusion hu.1.2⟩
  | false => exact Or.inl ⟨⟨⟨h, rfl⟩, rfl⟩, Bool.false_ne_true⟩

/-- The unused paths are those that the row of the requested action rules out, and the output paths
that are gone through agree with them. -/
theorem unusedPaths_exact (o : Options) :
    -- The list, its order, and the questions about one kind.
    (∀ u, u ∈ o.unusedPaths ↔ o.LeavesUnused u.kind u.path ∧ u.action = o.requestedAction) ∧
    (o.unusedPaths.map (·.kind)).Sublist
      [.dependencies, .objcHeader, .module, .moduleDoc, .loadedModuleTrace] ∧
    (∀ k, o.hasUnused k = true ↔ ∃ u ∈ o.unusedPaths, u.kind = k) ∧
    ((o.hasUnusedDependencies = true ↔ ∃ u ∈ o.unusedPaths, u.kind = .dependencies) ∧
      (o.hasUnusedObjcHeader = true ↔ ∃ u ∈ o.unusedPaths, u.kind = .objcHeader) ∧
      (o.hasUnusedModule = true ↔ ∃ u ∈ o.unusedPaths, u.kind = .module) ∧
      (o.hasUnusedModuleDoc = true ↔ ∃ u ∈ o.unusedPaths, u.kind = .moduleDoc) ∧
      (o.hasUnusedLoadedModuleTrace = true ↔
        ∃ u ∈ o.unusedPaths, u.kind = .loadedModuleTrace)) ∧
    -- The output paths are gone through one by one.
    (∀ (σ : Type) (visit : σ → OutputKind → String → σ) (start : σ), o.visitOutputs visit start =
      o.taggedPaths.foldl (fun s entry => visit s entry.1 entry.2) start) ∧
    -- An unused path is the only one that is gone through under its kind.
    (∀ kind k path, kind.side? = some k → ⟨k, path, o.requestedAction⟩ ∈ o.unusedPaths →
      o.taggedPaths.filter (fun entry => entry.1 = kind) = [(kind, path)]) ∧
    -- A side output that is gone through is unused or of a kind that the action emits.
    (∀ kind k path, kind.side? = some k → (kind, path) ∈ o.taggedPaths →
      Xor (⟨k, path, o.requestedAction⟩ ∈ o.unusedPaths)
        (k.isEmittedBy o.requestedAction = true)) ∧
    -- Dependencies and traces are not gone through.
    (∀ kind path, (kind, path) ∈ o.taggedPaths → kind = .primary ∧ path ∈ o.outputFilenames ∨
      kind = .module ∧ o.modulePath = some path ∨
      kind = .moduleDoc ∧ o.moduleDocPath = some path ∨
      kind = .objcHeader ∧ o.objcHeaderPath = some path) ∧
    (∀ k path, k = .dependencies ∨ k = .loadedModuleTrace →
      (o.setSidePath k path).taggedPaths = o.taggedPaths) := by
  refine ⟨fun u => mem_unusedPaths_iff, ?_, fun k => hasUnused_iff,
    ⟨hasUnused_iff, hasUnused_iff, hasUnused_iff, hasUnused_iff, hasUnused_iff⟩,
    fun σ visit start => visitOutputs_eq_foldl o visit start, ?_, ?_, ?_,
    fun k path hk => taggedPaths_setSidePath path hk⟩
  · rw [map_kind_unusedPaths]
    exact List.filter_sublist
  · intro kind k path hkind hu
    have hconfigured : o.configured? k = some path :=
      (leavesUnused_iff.mp (mem_unusedPaths_iff.mp hu).1).1
    rw [filter_taggedPaths_of_side hkind, hconfigured]
    rfl
  · intro kind k path hkind hpath
    rcases mem_taggedPaths_iff.mp hpath with ⟨rfl, -⟩ | ⟨k', hkind', hconfigured⟩
    · exact absurd hkind (Option.some_ne_none k).symm
    · obtain rfl : k' = k := Option.some.inj (hkind'.symm.trans hkind)
      exact xor_mem_unusedPaths hconfigured
  · intro kind path hpath
    rcases mem_taggedPaths_iff.mp hpath with ⟨rfl, hprimary⟩ | ⟨k, hkind, hconfigured⟩
    · exact Or.inl ⟨rfl, mem_outputFilenames_of_mem_primaryOutputs hprimary⟩
    · have hset : o.sidePath k = some path := (configured?_eq_some_iff.mp hconfigured).1
      cases kind <;> cases hkind
      · exact Or.inr (Or.inl ⟨rfl, hset⟩)
      · exact Or.inr (Or.inr (Or.inl ⟨rfl, hset⟩))
      · exact Or.inr (Or.inr (Or.inr ⟨rfl, hset⟩))

/-- Options with a path for every side output, two of which the action cannot write and one of which
is empty. -/
def everySideSample : Options :=
  { requestedAction := .parse, outputFilenames := ["a"], modulePath := some "m",
    moduleDocPath := some "", objcHeaderPath := some "h", dependenciesPath := some "d",
    loadedModuleTracePath := some "t" }

/-- The module and the trace of the sample are unused, and the module documentation, whose path is
empty, is not. The module is gone through all the same, and the header is emitted. -/
theorem unusedPaths_exact_sample :
    (⟨.module, "m", .parse⟩ : UnusedPath) ∈ everySideSample.unusedPaths ∧
    everySideSample.hasUnused .loadedModuleTrace = true ∧
    everySideSample.hasUnusedModule = true ∧
    everySideSample.hasUnusedLoadedModuleTrace = true ∧
    everySideSample.hasUnusedModuleDoc = false ∧
    everySideSample.taggedPaths.filter (fun entry => entry.1 = .module) = [(.module, "m")] ∧
    (⟨.objcHeader, "h", .parse⟩ : UnusedPath) ∉ everySideSample.unusedPaths ∧
    (everySideSample.setSidePath .dependencies none).taggedPaths =
      everySideSample.taggedPaths := by
  obtain ⟨hlist, -, hkind, ⟨-, -, hhasModule, hhasDoc, hhasTrace⟩, -, honce, hxor, -, hother⟩ :=
    unusedPaths_exact everySideSample
  have hmodule : (⟨.module, "m", .parse⟩ : UnusedPath) ∈ everySideSample.unusedPaths :=
    (hlist _).mpr ⟨.module rfl (by decide) rfl, rfl⟩
  have htrace : (⟨.loadedModuleTrace, "t", .parse⟩ : UnusedPath) ∈ everySideSample.unusedPaths :=
    (hlist _).mpr ⟨.loadedModuleTrace rfl (by decide) rfl, rfl⟩
  have hheader : (OutputKind.objcHeader, "h") ∈ everySideSample.taggedPaths := by
    decide
  have hdoc : ¬∃ u ∈ everySideSample.unusedPaths, u.kind = .moduleDoc := by
    decide
  refine ⟨hmodule, (hkind _).mpr ⟨_, htrace, rfl⟩, hhasModule.mpr ⟨_, hmodule, rfl⟩,
    hhasTrace.mpr ⟨_, htrace, rfl⟩, Bool.eq_false_iff.mpr (mt hhasDoc.mp hdoc),
    honce .module .module "m" rfl hmodule, ?_, hother .dependencies none (Or.inl rfl)⟩
  rcases hxor .objcHeader .objcHeader "h" rfl hheader with ⟨-, hrow⟩ | ⟨-, hu⟩
  · exact absurd (by decide) hrow
  · exact hu

end Options

end FrontendPolicy
