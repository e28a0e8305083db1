import Mathlib.Data.List.Basic
import Mathlib.Logic.Relation
import FrontendPolicy.Proofs.Inputs
import FrontendPolicy.Proofs.Options.OutputPaths
import FrontendPolicy.Proofs.Options.SidePaths
import FrontendPolicy.Report

/-!
# What answers hang on

Each answer on a configuration hangs on a part of it only, which its congruence lemma names. Of the
inputs this part is the primary ones in their order: they stay the same just if other inputs are put
in, taken out and moved (`Inputs.edits_iff`).
-/

namespace FrontendPolicy

/-! ## Parts of options -/

/-- Actions write main outputs alike unless just one of them skips these. -/
theorem Action.writesPrimaryOutputs_congr {a a' : Action}
    (h : (a = .emitModuleOnly ∨ a = .mergeModules) ↔ (a' = .emitModuleOnly ∨ a' = .mergeModules)) :
    a.writesPrimaryOutputs = a'.writesPrimaryOutputs := by
  rw [← Bool.not_inj_iff, Bool.eq_iff_iff, Bool.not_eq_true', Bool.not_eq_true',
    writesPrimaryOutputs_eq_false_iff, writesPrimaryOutputs_eq_false_iff]
  exact h

namespace Options

variable {o o' : Options}

theorem taggedPaths_congr
    (hwrites : o.requestedAction.writesPrimaryOutputs = o'.requestedAction.writesPrimaryOutputs)
    (houtputs : o.outputFilenames = o'.outputFilenames)
    (hsides : ∀ k ∈ enumeratedSides, o.configured? k.2 = o'.configured? k.2) :
    o.taggedPaths = o'.taggedPaths := by
  have hprimary : o.primaryOutputs = o'.primaryOutputs := by
    rw [primaryOutputs, primaryOutputs, hwrites, houtputs]
  have htagged : enumeratedSides.filterMap o.taggedSide = enumeratedSides.filterMap o'.taggedSide :=
    List.filterMap_congr fun k hk => by rw [taggedSide, taggedSide, hsides k hk]
  rw [taggedPaths, taggedPaths, hprimary, htagged]

theorem visitOutputs_congr (h : o.taggedPaths = o'.taggedPaths) {σ : Type}
    (visit : σ → OutputKind → String → σ) (start : σ) :
    o.visitOutputs visit start = o'.visitOutputs visit start := by
  rw [visitOutputs_eq_foldl, visitOutputs_eq_foldl, h]

theorem outputPaths_congr (h : o.taggedPaths = o'.taggedPaths) :
    o.outputPaths = o'.outputPaths := by
  rw [outputPaths_eq, outputPaths_eq, h]

theorem hasUnused_congr (haction : o.requestedAction = o'.requestedAction) {k : SideOutput}
    (hside : o.configured? k = o'.configured? k) : o.hasUnused k = o'.hasUnused k := by
  rw [hasUnused, hasUnused, hside, haction]

theorem unusedPaths_congr (haction : o.requestedAction = o'.requestedAction)
    (hsides : ∀ k, o.configured? k = o'.configured? k) : o.unusedPaths = o'.unusedPaths := by
  have hunused : o.unused? = o'.unused? := by
    funext k
    rw [unused?, unused?, hsides, haction]
  rw [unusedPaths, unusedPaths, hunused]

theorem namedOutput?_congr (houtputs : o.outputFilenames = o'.outputFilenames) :
    o.namedOutput? = o'.namedOutput? := by
  rw [namedOutput?, namedOutput?, singleOutput?, singleOutput?, houtputs]

/-- Of the inputs only the primary ones count for the name of other artifacts. -/
theorem artifactName_congr (houtputs : o.outputFilenames = o'.outputFilenames)
    (hname : o.moduleName = o'.moduleName) (hprimaries : o.inputs.primaries = o'.inputs.primaries) :
    o.artifactName = o'.artifactName := by
  rw [artifactName, artifactName, namedOutput?_congr houtputs,
    Inputs.uniquePrimary?_congr hprimaries, hname]

theorem outputIsDirectory_congr (houtputs : o.outputFilenames = o'.outputFilenames)
    (files : Files) : o.outputIsDirectory files = o'.outputIsDirectory files := by
  rw [outputIsDirectory, outputIsDirectory, namedOutput?_congr houtputs]

theorem moduleNameRequired_congr (haction : o.requestedAction = o'.requestedAction) :
    o.moduleNameRequired = o'.moduleNameRequired := by
  rw [moduleNameRequired, moduleNameRequired, haction]

end Options

/-! ## Inputs that are not primary -/

namespace Inputs

/-- One change to the inputs that are not primary: one of them is put in, taken out, or moved past
its neighbour, which may be primary. -/
inductive Edit : Inputs → Inputs → Prop
  | insert (before after : Inputs) {i : InputFile} (hi : i.primary = false) :
    Edit (before ++ after) (before ++ i :: after)
  | delete (before after : Inputs) {i : InputFile} (hi : i.primary = false) :
    Edit (before ++ i :: after) (before ++ after)
  | moveBack (before after : Inputs) {i : InputFile} (j : InputFile) (hi : i.primary = false) :
    Edit (before ++ i :: j :: after) (before ++ j :: i :: after)
  | moveForward (before after : Inputs) {i : InputFile} (j : InputFile) (hi : i.primary = false) :
    Edit (before ++ j :: i :: after) (before ++ i :: j :: after)

/-- Several changes to the inputs that are not primary. -/
abbrev Edits : Inputs → Inputs → Prop := Relation.ReflTransGen Edit

/-- A change keeps the primary inputs in their order. -/
theorem primaries_of_edit {inputs inputs' : Inputs} (h : Edit inputs inputs') :
    inputs'.primaries = inputs.primaries := by
  -- A moved input is left out before and after, whether or not its neighbour is.
  have hmove : ∀ (after : Inputs) {i : InputFile} (j : InputFile), i.primary = false →
      primaries (i :: j :: after) = primaries (j :: i :: after) := by
    intro after i j hi
    rw [primaries_cons_of_not_primary hi]
    cases hj : j.primary with
    | true =>
      rw [primaries_cons_of_primary hj, primaries_cons_of_primary hj,
        primaries_cons_of_not_primary hi]
    | false =>
      rw [primaries_cons_of_not_primary hj, primaries_cons_of_not_primary hj,
        primaries_cons_of_not_primary hi]
  cases h with
  | insert before after hi =>
    rw [primaries_append, primaries_append, primaries_cons_of_not_primary hi]
  | delete before after hi =>
    rw [primaries_append, primaries_append, primaries_cons_of_not_primary hi]
  | moveBack before after j hi => rw [primaries_append, primaries_append, hmove after j hi]
  | moveForward before after j hi => rw [primaries_append, primaries_append, hmove after j hi]

/-- Any number of changes keeps the primary inputs in their order. -/
theorem primaries_of_edits {inputs inputs' : Inputs} (h : Edits inputs inputs') :
    inputs'.primaries = inputs.primaries := by
  induction h with
  | refl => rfl
  | tail _ hedit ih => exact (primaries_of_edit hedit).trans ih

/-- Each change can be undone. -/
instance : Std.Symm Edit where
  symm inputs inputs' h := by
    cases h with
    | insert before after hi => exact .delete before after hi
    | delete before after hi => exact .insert before after hi
    | moveBack before after j hi => exact .moveForward before after j hi
    | moveForward before after j hi => exact .moveBack before after j hi

/-- Changes behind an input. -/
theorem Edit.cons (i : InputFile) {inputs inputs' : Inputs} (h : Edit inputs inputs') :
    Edit (i :: inputs) (i :: inputs') := by
  cases h with
  | insert before after hi => exact .insert (i :: before) after hi
  | delete before after hi => exact .delete (i :: before) after hi
  | moveBack before after j hi => exact .moveBack (i :: before) after j hi
  | moveForward before after j hi => exact .moveForward (i :: before) after j hi

/-- All inputs that are not primary can be taken out. -/
theorem edits_primaries (inputs : Inputs) : Edits inputs inputs.primaries := by
  induction inputs with
  | nil => exact .refl
  | cons i inputs ih =>
    cases hi : i.primary with
    | true =>
      rw [primaries_cons_of_primary hi]
      exact ih.lift (i :: ·) fun _ _ hedit => hedit.cons i
    | false =>
      rw [primaries_cons_of_not_primary hi]
      exact .head (.delete [] inputs hi) ih

/-- Inputs can be changed into each other if they have the same primary inputs in the same order. -/
theorem edits_iff {inputs inputs' : Inputs} :
    Edits inputs inputs' ↔ inputs.primaries = inputs'.primaries := by
  constructor
  · exact fun h => (primaries_of_edits h).symm
  · intro h
    have hback : Edits inputs'.primaries inputs' := symm_of Edits (edits_primaries inputs')
    rw [← h] at hback
    exact (edits_primaries inputs).trans hback

end Inputs

/-! ## All answers -/

namespace Options

/-- The report on a configuration counts the primary inputs only. -/
theorem report_of_edits {o : Options} {inputs : Inputs} (h : Inputs.Edits o.inputs inputs)
    (files : Files) :
    Report.ofOptions { o with inputs := inputs } files = Report.ofOptions o files := by
  have hname : artifactName { o with inputs := inputs } = o.artifactName :=
    artifactName_congr rfl rfl (Inputs.primaries_of_edits h)
  show Report.assemble { o with inputs := inputs } o.taggedPaths (o.outputIsDirectory files) = _
  rw [Report.assemble, hname]
  rfl

/-- The side outputs that no answer on output paths looks at. -/
theorem configured?_setSidePath {o : Options} {k : SideOutput} (path : Option String)
    (hk : k = .dependencies ∨ k = .loadedModuleTrace) :
    ∀ k' ∈ enumeratedSides, (o.setSidePath k path).configured? k'.2 = o.configured? k'.2 := by
  intro k' hk'
  simp only [enumeratedSides, List.mem_cons, List.not_mem_nil, or_false] at hk'
  rcases hk with rfl | rfl <;> rcases hk' with rfl | rfl | rfl <;> rfl

theorem taggedPaths_setSidePath {o : Options} {k : SideOutput} (path : Option String)
    (hk : k = .dependencies ∨ k = .loadedModuleTrace) :
    (o.setSidePath k path).taggedPaths = o.taggedPaths :=
  taggedPaths_congr (by rw [requestedAction_setSidePath]) (o.outputFilenames_setSidePath k path)
    (configured?_setSidePath path hk)

/-- Each answer hangs on a part of the options only. Other inputs than primary ones change no
report, and where dependencies and traces go changes no output path and neither answer on the
single output. -/
theorem answers_hang_on_parts (o o' : Options) (files : Files) :
    -- The output paths.
    (o.outputFilenames = o'.outputFilenames →
      (∀ k ∈ [SideOutput.module, .moduleDoc, .objcHeader], o.sidePath k = o'.sidePath k) →
      ((o.requestedAction = .emitModuleOnly ∨ o.requestedAction = .mergeModules) ↔
        (o'.requestedAction = .emitModuleOnly ∨ o'.requestedAction = .mergeModules)) →
      o.taggedPaths = o'.taggedPaths ∧
      ∀ (σ : Type) (visit : σ → OutputKind → String → σ) (start : σ),
        o.visitOutputs visit start = o'.visitOutputs visit start) ∧
    -- The unused paths.
    (o.requestedAction = o'.requestedAction → (∀ k, o.sidePath k = o'.sidePath k) →
      o.unusedPaths = o'.unusedPaths ∧ ∀ k, o.hasUnused k = o'.hasUnused k) ∧
    -- The single output.
    (o.outputFilenames = o'.outputFilenames → o.moduleName = o'.moduleName →
      o.inputs.primaries = o'.inputs.primaries → o.artifactName = o'.artifactName) ∧
    (o.outputFilenames = o'.outputFilenames →
      o.outputIsDirectory files = o'.outputIsDirectory files) ∧
    -- The inputs that are not primary.
    (∀ inputs, (Inputs.Edits o.inputs inputs ↔ o.inputs.primaries = inputs.primaries) ∧
      (Inputs.Edits o.inputs inputs →
        Report.ofOptions { o with inputs := inputs } files = Report.ofOptions o files)) ∧
    -- The dependencies and the trace.
    (∀ k path, k = .dependencies ∨ k = .loadedModuleTrace →
      (o.setSidePath k path).taggedPaths = o.taggedPaths ∧
      (∀ (σ : Type) (visit : σ → OutputKind → String → σ) (start : σ),
        (o.setSidePath k path).visitOutputs visit start = o.visitOutputs visit start) ∧
      (o.setSidePath k path).artifactName = o.artifactName ∧
      (o.setSidePath k path).outputIsDirectory files = o.outputIsDirectory files) := by
  refine ⟨fun houtputs hsides hactions => ?_, fun haction hsides => ?_, artifactName_congr,
    fun houtputs => outputIsDirectory_congr houtputs files,
    fun inputs => ⟨Inputs.edits_iff, fun hedits => report_of_edits hedits files⟩,
    fun k path hk => ?_⟩
  · have hconfigured : ∀ k ∈ enumeratedSides, o.configured? k.2 = o'.configured? k.2 := by
      intro k hk
      rw [configured?, configured?, hsides k.2 (List.mem_map_of_mem hk)]
    have htagged : o.taggedPaths = o'.taggedPaths :=
      taggedPaths_congr (Action.writesPrimaryOutputs_congr hactions) houtputs hconfigured
    exact ⟨htagged, fun σ visit start => visitOutputs_congr htagged visit start⟩
  · have hconfigured : ∀ k, o.configured? k = o'.configured? k := by
      intro k
      rw [configured?, configured?, hsides]
    exact ⟨unusedPaths_congr haction hconfigured,
      fun k => hasUnused_congr haction (hconfigured k)⟩
  · -- No other field is touched.
    have houtputs : (o.setSidePath k path).outputFilenames = o.outputFilenames :=
      o.outputFilenames_setSidePath k path
    exact ⟨taggedPaths_setSidePath path hk,
      fun σ visit start => visitOutputs_congr (taggedPaths_setSidePath path hk) visit start,
      artifactName_congr houtputs (o.moduleName_setSidePath k path) (by rw [inputs_setSidePath]),
      outputIsDirectory_congr houtputs files⟩

/-- Options whose name for other artifacts comes from an input. -/
def primarySample : Options :=
  { requestedAction := .emitObject, outputFilenames := ["-"], modulePath := some "m",
    moduleName := "M", inputs := [⟨.ofText "d/a", true⟩] }

/-- Options that share the output paths and the name with the sample. -/
def secondarySample : Options :=
  { requestedAction := .emitAssembly, outputFilenames := ["-"], modulePath := some "m",
    dependenciesPath := some "d", moduleName := "M",
    inputs := [⟨.ofText "b", false⟩, ⟨.ofText "d/a", true⟩] }

/-- A view in which everything is a directory. -/
def directoriesOnly : Files := ⟨fun _ => .error .isDirectory, fun _ => true⟩

/-- The samples share three answers, and the other inputs and a path for dependencies change no
report and no output path. -/
theorem answers_hang_on_parts_sample :
    primarySample.taggedPaths = secondarySample.taggedPaths ∧
    secondarySample.artifactName = "a" ∧
    primarySample.outputIsDirectory directoriesOnly =
      secondarySample.outputIsDirectory directoriesOnly ∧
    primarySample.unusedPaths =
      Options.unusedPaths { primarySample with inputs := secondarySample.inputs } ∧
    Report.ofOptions { primarySample with inputs := secondarySample.inputs } directoriesOnly =
      Report.ofOptions primarySample directoriesOnly ∧
    (primarySample.setSidePath .dependencies (some "d")).taggedPaths =
      primarySample.taggedPaths := by
  have hedits : Inputs.Edits primarySample.inputs secondarySample.inputs :=
    .single (.insert [] primarySample.inputs rfl)
  have hname : primarySample.artifactName = "a" := by
    decide +kernel
  obtain ⟨hpaths, -, hartifact, hdirectory, hreport, hside⟩ :=
    answers_hang_on_parts primarySample secondarySample directoriesOnly
  obtain ⟨-, hunused, -⟩ := answers_hang_on_parts primarySample
    { primarySample with inputs := secondarySample.inputs } directoriesOnly
  exact ⟨(hpaths rfl (by decide) (by decide)).1, (hartifact rfl rfl (by decide)).symm.trans hname,
    hdirectory rfl, (hunused rfl fun _ => rfl).1, (hreport _).2 hedits,
    (hside .dependencies (some "d") (Or.inl rfl)).1⟩

end Options

end FrontendPolicy
