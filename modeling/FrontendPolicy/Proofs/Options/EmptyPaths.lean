import FrontendPolicy.Proofs.Command.Check
import FrontendPolicy.Proofs.Options.Independence
import FrontendPolicy.Proofs.Options.Saving

/-!
# Empty paths of side outputs

A path of a side output that is the empty text counts as not configured. Options are `Options.Alike`
if they differ in nothing but how a path is not configured. This is all that an answer can see of
it, so the answers need one lemma each and no further thought about which paths were taken away.
-/

namespace FrontendPolicy

namespace Options

/-- The options without the paths of some side outputs. -/
def unset (o : Options) (ks : List SideOutput) : Options :=
  ks.foldl (fun o k => o.setSidePath k none) o

/-! ## Options that are alike -/

/-- Two options differ in nothing but how a path is not configured. -/
structure Alike (o o' : Options) : Prop where
  requestedAction : o'.requestedAction = o.requestedAction
  outputFilenames : o'.outputFilenames = o.outputFilenames
  configured? : ∀ k, o'.configured? k = o.configured? k
  moduleName : o'.moduleName = o.moduleName
  inputs : o'.inputs = o.inputs

theorem Alike.refl (o : Options) : o.Alike o := ⟨rfl, rfl, fun _ => rfl, rfl, rfl⟩

theorem Alike.trans {o o' o'' : Options} (h : o.Alike o') (h' : o'.Alike o'') : o.Alike o'' where
  requestedAction := h'.requestedAction.trans h.requestedAction
  outputFilenames := h'.outputFilenames.trans h.outputFilenames
  configured? k := (h'.configured? k).trans (h.configured? k)
  moduleName := h'.moduleName.trans h.moduleName
  inputs := h'.inputs.trans h.inputs

/-- Leaving out one empty path. -/
theorem alike_setSidePath {o : Options} {k : SideOutput}
    (h : o.sidePath k = none ∨ o.sidePath k = some "") : o.Alike (o.setSidePath k none) := by
  have hconfigured : ∀ k', (o.setSidePath k none).configured? k' = o.configured? k' := by
    intro k'
    by_cases hk : k' = k
    · rw [hk, configured?, configured?, sidePath_setSidePath_self]
      rcases h with h | h
      · rw [h]
      · rw [h]
        rfl
    · rw [configured?, configured?, sidePath_setSidePath_of_ne o hk]
  cases k <;> exact ⟨rfl, rfl, hconfigured, rfl, rfl⟩

/-- Leaving out some empty paths. -/
theorem alike_unset {ks : List SideOutput} : ∀ {o : Options},
    (∀ k ∈ ks, o.sidePath k = none ∨ o.sidePath k = some "") → o.Alike (o.unset ks) := by
  induction ks with
  | nil =>
    intro o _
    exact Alike.refl o
  | cons k ks ih =>
    intro o h
    refine (alike_setSidePath (h k List.mem_cons_self)).trans (ih fun k' hk' => ?_)
    by_cases hk : k' = k
    · rw [hk, sidePath_setSidePath_self]
      exact Or.inl rfl
    · rw [sidePath_setSidePath_of_ne o hk]
      exact h k' (List.mem_cons_of_mem k hk')

/-- A path that is left out stays so. -/
theorem sidePath_unset_of_none {ks : List SideOutput} {k : SideOutput} : ∀ {o : Options},
    o.sidePath k = none → (o.unset ks).sidePath k = none := by
  induction ks with
  | nil => exact id
  | cons k' ks ih =>
    intro o h
    refine ih ?_
    by_cases hk : k = k'
    · rw [hk, sidePath_setSidePath_self]
    · rwa [sidePath_setSidePath_of_ne o hk]

theorem sidePath_unset_of_mem {ks : List SideOutput} {k : SideOutput} : ∀ {o : Options},
    k ∈ ks → (o.unset ks).sidePath k = none := by
  induction ks with
  | nil => exact fun h => absurd h List.not_mem_nil
  | cons k' ks ih =>
    intro o h
    rcases List.mem_cons.mp h with rfl | h
    · show ((o.setSidePath k none).unset ks).sidePath k = none
      exact sidePath_unset_of_none (sidePath_setSidePath_self o k none)
    · exact ih h

/-! ## What they share -/

variable {o o' : Options}

theorem Alike.taggedPaths (h : o.Alike o') : o'.taggedPaths = o.taggedPaths :=
  taggedPaths_congr (by rw [h.requestedAction]) h.outputFilenames fun k _ => h.configured? k.2

theorem Alike.visitOutputs (h : o.Alike o') {σ : Type} (visit : σ → OutputKind → String → σ)
    (start : σ) : o'.visitOutputs visit start = o.visitOutputs visit start :=
  visitOutputs_congr h.taggedPaths visit start

theorem Alike.outputPaths (h : o.Alike o') : o'.outputPaths = o.outputPaths :=
  outputPaths_congr h.taggedPaths

theorem Alike.hasUnused (h : o.Alike o') (k : SideOutput) : o'.hasUnused k = o.hasUnused k :=
  hasUnused_congr h.requestedAction (h.configured? k)

theorem Alike.unusedPaths (h : o.Alike o') : o'.unusedPaths = o.unusedPaths :=
  unusedPaths_congr h.requestedAction h.configured?

theorem Alike.namedOutput? (h : o.Alike o') : o'.namedOutput? = o.namedOutput? :=
  namedOutput?_congr h.outputFilenames

theorem Alike.artifactName (h : o.Alike o') : o'.artifactName = o.artifactName :=
  artifactName_congr h.outputFilenames h.moduleName (by rw [h.inputs])

theorem Alike.moduleNameRequired (h : o.Alike o') :
    o'.moduleNameRequired = o.moduleNameRequired := moduleNameRequired_congr h.requestedAction

theorem Alike.outputIsDirectory (h : o.Alike o') {files files' : Files}
    (hf : files'.isDirectory = files.isDirectory) :
    o'.outputIsDirectory files' = o.outputIsDirectory files := by
  rw [Options.outputIsDirectory, Options.outputIsDirectory, h.namedOutput?, hf]

theorem Alike.report (h : o.Alike o') {files files' : Files}
    (hf : files'.isDirectory = files.isDirectory) :
    Report.ofOptions o' files' = Report.ofOptions o files := by
  simp only [Report.ofOptions, Report.assemble, h.requestedAction, h.moduleName,
    h.moduleNameRequired, h.taggedPaths, h.artifactName, h.outputIsDirectory hf, h.unusedPaths]

theorem Alike.gatherEvents (h : o.Alike o') {files files' : Files}
    (hf : files'.isDirectory = files.isDirectory) :
    Report.gatherEvents o' files' = Report.gatherEvents o files := by
  rw [Report.gatherEvents, Report.gatherEvents, h.requestedAction, h.outputFilenames,
    h.namedOutput?, h.outputIsDirectory hf]

/-- Checks of options that are alike do the same. -/
theorem Alike.run_check (h : o.Alike o') {files files' : Files} {config : Path}
    (ho : Options.load files config = .ok o) (ho' : Options.load files' config = .ok o')
    (hf : files'.isDirectory = files.isDirectory) (json strict : Bool) :
    Command.run files' (.check config json strict) =
      Command.run files (.check config json strict) := by
  rw [Command.run_check_of_ok ho, Command.run_check_of_ok ho', h.report hf, h.gatherEvents hf,
    h.requestedAction]

/-! ## Written forms and files that are saved -/

/-- Options that are alike but not the same are written in different ways, in each form that is read
back. -/
theorem Alike.written_ne (h : o.Alike o') (hne : o ≠ o') {layout : Json.Document → String}
    {write : Options → Except Error String}
    (hwrite : ∀ o text, write o = .ok text ↔ ∃ d, o.document? = some d ∧ layout d = text)
    (hread : ∀ o text, write o = .ok text → ofJson text = .ok o) {text : String}
    (ht : write o = .ok text) : ∃ text', write o' = .ok text' ∧ text' ≠ text := by
  obtain ⟨d, hd, -⟩ := (hwrite o text).mp ht
  rcases document?_of_inputs h.inputs with ⟨hnone, -⟩ | ⟨-, d', -, hd'⟩
  · rw [hd] at hnone
    simp at hnone
  · have ht' : write o' = .ok (layout d') := (hwrite o' _).mpr ⟨d', hd', rfl⟩
    refine ⟨_, ht', ?_⟩
    -- One text is not read as two different options.
    rintro rfl
    exact hne (Except.ok.inj ((hread o _ ht).symm.trans (hread o' _ ht')))

/-- Options that are alike are saved alike. -/
theorem Alike.save (h : o.Alike o') (s : Store) (p : Path) :
    (∃ e, o.save s p = (.error e, s) ∧ o'.save s p = (.error e, s)) ∨
      ∃ text store text' store', o.save s p = (.ok text, store) ∧
        o'.save s p = (.ok text', store') ∧ load store.files p = .ok o ∧
        load store'.files p = .ok o' ∧ store'.files.isDirectory = store.files.isDirectory :=
  save_of_inputs h.inputs s p

/-! ## Empty paths -/

/-- Options that agree in every field have the same paths of side outputs. -/
theorem sidePath_of_sameAs (h : o.sameAs o' = true) (k : SideOutput) :
    o.sidePath k = o'.sidePath k := (sameAs_iff.mp h).2.2.1 k

/-- Leaving out empty paths of side outputs changes nothing that is answered, reported, printed or
told, also when the options are saved and checked. Still the options are not the same, and where
they are written they are written in other words. -/
theorem empty_paths_count_as_unset (o : Options) (ks : List SideOutput)
    (hks : ∀ k ∈ ks, o.sidePath k = some "") :
    -- The answers of the options.
    (o.unset ks).taggedPaths = o.taggedPaths ∧
    (∀ (σ : Type) (visit : σ → OutputKind → String → σ) (start : σ),
      (o.unset ks).visitOutputs visit start = o.visitOutputs visit start) ∧
    (o.unset ks).outputPaths = o.outputPaths ∧
    (∀ k, (o.unset ks).hasUnused k = o.hasUnused k) ∧
    (o.unset ks).unusedPaths = o.unusedPaths ∧
    (o.unset ks).artifactName = o.artifactName ∧
    (o.unset ks).moduleNameRequired = o.moduleNameRequired ∧
    -- The answers that need a file system, and the report in JSON.
    (∀ files, (o.unset ks).outputIsDirectory files = o.outputIsDirectory files ∧
      (Report.ofOptions (o.unset ks) files).document.compactText =
        (Report.ofOptions o files).document.compactText ∧
      (Report.ofOptions (o.unset ks) files).document.prettyText =
        (Report.ofOptions o files).document.prettyText) ∧
    -- Checks of the file that they are saved to.
    (∀ s p, (∃ e, o.save s p = (.error e, s) ∧ (o.unset ks).save s p = (.error e, s)) ∨
      ∃ text store text' store', o.save s p = (.ok text, store) ∧
        (o.unset ks).save s p = (.ok text', store') ∧ load store.files p = .ok o ∧
        load store'.files p = .ok (o.unset ks) ∧
        ∀ json strict, Command.run store'.files (.check p json strict) =
          Command.run store.files (.check p json strict)) ∧
    -- What they differ in.
    (ks ≠ [] → (o.unset ks).sameAs o = false ∧
      (∀ text, o.toJson = .ok text →
        ∃ text', (o.unset ks).toJson = .ok text' ∧ text' ≠ text) ∧
      (∀ text, o.fileText = .ok text →
        ∃ text', (o.unset ks).fileText = .ok text' ∧ text' ≠ text)) := by
  have h : o.Alike (o.unset ks) := alike_unset fun k hk => Or.inr (hks k hk)
  -- All answers but the last hang on what the two options share. They differ at one of the paths.
  refine ⟨h.taggedPaths, fun σ visit start => h.visitOutputs visit start, h.outputPaths,
    h.hasUnused, h.unusedPaths, h.artifactName, h.moduleNameRequired, fun files => ?_,
    fun s p => ?_, fun hne => ?_⟩
  · rw [h.report rfl]
    exact ⟨h.outputIsDirectory rfl, rfl, rfl⟩
  · rcases h.save s p with hfail | ⟨text, store, text', store', hs, hs', ho, ho', hf⟩
    · exact Or.inl hfail
    · exact Or.inr ⟨text, store, text', store', hs, hs', ho, ho', h.run_check ho ho' hf⟩
  · obtain ⟨k, hk⟩ := List.exists_mem_of_ne_nil ks hne
    have hside : (o.unset ks).sidePath k ≠ o.sidePath k := by
      rw [sidePath_unset_of_mem hk, hks k hk]
      exact (Option.some_ne_none "").symm
    have hdiffers : o ≠ o.unset ks := fun he => hside (by rw [← he])
    refine ⟨?_, fun text ht => ?_, fun text ht => ?_⟩
    · rw [← Bool.not_eq_true]
      exact fun hsame => hside (sidePath_of_sameAs hsame k)
    · exact h.written_ne hdiffers (fun _ _ => toJson_eq_ok_iff) (fun _ _ => ofJson_of_toJson) ht
    · exact h.written_ne hdiffers (fun _ _ => fileText_eq_ok_iff) (fun _ _ => ofJson_of_fileText) ht

/-- Options whose module and dependencies go to empty paths. -/
def emptyPathSample : Options :=
  { requestedAction := .emitPch, outputFilenames := ["d"], modulePath := some "",
    dependenciesPath := some "" }

/-- The sample has one output path with its empty paths or without them, but is not the same. -/
theorem empty_paths_count_as_unset_sample :
    (∀ k ∈ [SideOutput.module, .dependencies], emptyPathSample.sidePath k = some "") ∧
    (emptyPathSample.unset [.module, .dependencies]).outputPaths = ["d"] ∧
    (emptyPathSample.unset [.module, .dependencies]).sameAs emptyPathSample = false := by
  have hks : ∀ k ∈ [SideOutput.module, .dependencies], emptyPathSample.sidePath k = some "" := by
    decide
  have hsample : emptyPathSample.outputPaths = ["d"] := by
    decide
  obtain ⟨-, -, hpaths, -, -, -, -, -, -, hdiffers⟩ :=
    empty_paths_count_as_unset emptyPathSample [.module, .dependencies] hks
  exact ⟨hks, hpaths.trans hsample, (hdiffers (List.cons_ne_nil _ _)).1⟩

end Options

end FrontendPolicy
