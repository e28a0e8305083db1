import Mathlib.Logic.ExistsUnique
import FrontendPolicy.Proofs.Options.ArtifactName
import FrontendPolicy.Proofs.Options.Changes
import FrontendPolicy.Proofs.Store.Contents

/-!
# The single output

Output names take one of four forms (`TakesForm`), and all queries about the single output agree on
it. Each form is told by one query, and the other queries follow because a list of names takes no
second form.
-/

namespace FrontendPolicy

/-! ## Forms of output names -/

/-- What a list of output names comes to. -/
inductive OutputForm where
  /-- A single name of a file. -/
  | named (name : String)
  /-- The standard output alone. -/
  | stdout
  /-- A single name that is empty. -/
  | blank
  /-- No name, or several. -/
  | noneOrSeveral
deriving DecidableEq, Repr

/-- Whether a list of output names takes a form. -/
def TakesForm (names : List String) : OutputForm → Prop
  | .named name => names = [name] ∧ name ≠ "" ∧ name ≠ "-"
  | .stdout => names = ["-"]
  | .blank => names = [""]
  | .noneOrSeveral => names.length = 0 ∨ 2 ≤ names.length

/-- The form of a list of output names. -/
def formOf : List String → OutputForm
  | [name] => if name = "" then .blank else if name = "-" then .stdout else .named name
  | _ => .noneOrSeveral

variable {names : List String} {form form' : OutputForm}

/-- A list of names takes the form that is found for it and no other. -/
theorem takesForm_iff : TakesForm names form ↔ formOf names = form := by
  match names with
  | [] => cases form <;> simp [TakesForm, formOf]
  | _ :: _ :: _ => cases form <;> simp [TakesForm, formOf]
  | [name] =>
    -- The two special names are found before a name is taken for that of a file.
    rw [formOf]
    by_cases hblank : name = ""
    · rw [if_pos hblank]
      cases form <;> grind [TakesForm]
    by_cases hstdout : name = "-"
    · rw [if_neg hblank, if_pos hstdout]
      cases form <;> grind [TakesForm]
    · rw [if_neg hblank, if_neg hstdout]
      cases form <;> grind [TakesForm]

theorem existsUnique_takesForm (names : List String) : ∃! form, TakesForm names form :=
  ⟨formOf names, takesForm_iff.mpr rfl, fun _ h => (takesForm_iff.mp h).symm⟩

theorem TakesForm.unique (h : TakesForm names form) (h' : TakesForm names form') : form = form' :=
  (takesForm_iff.mp h).symm.trans (takesForm_iff.mp h')

namespace Options

variable {o : Options}

/-! ## Each form is told by a query -/

theorem takesForm_named_iff {name : String} :
    TakesForm o.outputFilenames (.named name) ↔ o.namedOutput? = some name :=
  namedOutput?_eq_some_iff.symm

theorem hasNamedOutput_iff :
    o.hasNamedOutput = true ↔ ∃ name, TakesForm o.outputFilenames (.named name) := by
  rw [hasNamedOutput, Option.isSome_iff_exists]
  simp only [takesForm_named_iff]

theorem takesForm_stdout_iff : TakesForm o.outputFilenames .stdout ↔ o.isStdout = true := by
  rw [isStdout, beq_iff_eq, singleOutput?_eq_some_iff]
  rfl

theorem takesForm_blank_iff : TakesForm o.outputFilenames .blank ↔ o.singleOutput? = some "" :=
  singleOutput?_eq_some_iff.symm

theorem takesForm_noneOrSeveral_iff :
    TakesForm o.outputFilenames .noneOrSeveral ↔ o.singleOutput? = none := by
  rw [Option.eq_none_iff_forall_ne_some]
  simp only [ne_eq, singleOutput?_eq_some_iff, TakesForm]
  match o.outputFilenames with
  | [] => simp
  | [name] => simp
  | _ :: _ :: _ => simp

/-! ## What the other queries answer -/

/-- No file is named in the other forms. -/
theorem namedOutput?_of_takesForm (h : TakesForm o.outputFilenames form)
    (hform : ∀ name, form ≠ .named name) : o.namedOutput? = none := by
  rw [Option.eq_none_iff_forall_ne_some]
  exact fun name hname => hform name (h.unique (takesForm_named_iff.mpr hname))

theorem isStdout_of_takesForm (h : TakesForm o.outputFilenames form) (hform : form ≠ .stdout) :
    o.isStdout = false := by
  rw [← Bool.not_eq_true, ← takesForm_stdout_iff]
  exact fun hstdout => hform (h.unique hstdout)

theorem outputIsDirectory_of_named {name : String} (h : o.namedOutput? = some name)
    (files : Files) : o.outputIsDirectory files = files.isDirectory (.ofText name) := by
  rw [outputIsDirectory, h]

theorem outputIsDirectory_of_unnamed (h : o.namedOutput? = none) (files : Files) :
    o.outputIsDirectory files = false := by
  rw [outputIsDirectory, h]

/-! ## More outputs -/

/-- Options with an output have several after changes that add another one. -/
theorem takesForm_applyAll (h : o.outputFilenames ≠ []) {changes : List Change} {name : String}
    (hname : .output name ∈ changes) :
    TakesForm (o.applyAll changes).outputFilenames .noneOrSeveral := by
  have hadded : name ∈ changes.filterMap Change.output? :=
    List.mem_filterMap.mpr ⟨.output name, hname, rfl⟩
  have hfirst := List.length_pos_iff.mpr h
  have hmore := List.length_pos_of_mem hadded
  right
  rw [applyAll_adds outputFilenames_apply, List.length_append]
  omega

/-- The queries about the single output agree. Output names take just one of four forms. A single
name of a file is the single and the named output, other artifacts are named after it, and it is
looked up as a directory. In the other forms nothing is a directory, whatever there is under the
names, and where there is an output, one more leads to the last form. -/
theorem single_output_queries_agree (o : Options) :
    (∃! form, TakesForm o.outputFilenames form) ∧
    (o.hasNamedOutput = true ↔ ∃ name, TakesForm o.outputFilenames (.named name)) ∧
    -- A single name of a file.
    (∀ name, TakesForm o.outputFilenames (.named name) →
      o.singleOutput? = some name ∧ o.namedOutput? = some name ∧ o.isStdout = false ∧
      (∀ inputs moduleName,
        artifactName { o with inputs := inputs, moduleName := moduleName } = name) ∧
      ∀ s : Store, o.outputIsDirectory s.files = true ↔
        ∃ l, s.locate (.ofText name) = .ok (l, .directory)) ∧
    -- The other forms.
    (TakesForm o.outputFilenames .stdout →
      o.singleOutput? = some "-" ∧ o.namedOutput? = none ∧ o.isStdout = true) ∧
    (TakesForm o.outputFilenames .blank →
      o.singleOutput? = some "" ∧ o.namedOutput? = none ∧ o.isStdout = false) ∧
    (TakesForm o.outputFilenames .noneOrSeveral →
      o.singleOutput? = none ∧ o.namedOutput? = none ∧ o.isStdout = false) ∧
    (∀ form, TakesForm o.outputFilenames form → (∀ name, form ≠ .named name) →
      ∀ files, o.outputIsDirectory files = false) ∧
    -- More outputs, alone or among other changes.
    (o.outputFilenames ≠ [] → ∀ name,
      TakesForm (o.apply (.output name)).outputFilenames .noneOrSeveral ∧
      ∀ changes, .output name ∈ changes →
        TakesForm (o.applyAll changes).outputFilenames .noneOrSeveral) := by
  refine ⟨existsUnique_takesForm o.outputFilenames, hasNamedOutput_iff, fun name h => ?_,
    fun h => ?_, fun h => ?_, fun h => ?_, fun form h hform files => ?_,
    fun hne name => ⟨?_, fun changes hname => ?_⟩⟩
  · have hnamed : o.namedOutput? = some name := takesForm_named_iff.mp h
    refine ⟨singleOutput?_eq_some_iff.mpr h.1, hnamed, isStdout_of_takesForm h (by simp),
      fun inputs moduleName => artifactName_of_named hnamed, fun s => ?_⟩
    rw [outputIsDirectory_of_named hnamed]
    exact s.isDirectory_iff_locate (.ofText name)
  · exact ⟨singleOutput?_eq_some_iff.mpr h, namedOutput?_of_takesForm h (by simp),
      takesForm_stdout_iff.mp h⟩
  · exact ⟨takesForm_blank_iff.mp h, namedOutput?_of_takesForm h (by simp),
      isStdout_of_takesForm h (by simp)⟩
  · exact ⟨takesForm_noneOrSeveral_iff.mp h, namedOutput?_of_takesForm h (by simp),
      isStdout_of_takesForm h (by simp)⟩
  · exact outputIsDirectory_of_unnamed (namedOutput?_of_takesForm h hform) files
  · exact takesForm_applyAll hne (List.mem_singleton_self (Change.output name))
  · exact takesForm_applyAll hne hname

/-- A store with directories under the special name and under another one. -/
def directoryStore : Store :=
  ⟨[], [([(Path.ofText "-").bytes], .directory), ([(Path.ofText "d").bytes], .directory)]⟩

/-- The other name is looked up in the store and the special name is not, nor is the other one after
it is added to itself. -/
theorem single_output_queries_agree_sample :
    Options.outputIsDirectory { outputFilenames := ["d"] } directoryStore.files = true ∧
    Options.artifactName { outputFilenames := ["d"], moduleName := "M" } = "d" ∧
    directoryStore.isDirectory (.ofText "-") = true ∧
    Options.outputIsDirectory { outputFilenames := ["-"] } directoryStore.files = false ∧
    Options.outputIsDirectory { outputFilenames := ["d", "d"] } directoryStore.files = false := by
  obtain ⟨-, -, hnamed, -, -, -, -, hmore⟩ := single_output_queries_agree { outputFilenames := ["d"] }
  obtain ⟨-, -, -, -, -, -, hstdout, -⟩ := single_output_queries_agree { outputFilenames := ["-"] }
  obtain ⟨-, -, -, -, -, -, hseveral, -⟩ :=
    single_output_queries_agree { outputFilenames := ["d", "d"] }
  obtain ⟨-, -, -, hname, hdirectory⟩ := hnamed "d" ⟨rfl, by decide, by decide⟩
  have htwice := (hmore (List.cons_ne_nil _ _) "d").1
  exact ⟨(hdirectory directoryStore).mpr ⟨[(Path.ofText "d").bytes], by decide +kernel⟩,
    hname [] "M", by decide +kernel, hstdout .stdout rfl (by simp) _,
    hseveral .noneOrSeveral htwice (by simp) _⟩

end Options

end FrontendPolicy
