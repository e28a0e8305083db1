import FrontendPolicy.Options.Basic

/-!
# Paths of side outputs

The paths of side outputs are five fields that are read and set by kind. Here are the laws that make
this as good as five separate fields: the path that was set is read, the other paths stay, and paths
of different kinds may be set in either order. Options are determined by their fields, with the
paths taken by their kinds (`Options.eq_of_fields`).
-/

namespace FrontendPolicy

namespace Options

variable (o : Options) (k : SideOutput) (path : Option String)

theorem sidePath_setSidePath_self : (o.setSidePath k path).sidePath k = path := by
  cases k <;> rfl

theorem sidePath_setSidePath_of_ne {k k' : SideOutput} (h : k ≠ k') (path : Option String) :
    (o.setSidePath k' path).sidePath k = o.sidePath k := by
  cases k <;> cases k' <;> first | rfl | exact absurd rfl h

theorem setSidePath_self : o.setSidePath k (o.sidePath k) = o := by
  cases k <;> rfl

theorem setSidePath_comm {k k' : SideOutput} (h : k ≠ k') (p p' : Option String) (o : Options) :
    (o.setSidePath k' p').setSidePath k p = (o.setSidePath k p).setSidePath k' p' := by
  cases k <;> cases k' <;> first | rfl | exact absurd rfl h

/-- A path is configured if it is set to a text that is not empty. -/
theorem configured?_eq_some_iff {o : Options} {k : SideOutput} {path : String} :
    o.configured? k = some path ↔ o.sidePath k = some path ∧ path ≠ "" := by
  rw [configured?, Option.filter_eq_some_iff, Bool.not_eq_true', String.isEmpty_eq_false_iff]

/-! ## The other fields -/

@[simp] theorem requestedAction_setSidePath :
    (o.setSidePath k path).requestedAction = o.requestedAction := by
  cases k <;> rfl

@[simp] theorem outputFilenames_setSidePath :
    (o.setSidePath k path).outputFilenames = o.outputFilenames := by
  cases k <;> rfl

@[simp] theorem moduleName_setSidePath : (o.setSidePath k path).moduleName = o.moduleName := by
  cases k <;> rfl

@[simp] theorem inputs_setSidePath : (o.setSidePath k path).inputs = o.inputs := by
  cases k <;> rfl

/-- Options are determined by their fields. -/
theorem eq_of_fields {o o' : Options} (haction : o.requestedAction = o'.requestedAction)
    (houtputs : o.outputFilenames = o'.outputFilenames)
    (hsides : ∀ k, o.sidePath k = o'.sidePath k) (hname : o.moduleName = o'.moduleName)
    (hinputs : o.inputs = o'.inputs) : o = o' := by
  have hmodule : o.modulePath = o'.modulePath := hsides .module
  have hdoc : o.moduleDocPath = o'.moduleDocPath := hsides .moduleDoc
  have hheader : o.objcHeaderPath = o'.objcHeaderPath := hsides .objcHeader
  have hdependencies : o.dependenciesPath = o'.dependenciesPath := hsides .dependencies
  have htrace : o.loadedModuleTracePath = o'.loadedModuleTracePath := hsides .loadedModuleTrace
  cases o
  cases o'
  simp only at haction houtputs hmodule hdoc hheader hdependencies htrace hname hinputs
  rw [haction, houtputs, hmodule, hdoc, hheader, hdependencies, htrace, hname, hinputs]

/-- Options are the same if they agree in every field, where inputs need only be the same. -/
theorem sameAs_iff {o o' : Options} : o.sameAs o' = true ↔
    o.requestedAction = o'.requestedAction ∧ o.outputFilenames = o'.outputFilenames ∧
      (∀ k, o.sidePath k = o'.sidePath k) ∧ o.moduleName = o'.moduleName ∧
      o.inputs.sameAs o'.inputs = true := by
  simp only [sameAs, Bool.and_eq_true, beq_iff_eq]
  constructor
  · intro h
    obtain ⟨⟨⟨⟨⟨⟨⟨⟨haction, houtputs⟩, hmodule⟩, hdoc⟩, hheader⟩, hdependencies⟩, htrace⟩, hname⟩,
      hinputs⟩ := h
    refine ⟨haction, houtputs, fun k => ?_, hname, hinputs⟩
    cases k with
    | dependencies => exact hdependencies
    | objcHeader => exact hheader
    | module => exact hmodule
    | moduleDoc => exact hdoc
    | loadedModuleTrace => exact htrace
  · rintro ⟨haction, houtputs, hsides, hname, hinputs⟩
    exact ⟨⟨⟨⟨⟨⟨⟨⟨haction, houtputs⟩, hsides .module⟩, hsides .moduleDoc⟩, hsides .objcHeader⟩,
      hsides .dependencies⟩, hsides .loadedModuleTrace⟩, hname⟩, hinputs⟩

end Options

end FrontendPolicy
