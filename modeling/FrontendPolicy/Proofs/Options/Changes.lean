import FrontendPolicy.Options.Json
import FrontendPolicy.Proofs.Options.SidePaths
import FrontendPolicy.Report
import FrontendPolicy.Session

/-!
# Runs of changes

Every change is made to one field, its `Change.slot`. Fields are of two sorts: outputs and inputs
are added in order, and of anything else the last value counts. `Options.applyAll_adds` and
`Options.applyAll_replaces` follow a field of either sort through a run of changes, and
`Options.applyAll_eq` has all nine fields.
-/

namespace FrontendPolicy

/-- A field of options that changes are made to. -/
inductive Slot where
  | outputs
  | side (kind : SideOutput)
  | moduleName
  | inputs
deriving DecidableEq, Repr

/-! ## The values that a change gives -/

namespace Change

/-- The field that a change is made to. -/
def slot : Change → Slot
  | .output _ => .outputs
  | .side k _ => .side k
  | .moduleName _ => .moduleName
  | .input _ => .inputs

/-- The output name that a change adds. -/
def output? : Change → Option String
  | .output filename => some filename
  | .side _ _ | .moduleName _ | .input _ => none

/-- The path that a change gives to a side output. -/
def path? (k : SideOutput) : Change → Option String
  | .side k' path => if k' = k then some path else none
  | .output _ | .moduleName _ | .input _ => none

/-- The module name that a change gives. -/
def name? : Change → Option String
  | .moduleName name => some name
  | .output _ | .side _ _ | .input _ => none

/-- The input that a change adds. -/
def input? : Change → Option InputFile
  | .input i => some i
  | .output _ | .side _ _ | .moduleName _ => none

variable {c : Change}

theorem output?_of_slot_ne (h : c.slot ≠ .outputs) : c.output? = none := by
  cases c <;> first | rfl | exact absurd rfl h

theorem path?_of_slot_ne {k : SideOutput} (h : c.slot ≠ .side k) : c.path? k = none := by
  cases c with
  | side k' path => exact if_neg fun hk => h (congrArg Slot.side hk)
  | output | moduleName | input => rfl

theorem name?_of_slot_ne (h : c.slot ≠ .moduleName) : c.name? = none := by
  cases c <;> first | rfl | exact absurd rfl h

theorem input?_of_slot_ne (h : c.slot ≠ .inputs) : c.input? = none := by
  cases c <;> first | rfl | exact absurd rfl h

/-- The values for a field come from the changes to it. -/
theorem filterMap_filter_slot {β : Type} {s : Slot} {value : Change → Option β}
    (h : ∀ {c : Change}, c.slot ≠ s → value c = none) (changes : List Change) :
    (changes.filter (·.slot = s)).filterMap value = changes.filterMap value := by
  rw [List.filterMap_filter]
  congr 1
  funext c
  by_cases hc : c.slot = s
  · rw [if_pos (decide_eq_true hc)]
  · rw [h hc, ite_self]

end Change

/-- A session in which options are only changed makes the run of these changes. -/
theorem Session.performAll_changes (changes : List Change) : ∀ s : Session,
    s.performAll (changes.map .change) = { s with options := s.options.applyAll changes } := by
  induction changes with
  | nil => exact fun s => rfl
  | cons c changes ih => exact fun s => ih (s.perform (.change c)).2

namespace Options

/-! ## One change -/

section One

variable (o : Options) (c : Change)

theorem requestedAction_apply : (o.apply c).requestedAction = o.requestedAction := by
  cases c with
  | side k path => exact o.requestedAction_setSidePath k _
  | output | moduleName | input => rfl

theorem outputFilenames_apply :
    (o.apply c).outputFilenames = o.outputFilenames ++ c.output?.toList := by
  cases c with
  | output filename => rfl
  | side k path => exact (o.outputFilenames_setSidePath k _).trans (List.append_nil _).symm
  | moduleName | input => exact (List.append_nil _).symm

theorem sidePath_apply (k : SideOutput) :
    (o.apply c).sidePath k = ((c.path? k).map some).getD (o.sidePath k) := by
  cases c with
  | side k' path =>
    by_cases hk : k' = k
    · rw [hk, Change.path?, if_pos rfl]
      exact o.sidePath_setSidePath_self k _
    · rw [Change.path?, if_neg hk]
      exact o.sidePath_setSidePath_of_ne (Ne.symm hk) _
  | output | moduleName | input => rfl

theorem moduleName_apply : (o.apply c).moduleName = c.name?.getD o.moduleName := by
  cases c with
  | side k path => exact o.moduleName_setSidePath k _
  | output | moduleName | input => rfl

theorem inputs_apply : (o.apply c).inputs = o.inputs ++ c.input?.toList := by
  cases c with
  | input i => rfl
  | side k path => exact (o.inputs_setSidePath k _).trans (List.append_nil _).symm
  | output | moduleName => exact (List.append_nil _).symm

end One

/-! ## Runs -/

section Runs

variable {β : Type} {changes : List Change}

/-- What each change adds to, a run adds to in order. -/
theorem applyAll_adds {read : Options → List β} {value : Change → Option β}
    (h : ∀ o c, read (o.apply c) = read o ++ (value c).toList) : ∀ o : Options,
    read (o.applyAll changes) = read o ++ changes.filterMap value := by
  induction changes with
  | nil => exact fun o => (List.append_nil _).symm
  | cons c changes ih =>
    intro o
    have hrest : read (o.applyAll (c :: changes)) =
        read o ++ (value c).toList ++ changes.filterMap value := by
      rw [← h]
      exact ih (o.apply c)
    rw [hrest, List.append_assoc]
    cases hc : value c with
    | none => rw [List.filterMap_cons_none hc, Option.toList_none, List.nil_append]
    | some b => rw [List.filterMap_cons_some hc, Option.toList_some, List.singleton_append]

/-- Of what each change replaces, the last value counts after a run. -/
theorem applyAll_replaces {read : Options → β} {value : Change → Option β}
    (h : ∀ o c, read (o.apply c) = (value c).getD (read o)) : ∀ o : Options,
    read (o.applyAll changes) = (changes.filterMap value).getLast?.getD (read o) := by
  induction changes with
  | nil => exact fun o => rfl
  | cons c changes ih =>
    intro o
    have hrest : read (o.applyAll (c :: changes)) =
        (changes.filterMap value).getLast?.getD ((value c).getD (read o)) := by
      rw [← h]
      exact ih (o.apply c)
    rw [hrest]
    cases hc : value c with
    | none => rw [List.filterMap_cons_none hc, Option.getD_none]
    | some b =>
      rw [List.filterMap_cons_some hc, List.getLast?_cons, Option.getD_some, Option.getD_some]

end Runs

theorem requestedAction_applyAll (changes : List Change) : ∀ o : Options,
    (o.applyAll changes).requestedAction = o.requestedAction := by
  induction changes with
  | nil => exact fun o => rfl
  | cons c changes ih => exact fun o => (ih (o.apply c)).trans (o.requestedAction_apply c)

theorem sidePath_applyAll (changes : List Change) (o : Options) (k : SideOutput) :
    (o.applyAll changes).sidePath k =
      (changes.filterMap (Change.path? k)).getLast?.or (o.sidePath k) := by
  have hlast : (changes.filterMap fun c => (c.path? k).map some).getLast? =
      (changes.filterMap (Change.path? k)).getLast?.map some := by
    rw [← List.getLast?_map, List.map_filterMap]
  have hreplaced : (o.applyAll changes).sidePath k =
      (changes.filterMap fun c => (c.path? k).map some).getLast?.getD (o.sidePath k) :=
    @applyAll_replaces _ changes (sidePath · k) _ (fun o c => o.sidePath_apply c k) o
  rw [hreplaced, hlast]
  cases (changes.filterMap (Change.path? k)).getLast? <;> rfl

/-- The options after a run of changes. -/
theorem applyAll_eq (o : Options) (changes : List Change) : o.applyAll changes =
    { requestedAction := o.requestedAction
      outputFilenames := o.outputFilenames ++ changes.filterMap Change.output?
      modulePath := (changes.filterMap (Change.path? .module)).getLast?.or o.modulePath
      moduleDocPath := (changes.filterMap (Change.path? .moduleDoc)).getLast?.or o.moduleDocPath
      objcHeaderPath := (changes.filterMap (Change.path? .objcHeader)).getLast?.or o.objcHeaderPath
      dependenciesPath :=
        (changes.filterMap (Change.path? .dependencies)).getLast?.or o.dependenciesPath
      loadedModuleTracePath :=
        (changes.filterMap (Change.path? .loadedModuleTrace)).getLast?.or o.loadedModuleTracePath
      moduleName := (changes.filterMap Change.name?).getLast?.getD o.moduleName
      inputs := o.inputs ++ changes.filterMap Change.input? } := by
  refine eq_of_fields (requestedAction_applyAll changes o)
    (applyAll_adds outputFilenames_apply o) (fun k => ?_) (applyAll_replaces moduleName_apply o)
    (applyAll_adds inputs_apply o)
  rw [sidePath_applyAll]
  cases k <;> rfl

/-- Runs that make the same changes to each field end alike, wherever they start. -/
theorem applyAll_of_slots (o : Options) {changes changes' : List Change}
    (h : ∀ s : Slot, changes.filter (·.slot = s) = changes'.filter (·.slot = s)) :
    o.applyAll changes = o.applyAll changes' := by
  have hvalues : ∀ {β : Type} {s : Slot} {value : Change → Option β},
      (∀ {c : Change}, c.slot ≠ s → value c = none) →
      changes.filterMap value = changes'.filterMap value := by
    intro β s value hs
    rw [← Change.filterMap_filter_slot hs, h, Change.filterMap_filter_slot hs]
  have hpaths : ∀ k, changes.filterMap (Change.path? k) = changes'.filterMap (Change.path? k) :=
    fun k => hvalues Change.path?_of_slot_ne
  rw [applyAll_eq, applyAll_eq, hvalues Change.output?_of_slot_ne, hpaths .module,
    hpaths .moduleDoc, hpaths .objcHeader, hpaths .dependencies, hpaths .loadedModuleTrace,
    hvalues Change.name?_of_slot_ne, hvalues Change.input?_of_slot_ne]

/-- Changes to different fields may be made in either order. -/
theorem apply_comm {c c' : Change} (h : c.slot ≠ c'.slot) (o : Options) :
    (o.apply c).apply c' = (o.apply c').apply c := by
  -- No field is that of both changes, so at each field their order does not show.
  have hslots : ∀ s : Slot, [c, c'].filter (·.slot = s) = [c', c].filter (·.slot = s) := by
    intro s
    by_cases hc : c.slot = s
    · have hc' : c'.slot ≠ s := fun hs => h (hc.trans hs.symm)
      simp [hc, hc']
    · simp [hc, List.filter_cons]
  exact applyAll_of_slots o hslots

/-- Changes to new options are determined field by field: outputs and inputs are those that were
added, in their order, of anything else the last value counts, and the action stays. So runs that
make the same changes to each field are the same, and changes to different fields may be made in
either order. This is what a session does that changes its options step by step. -/
theorem applyAll_determined (a : Action) (changes : List Change) :
    (new a).applyAll changes =
      { requestedAction := a
        outputFilenames := changes.filterMap Change.output?
        modulePath := (changes.filterMap (Change.path? .module)).getLast?
        moduleDocPath := (changes.filterMap (Change.path? .moduleDoc)).getLast?
        objcHeaderPath := (changes.filterMap (Change.path? .objcHeader)).getLast?
        dependenciesPath := (changes.filterMap (Change.path? .dependencies)).getLast?
        loadedModuleTracePath := (changes.filterMap (Change.path? .loadedModuleTrace)).getLast?
        moduleName := (changes.filterMap Change.name?).getLast?.getD ""
        inputs := changes.filterMap Change.input? } ∧
    -- Other orders of the changes.
    (∀ changes' : List Change,
      (∀ s : Slot, changes.filter (·.slot = s) = changes'.filter (·.slot = s)) →
      (new a).applyAll changes = (new a).applyAll changes' ∧
      ((new a).applyAll changes).toJson = ((new a).applyAll changes').toJson ∧
      ((new a).applyAll changes).fileText = ((new a).applyAll changes').fileText ∧
      ∀ files, Report.ofOptions ((new a).applyAll changes) files =
        Report.ofOptions ((new a).applyAll changes') files) ∧
    -- Two changes, from any options.
    (∀ (o : Options) (c c' : Change), c.slot ≠ c'.slot →
      (o.apply c).apply c' = (o.apply c').apply c) ∧
    -- Sessions.
    (∀ s : Session, s.options = new a →
      (s.performAll (changes.map .change)).options = (new a).applyAll changes) := by
  refine ⟨?_, fun changes' h => ?_, fun o c c' h => apply_comm h o, fun s hs => ?_⟩
  · rw [applyAll_eq]
    simp only [new, List.nil_append, Option.or_none]
  · rw [applyAll_of_slots (new a) h]
    exact ⟨rfl, rfl, rfl, fun _ => rfl⟩
  · rw [Session.performAll_changes, hs]

/-- Two orders of the same changes, in which a path is set twice. -/
theorem applyAll_determined_sample :
    (new .emitObject).applyAll
        [.output "b", .side .module "m", .moduleName "M", .output "a", .side .module ""] =
      { requestedAction := .emitObject, outputFilenames := ["b", "a"], modulePath := some "",
        moduleName := "M" } ∧
    (new .emitObject).applyAll
        [.side .module "m", .side .module "", .moduleName "M", .output "b", .output "a"] =
      { requestedAction := .emitObject, outputFilenames := ["b", "a"], modulePath := some "",
        moduleName := "M" } ∧
    ((new .emitObject).apply (.output "b")).apply (.moduleName "M") =
      ((new .emitObject).apply (.moduleName "M")).apply (.output "b") ∧
    (Session.performAll ⟨new .emitObject, {}, ⟨[], []⟩⟩
        [.change (.output "b"), .change (.side .module "m"), .change (.moduleName "M"),
          .change (.output "a"), .change (.side .module "")]).options.outputFilenames =
      ["b", "a"] := by
  obtain ⟨hfields, horders, hcomm, hsession⟩ := applyAll_determined .emitObject
    [.output "b", .side .module "m", .moduleName "M", .output "a", .side .module ""]
  have hslots : ∀ s : Slot,
      [Change.output "b", .side .module "m", .moduleName "M", .output "a", .side .module ""].filter
        (·.slot = s) =
      [Change.side .module "m", .side .module "", .moduleName "M", .output "b", .output "a"].filter
        (·.slot = s) := by
    intro s
    cases s with
    | side k => cases k <;> rfl
    | outputs | moduleName | inputs => rfl
  have hstep := (hsession ⟨new .emitObject, {}, ⟨[], []⟩⟩ rfl).trans hfields
  exact ⟨hfields, (horders _ hslots).1.symm.trans hfields, hcomm _ _ _ (by decide),
    congrArg outputFilenames hstep⟩

end Options

end FrontendPolicy
