import FrontendPolicy.Proofs.Options.EmptyPaths

/-!
# Checks and the policy table

Of the requested action only its row in the policy table counts for a check. The action itself is
named in options, reports, events and failures, so the statement needs a way to name another one in
each of them (`Options.withAction` and its companions). A check commutes with that, between actions
with one row.
-/

namespace FrontendPolicy

/-! ## What is told from a row -/

section Rows

variable {a b : Action}

/-- The actions that skip the main outputs are those whose main file is a serialized module. -/
theorem Action.skips_iff_suffix (a : Action) : (a = .emitModuleOnly ∨ a = .mergeModules) ↔
    a.properties.principalSuffix = some Suffix.serializedModule := by
  cases a <;> decide

/-- The table that tells which actions skip the main outputs agrees with the policy table. -/
theorem Action.writesPrimaryOutputs_of_properties (h : a.properties = b.properties) :
    a.writesPrimaryOutputs = b.writesPrimaryOutputs :=
  writesPrimaryOutputs_congr (by rw [skips_iff_suffix, skips_iff_suffix, h])

theorem SideOutput.isEmittedBy_of_properties (h : a.properties = b.properties) (k : SideOutput) :
    k.isEmittedBy a = k.isEmittedBy b := by
  cases k with
  | dependencies | objcHeader | loadedModuleTrace => rw [isEmittedBy, isEmittedBy, h]
  | module => rw [isEmittedBy, isEmittedBy, Action.canEmitModule, Action.canEmitModule, h]
  | moduleDoc => rw [isEmittedBy, isEmittedBy, Action.canEmitModuleDoc, Action.canEmitModuleDoc, h]

theorem Action.needsProperModuleName_of_properties (h : a.properties = b.properties) :
    a.needsProperModuleName = b.needsProperModuleName := by
  rw [needsProperModuleName, needsProperModuleName, h]

end Rows

/-! ## Another action -/

/-- The options with another requested action. -/
def Options.withAction (o : Options) (a : Action) : Options := { o with requestedAction := a }

/-- The same path, unused by another action. -/
def UnusedPath.withAction (u : UnusedPath) (a : Action) : UnusedPath := { u with action := a }

/-- The same report, about another action. -/
def Report.withAction (r : Report) (a : Action) : Report :=
  { r with action := a, unused := r.unused.map (·.withAction a) }

/-- The same event, with another action wherever it names one. -/
def Event.withAction (e : Event) (a : Action) : Event :=
  match e with
  | .describing _ => .describing a
  | .checking config => .checking config
  | .loading config => .loading config
  | .skippingPrimaries count _ => .skippingPrimaries count a
  | .lookedAtOutput name isDirectory => .lookedAtOutput name isDirectory
  | .unusedPath unused => .unusedPath (unused.withAction a)
  | .missingModuleName _ => .missingModuleName a

/-- The same failure, with another action if it names one. -/
def CommandError.withAction (e : CommandError) (a : Action) : CommandError :=
  match e with
  | .unreadable config error => .unreadable config error
  | .unusedPaths count _ => .unusedPaths count a

namespace Report

variable (r : Report) (b : Action)

theorem isEmpty_unused_withAction : (r.withAction b).unused.isEmpty = r.unused.isEmpty :=
  List.isEmpty_map

theorem warnings_withAction : (r.withAction b).warnings = r.warnings.map (·.withAction b) := by
  have hunused : (r.withAction b).unused.map Event.unusedPath =
      (r.unused.map Event.unusedPath).map (·.withAction b) := by
    rw [Report.withAction, List.map_map, List.map_map]
    rfl
  have hmissing : (r.withAction b).missingModuleName = r.missingModuleName := rfl
  rw [warnings, warnings, hunused, hmissing, List.map_append]
  cases r.missingModuleName <;> rfl

/-- The action stands in the first line of a listing. -/
theorem printed_listing : r.printed false =
    "Action: " ++ r.action.token ++ "\n" ++ String.join (r.lines.tail.map (· ++ "\n")) :=
  String.join_cons

/-- The lines after the first one do not name the action. -/
theorem printed_listing_withAction : (r.withAction b).printed false =
    "Action: " ++ b.token ++ "\n" ++ String.join (r.lines.tail.map (· ++ "\n")) := by
  have hunused : (r.withAction b).unusedLines = r.unusedLines := by
    rw [unusedLines, unusedLines, isEmpty_unused_withAction, Report.withAction, List.map_map]
    rfl
  have hlines : (r.withAction b).lines.tail = r.lines.tail := by
    rw [lines, lines, hunused]
    rfl
  rw [printed_listing, hlines]
  rfl

end Report

/-! ## Actions with one row -/

section OneRow

variable {a b : Action}

namespace Options

theorem taggedPaths_withAction (h : a.properties = b.properties) (o : Options) :
    (o.withAction b).taggedPaths = (o.withAction a).taggedPaths :=
  taggedPaths_congr (Action.writesPrimaryOutputs_of_properties h).symm rfl fun _ _ => rfl

/-- The same paths are unused, in the same order. -/
theorem unusedPaths_withAction (h : a.properties = b.properties) (o : Options) :
    (o.withAction b).unusedPaths = (o.withAction a).unusedPaths.map (·.withAction b) := by
  rw [unusedPaths, unusedPaths, List.map_filterMap]
  congr 1
  funext k
  have hrow : k.isEmittedBy (o.withAction b).requestedAction =
      k.isEmittedBy (o.withAction a).requestedAction :=
    (SideOutput.isEmittedBy_of_properties h k).symm
  rw [unused?, unused?, hrow]
  cases k.isEmittedBy (o.withAction a).requestedAction with
  | true => rfl
  | false =>
    rw [if_neg Bool.false_ne_true, if_neg Bool.false_ne_true, Option.map_map]
    rfl

end Options

namespace Report

variable {files files' : Files}

/-- Reports for two actions with one row differ in the action that they name only. -/
theorem ofOptions_withAction (h : a.properties = b.properties)
    (hf : files'.isDirectory = files.isDirectory) (o : Options) :
    ofOptions (o.withAction b) files' = (ofOptions (o.withAction a) files).withAction b := by
  have hrequired : (o.withAction b).moduleNameRequired = (o.withAction a).moduleNameRequired :=
    (Action.needsProperModuleName_of_properties h).symm
  rw [(Options.Alike.refl (o.withAction b)).report hf, ofOptions, ofOptions, assemble, hrequired,
    Options.taggedPaths_withAction h, Options.unusedPaths_withAction h]
  rfl

theorem gatherEvents_withAction (h : a.properties = b.properties)
    (hf : files'.isDirectory = files.isDirectory) (o : Options) :
    gatherEvents (o.withAction b) files' =
      (gatherEvents (o.withAction a) files).map (·.withAction b) := by
  have hskips : (o.withAction b).requestedAction.writesPrimaryOutputs =
      (o.withAction a).requestedAction.writesPrimaryOutputs :=
    (Action.writesPrimaryOutputs_of_properties h).symm
  rw [(Options.Alike.refl (o.withAction b)).gatherEvents hf, gatherEvents, gatherEvents, hskips,
    List.map_append, List.map_map]
  cases (o.withAction a).requestedAction.writesPrimaryOutputs <;> rfl

end Report

namespace Command

variable {files files' : Files} {config : Path} {o : Options}

/-- Checks for two actions with one row do the same, and name each its action. -/
theorem run_check_withAction (h : a.properties = b.properties)
    (hf : files'.isDirectory = files.isDirectory)
    (ha : Options.load files config = .ok (o.withAction a))
    (hb : Options.load files' config = .ok (o.withAction b)) (json strict : Bool) :
    run files' (.check config json strict) =
      ⟨(run files (.check config json strict)).events.map (·.withAction b),
        ((Report.ofOptions (o.withAction a) files).withAction b).printed json,
        (run files (.check config json strict)).failure.map (·.withAction b)⟩ := by
  rw [run_check_of_ok ha, run_check_of_ok hb, Report.ofOptions_withAction h hf,
    Report.gatherEvents_withAction h hf, Report.warnings_withAction,
    Report.isEmpty_unused_withAction]
  have hcount : ((Report.ofOptions (o.withAction a) files).withAction b).unused.length =
      (Report.ofOptions (o.withAction a) files).unused.length := List.length_map _
  rw [hcount, List.map_append]
  cases strict && !(Report.ofOptions (o.withAction a) files).unused.isEmpty <;> rfl

/-- Of the requested action only its row in the policy table counts. Actions with one row skip the
main outputs alike, and the reports on options that request one or the other are the same but for
the action that they name. So are the checks of two files that differ in the action only: they tell,
print and fail with the same words but for the action, and succeed alike. -/
theorem checks_hang_on_row (h : a.properties = b.properties) (o : Options) (files : Files) :
    a.writesPrimaryOutputs = b.writesPrimaryOutputs ∧
    -- Reports.
    Report.ofOptions (o.withAction b) files =
      (Report.ofOptions (o.withAction a) files).withAction b ∧
    (Report.ofOptions (o.withAction b) files).missingModuleName =
      (Report.ofOptions (o.withAction a) files).missingModuleName ∧
    (∀ (σ : Type) (visit : σ → OutputKind → String → σ) (start : σ),
      (o.withAction b).visitOutputs visit start = (o.withAction a).visitOutputs visit start) ∧
    -- Checks.
    (∀ files' config, files'.isDirectory = files.isDirectory →
      Options.load files config = .ok (o.withAction a) →
      Options.load files' config = .ok (o.withAction b) → ∀ json strict,
      (run files' (.check config json strict)).succeeds =
        (run files (.check config json strict)).succeeds ∧
      (run files' (.check config json strict)).failure =
        (run files (.check config json strict)).failure.map (·.withAction b) ∧
      (run files' (.check config json strict)).events =
        (run files (.check config json strict)).events.map (·.withAction b) ∧
      (run files' (.check config json strict)).stdout =
        ((Report.ofOptions (o.withAction a) files).withAction b).printed json ∧
      -- A listing names the action in its first line only.
      ∃ rest, (run files (.check config false strict)).stdout =
          "Action: " ++ a.token ++ "\n" ++ rest ∧
        (run files' (.check config false strict)).stdout =
          "Action: " ++ b.token ++ "\n" ++ rest) ∧
    -- Checks of the file that they are saved to.
    (∀ s p, (∃ e, (o.withAction a).save s p = (.error e, s) ∧
        (o.withAction b).save s p = (.error e, s)) ∨
      ∃ text store text' store', (o.withAction a).save s p = (.ok text, store) ∧
        (o.withAction b).save s p = (.ok text', store') ∧
        ∀ json strict, (run store'.files (.check p json strict)).succeeds =
          (run store.files (.check p json strict)).succeeds) := by
  have hreport := Report.ofOptions_withAction h (rfl : files.isDirectory = files.isDirectory) o
  refine ⟨Action.writesPrimaryOutputs_of_properties h, hreport, ?_,
    fun σ => Options.visitOutputs_congr (Options.taggedPaths_withAction h o),
    fun files' config hf ha hb json strict => ?_, fun s p => ?_⟩
  · rw [hreport]
    rfl
  · rw [run_check_withAction h hf ha hb json, run_check_withAction h hf ha hb false,
      run_check_of_ok ha false]
    exact ⟨Option.isNone_map, rfl, rfl, rfl, _,
      (Report.ofOptions (o.withAction a) files).printed_listing,
      (Report.ofOptions (o.withAction a) files).printed_listing_withAction b⟩
  · have hinputs : (o.withAction b).inputs = (o.withAction a).inputs := rfl
    rcases Options.save_of_inputs hinputs s p with hfail | ⟨text, store, text', store', hs, hs',
      ha, hb, hf⟩
    · exact Or.inl hfail
    · refine Or.inr ⟨text, store, text', store', hs, hs', fun json strict => ?_⟩
      rw [run_check_withAction h hf ha hb]
      exact Option.isNone_map

/-- Options with an output that is named and two side outputs. -/
def rowSample : Options :=
  { outputFilenames := ["d"], modulePath := some "m", objcHeaderPath := some "h" }

/-- A strict check of the sample fails for both actions that run code at once, and both actions that
write just a module skip its main output. -/
theorem checks_hang_on_row_sample :
    (Report.ofOptions (rowSample.withAction .repl) (holding rowSample)).unused =
      [⟨.objcHeader, "h", .repl⟩, ⟨.module, "m", .repl⟩] ∧
    (run (holding (rowSample.withAction .repl)) (.check (.ofText "a") true true)).failure =
      some (.unusedPaths 2 .repl) ∧
    (Report.ofOptions (rowSample.withAction .mergeModules) (holding rowSample)).outputPaths =
      [(.module, "m"), (.objcHeader, "h")] := by
  have hinteractive : Action.properties .immediate = Action.properties .repl := by decide
  have hmodules : Action.properties .emitModuleOnly = Action.properties .mergeModules := by decide
  obtain ⟨-, hreport, -⟩ := checks_hang_on_row hinteractive rowSample (holding rowSample)
  obtain ⟨-, hskipped, -⟩ := checks_hang_on_row hmodules rowSample (holding rowSample)
  obtain ⟨-, -, -, -, hchecks, -⟩ :=
    checks_hang_on_row hinteractive rowSample (holding (rowSample.withAction .immediate))
  obtain ⟨-, hfailure, -⟩ := hchecks (holding (rowSample.withAction .repl)) (.ofText "a") rfl
    (load_holding (by decide) _) (load_holding (by decide) _) true true
  refine ⟨(congrArg Report.unused hreport).trans (by decide), hfailure.trans ?_,
    (congrArg Report.outputPaths hskipped).trans (by decide)⟩
  rw [run_check_of_ok (load_holding (by decide) _)]
  rfl

end Command

end OneRow

end FrontendPolicy
