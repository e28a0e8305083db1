import FrontendPolicy.Proofs.Options.OutputPaths
import FrontendPolicy.Proofs.Options.RoundTrip
import FrontendPolicy.Proofs.Report.Printed
import FrontendPolicy.Proofs.Work

/-!
# Checking an options file

A check is followed from its first step to its last, once for a file that cannot be loaded
(`Work.does_check_of_error`) and once for one that can (`Work.does_check_of_ok`). Whatever is said
about checks is read off these two. What is printed is stated by `Options.listing` and
`Options.findings`, which know nothing of reports.
-/

namespace FrontendPolicy

/-! ## What a report stands for -/

namespace Report

/-- What is told while the report on a configuration is made. -/
def gatherEvents (o : Options) (files : Files) : List Event :=
  (if !o.requestedAction.writesPrimaryOutputs then
    [.skippingPrimaries o.outputFilenames.length o.requestedAction] else []) ++
  o.namedOutput?.toList.map fun output => .lookedAtOutput output (o.outputIsDirectory files)

/-- The warnings about what a report finds. -/
def warnings (r : Report) : List Event :=
  r.unused.map .unusedPath ++ (if r.missingModuleName then [.missingModuleName r.action] else [])

/-- A report as it is printed. -/
def printed (r : Report) (json : Bool) : String :=
  if json then r.document.prettyText ++ "\n" else r.text

/-- How a check that loaded its options ends. -/
def verdict (r : Report) (strict : Bool) : Except CommandError Unit :=
  if strict && !r.unused.isEmpty then .error (.unusedPaths r.unused.length r.action) else .ok ()

end Report

namespace Work

variable {ε : Type}

/-! ## The steps of a check -/

theorem does_load (files : Files) (config : Path) :
    (load files config).Does [.loading config] "" (Options.load files config) :=
  ((does_tell (.loading config)).bind (does_ofExcept _)).of_eq rfl String.append_empty

theorem does_visitOutputs {σ : Type} (o : Options) (visit : σ → OutputKind → String → σ)
    (start : σ) : (visitOutputs o visit start : Work ε σ).Does
      (if !o.requestedAction.writesPrimaryOutputs then
        [.skippingPrimaries o.outputFilenames.length o.requestedAction] else []) ""
      (.ok (o.visitOutputs visit start)) :=
  ((does_tell _).whenever _).bind_pure fun _ => o.visitOutputs visit start

theorem does_lookAtOutput (o : Options) (files : Files) :
    (lookAtOutput o files : Work ε Bool).Does
      (o.namedOutput?.toList.map fun output => .lookedAtOutput output (o.outputIsDirectory files))
      "" (.ok (o.outputIsDirectory files)) := by
  unfold lookAtOutput Options.outputIsDirectory
  cases o.namedOutput? with
  | none => exact does_pure false
  | some output => exact (does_tell _).bind_pure fun _ => files.isDirectory (.ofText output)

/-- The report that is made is the one on the options, and each of its parts is asked for once. -/
theorem does_report (o : Options) (files : Files) :
    (report o files : Work ε Report).Does (Report.gatherEvents o files) ""
      (.ok (Report.ofOptions o files)) := by
  -- The paths are collected with the latest first and turned around in the end.
  have hpaths : (o.visitOutputs (fun done kind path => (kind, path) :: done) []).reverse =
      o.taggedPaths := by
    rw [Options.visitOutputs_cons, List.reverse_reverse]
  rw [Report.ofOptions, ← hpaths]
  exact ((does_visitOutputs o _ _).bind ((does_lookAtOutput o files).bind_pure _)).of_eq rfl
    String.append_empty

theorem does_warn (r : Report) : (warn r : Work ε Unit).Does r.warnings "" (.ok ()) :=
  ((does_forM_tell _ r.unused).bind ((does_tell _).whenever r.missingModuleName)).of_eq rfl
    String.append_empty

theorem does_printReport (r : Report) (json : Bool) :
    (printReport r json : Work ε Unit).Does [] (r.printed json) (.ok ()) := by
  unfold printReport Report.printed
  cases json with
  | true => exact does_print _
  | false =>
    rw [if_neg Bool.false_ne_true, if_neg Bool.false_ne_true]
    exact does_forM_print _ r.lines

/-! ## The whole check -/

/-- What is left of a check once its report is made. -/
theorem does_conclude (r : Report) (json strict : Bool) :
    Does (do
        warn r
        printReport r json
        whenever (strict && !r.unused.isEmpty) (throw (.unusedPaths r.unused.length r.action)))
      r.warnings (r.printed json) (r.verdict strict) :=
  ((does_warn r).bind ((does_printReport r json).bind (does_whenever_throw _ _))).of_eq
    (by rw [List.append_nil, List.append_nil]) (by rw [String.append_empty, String.empty_append])

/-- A check of a file that is loaded warns, prints its report and only then ends. -/
theorem does_check_of_ok {files : Files} {config : Path} {o : Options}
    (h : Options.load files config = .ok o) (json strict : Bool) :
    (check files config json strict).Does
      (.checking config :: .loading config :: Report.gatherEvents o files ++
        (Report.ofOptions o files).warnings)
      ((Report.ofOptions o files).printed json) ((Report.ofOptions o files).verdict strict) := by
  have hload := (does_load files config).adapt (CommandError.unreadable config)
  rw [h] at hload
  -- The parts that print nothing leave empty texts before what is printed.
  refine ((does_tell (.checking config)).bind (hload.bind ((does_report o files).bind
    (does_conclude (Report.ofOptions o files) json strict)))).of_eq rfl ?_
  rw [String.empty_append, String.empty_append, String.empty_append]

end Work

/-! ## Runs -/

/-- The wordings of the failure of a run and of what caused it, if it failed. -/
def Run.chain (r : Run) : List String := (r.failure.map CommandError.chain).getD []

namespace Command

variable {files : Files} {config : Path}

theorem run_check_of_ok {o : Options} (h : Options.load files config = .ok o)
    (json strict : Bool) : run files (.check config json strict) =
      ⟨.checking config :: .loading config :: Report.gatherEvents o files ++
          (Report.ofOptions o files).warnings,
        (Report.ofOptions o files).printed json,
        if strict && !(Report.ofOptions o files).unused.isEmpty then
          some (.unusedPaths (Report.ofOptions o files).unused.length o.requestedAction)
        else none⟩ := by
  refine (Work.does_check_of_ok h json strict).outcome.trans ?_
  unfold Report.verdict
  cases strict && !(Report.ofOptions o files).unused.isEmpty <;> rfl

/-- A view in which every file holds the given options and everything is a directory. -/
def holding (o : Options) : Files :=
  ⟨fun _ => .ok (Text.encode (o.fileText.toOption.getD "").toList), fun _ => true⟩

theorem load_holding {o : Options} (h : ∀ i ∈ o.inputs, i.file.text?.isSome) (config : Path) :
    Options.load (holding o) config = .ok o := by
  obtain ⟨_, text, -, htext, -, -⟩ := Options.roundTrips_of_paths h
  refine Options.load_of_read htext ?_
  rw [holding, htext]
  rfl

/-- Options with two paths that their action cannot write, an output that is named, and no module
name. -/
def unusedSample : Options :=
  { requestedAction := .emitPch, outputFilenames := ["d"], modulePath := some "m"
    objcHeaderPath := some "h" }

/-- What is written for the sample. -/
def sampleText : String := unusedSample.fileText.toOption.getD ""

/-- A view in which every file holds the sample and everything is a directory. -/
def sampleFiles : Files := ⟨fun _ => .ok (Text.encode sampleText.toList), fun _ => true⟩

theorem load_sample (config : Path) : Options.load sampleFiles config = .ok unusedSample :=
  load_holding (by decide) config

end Command

end FrontendPolicy
