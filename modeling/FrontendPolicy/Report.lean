import FrontendPolicy.Json.Document
import FrontendPolicy.Options.OutputPaths
import FrontendPolicy.Options.Unused
import FrontendPolicy.Text.Columns

/-!
# Reports

A `Report` is everything that a check says about one configuration. It is taken from options and the
file system first and put into words afterwards, as JSON (`Report.document`) or as a listing
(`Report.text`).
-/

namespace FrontendPolicy

open Json Text

/-- Everything that a check says about one configuration. -/
structure Report where
  action : Action
  moduleName : String
  moduleNameRequired : Bool
  outputPaths : List (OutputKind × String)
  artifactName : String
  outputIsDirectory : Bool
  unused : List UnusedPath
deriving DecidableEq, Repr

namespace Report

/-- The report on a configuration, given its output paths and whether its single output is a
directory. -/
def assemble (o : Options) (outputPaths : List (OutputKind × String)) (outputIsDirectory : Bool) :
    Report where
  action := o.requestedAction
  moduleName := o.moduleName
  moduleNameRequired := o.moduleNameRequired
  outputPaths := outputPaths
  artifactName := o.artifactName
  outputIsDirectory := outputIsDirectory
  unused := o.unusedPaths

/-- The report on a configuration. -/
def ofOptions (o : Options) (files : Files) : Report :=
  assemble o o.taggedPaths (o.outputIsDirectory files)

/-- Whether a module name is required and none is given. -/
def missingModuleName (r : Report) : Bool := r.moduleNameRequired && r.moduleName.isEmpty

/-! ## JSON -/

/-- The JSON form of an output path. -/
def outputEntry (entry : OutputKind × String) : Document :=
  .object [("kind", .text entry.1.name), ("path", .text entry.2)]

/-- The JSON form of an unused path. -/
def unusedEntry (u : UnusedPath) : Document :=
  .object [("kind", .text u.kind.name), ("path", .text u.path), ("action", .text u.action.token)]

/-- The JSON form of a report. -/
def document (r : Report) : Document :=
  .object
    [("action", .text r.action.token),
      ("module_name", .text r.moduleName),
      ("module_name_required", .flag r.moduleNameRequired),
      ("output_paths", .list (r.outputPaths.map outputEntry)),
      ("original_path", .text r.artifactName),
      ("output_is_directory", .flag r.outputIsDirectory),
      ("unused", .list (r.unused.map unusedEntry))]

/-! ## Listing -/

/-- The words for a module name that is not given. -/
def noModuleName : String := "<none>"

/-- The lines about the output paths. -/
def outputLines (r : Report) : List String :=
  if r.outputPaths.isEmpty then ["  (none)"]
  else r.outputPaths.map fun (kind, path) => "  " ++ padRight 12 kind.label ++ " " ++ path

/-- The lines about the unused paths. -/
def unusedLines (r : Report) : List String :=
  if r.unused.isEmpty then ["No unused output paths"]
  else
    "Unused output paths:" :: r.unused.map fun u =>
      "  " ++ padRight 22 u.kind.description ++ " " ++ u.path

/-- The lines of a report. -/
def lines (r : Report) : List String :=
  ["Action: " ++ r.action.token,
    "Module name: " ++ (if r.moduleName.isEmpty then noModuleName else r.moduleName) ++
      " (required: " ++ yesNo r.moduleNameRequired ++ ")",
    "",
    "Output paths:"] ++
  r.outputLines ++
  ["", "Original path: " ++ r.artifactName] ++
  (if r.outputIsDirectory then ["Output file is a directory"] else []) ++
  "" :: r.unusedLines

/-- A report as a listing. -/
def text (r : Report) : String := String.join (r.lines.map (· ++ "\n"))

end Report

end FrontendPolicy
