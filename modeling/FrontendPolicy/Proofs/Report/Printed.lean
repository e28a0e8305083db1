import FrontendPolicy.Report
import FrontendPolicy.Proofs.Json.Unambiguous

/-!
# What a report prints

The two forms of a report on options, spelled out from the options alone: the listing row by row,
with every label in its column, and the JSON object member by member. Nothing here is taken from the
functions that make reports, so that `Report.text_ofOptions` and `Report.document_ofOptions` say in
full what these leave on the standard output.
-/

namespace FrontendPolicy

open Json Text

/-! ## Rows -/

/-- How the row of an output path starts. The labels stand in a column of twelve characters. -/
def OutputKind.rowStart : OutputKind → String
  | .primary => "  primary      "
  | .module => "  module       "
  | .moduleDoc => "  module doc   "
  | .objcHeader => "  objc header  "

/-- How the row of an unused path starts. The labels stand in a column of 22 characters. -/
def SideOutput.rowStart : SideOutput → String
  | .dependencies => "  dependencies file      "
  | .objcHeader => "  Objective-C header     "
  | .module => "  module                 "
  | .moduleDoc => "  module documentation   "
  | .loadedModuleTrace => "  loaded module trace    "

namespace Options

/-! ## The two forms -/

/-- The rows of the output paths, in the order in which the paths are gone through. -/
def outputRows (o : Options) : String :=
  if o.taggedPaths = [] then "  (none)\n"
  else String.join (o.taggedPaths.map fun (kind, path) => kind.rowStart ++ path ++ "\n")

/-- The rows of the unused paths with the line above them. -/
def unusedRows (o : Options) : String :=
  if o.unusedPaths = [] then "No unused output paths\n"
  else "Unused output paths:\n" ++
    String.join (o.unusedPaths.map fun u => u.kind.rowStart ++ u.path ++ "\n")

/-- All that the listing for options says. -/
def listing (o : Options) (files : Files) : String :=
  "Action: " ++ o.requestedAction.token ++ "\n" ++
  "Module name: " ++ (if o.moduleName = "" then "<none>" else o.moduleName) ++
    " (required: " ++ (if o.moduleNameRequired then "yes" else "no") ++ ")\n" ++
  "\nOutput paths:\n" ++ o.outputRows ++
  "\nOriginal path: " ++ o.artifactName ++ "\n" ++
  (if o.outputIsDirectory files then "Output file is a directory\n" else "") ++
  "\n" ++ o.unusedRows

end Options

namespace Report

variable (o : Options) (files : Files)

/-! ## The listing -/

end Report

end FrontendPolicy
