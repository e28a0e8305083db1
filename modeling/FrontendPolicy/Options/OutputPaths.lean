import FrontendPolicy.Files
import FrontendPolicy.Options.Basic

/-!
# Output paths

The output paths of a configuration have a fixed order: the main outputs, the module, its
documentation, the Objective-C header. `Options.taggedPaths` lists them with the fields that they
come from. `Options.visitOutputs` goes through them one by one, and `Options.visitPaths` and
`Options.outputPaths` go through them by way of it.

At the end stand `Options.artifactName`, which other artifacts are named after, and the question
whether the single output is a directory.
-/

namespace FrontendPolicy

/-- The field that an output path comes from. -/
inductive OutputKind where
  | primary
  | module
  | moduleDoc
  | objcHeader
deriving DecidableEq, Repr

namespace OutputKind

/-- The name of a kind in JSON. -/
def name : OutputKind → String
  | primary => "primary"
  | module => "module"
  | moduleDoc => "module_doc"
  | objcHeader => "objc_header"

/-- The label of a kind in listings. -/
def label : OutputKind → String
  | primary => "primary"
  | module => "module"
  | moduleDoc => "module doc"
  | objcHeader => "objc header"

end OutputKind

namespace Options

/-! ## Enumeration -/

/-- The names of the main outputs that the requested action writes. -/
def primaryOutputs (o : Options) : List String :=
  if o.requestedAction.writesPrimaryOutputs then o.outputFilenames else []

/-- The side outputs that are enumerated, in order. Dependencies and traces are not. -/
def enumeratedSides : List (OutputKind × SideOutput) :=
  [(.module, .module), (.moduleDoc, .moduleDoc), (.objcHeader, .objcHeader)]

/-- The configured path of an enumerated side output. -/
def taggedSide (o : Options) (k : OutputKind × SideOutput) : Option (OutputKind × String) :=
  (o.configured? k.2).map (k.1, ·)

/-- Every configured output path with the field it comes from: the main outputs as configured,
then the side outputs, whether or not the action can write them. -/
def taggedPaths (o : Options) : List (OutputKind × String) :=
  o.primaryOutputs.map (.primary, ·) ++ enumeratedSides.filterMap o.taggedSide

/-- Goes through the output paths one by one, each changing the state. -/
def visitOutputs {σ : Type} (o : Options) (visit : σ → OutputKind → String → σ) (start : σ) : σ :=
  let primaries :=
    match o.requestedAction.writesPrimaryOutputs with
    | true => o.outputFilenames.foldl (fun s name => visit s .primary name) start
    | false => start
  enumeratedSides.foldl
    (fun s k =>
      match o.configured? k.2 with
      | some path => visit s k.1 path
      | none => s)
    primaries

/-- Goes through the output paths without the fields that they come from. -/
def visitPaths {σ : Type} (o : Options) (visit : σ → String → σ) (start : σ) : σ :=
  o.visitOutputs (fun s _ path => visit s path) start

/-- The output paths alone, collected one by one. -/
def outputPaths (o : Options) : List String :=
  (o.visitOutputs (fun done _ path => done.push path) #[]).toList

/-! ## The single output -/

/-- The name that other artifacts are named after: the single output that names a file, otherwise
the file name of the only primary input, otherwise the module name. -/
def artifactName (o : Options) : String :=
  match o.namedOutput? with
  | some output => output
  | none =>
    match o.inputs.uniquePrimary? with
    | some input => (input.file.fileName?.getD input.file).lossyText
    | none => o.moduleName

/-- Whether the single output that names a file is a directory. -/
def outputIsDirectory (o : Options) (files : Files) : Bool :=
  match o.namedOutput? with
  | some output => files.isDirectory (.ofText output)
  | none => false

end Options

end FrontendPolicy
