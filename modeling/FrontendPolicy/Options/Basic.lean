import FrontendPolicy.Action.Properties
import FrontendPolicy.Inputs

/-!
# Frontend options

`Options` is the configuration of one frontend invocation. The files that may be written beside the
main outputs have a kind each, `SideOutput`, and their paths are read and set by kind. A `Change` is
a single setting that is made to options.
-/

namespace FrontendPolicy

/-! ## Side outputs -/

/-- A kind of file that may be written beside the main outputs. -/
inductive SideOutput where
  | dependencies
  | objcHeader
  | module
  | moduleDoc
  | loadedModuleTrace
deriving DecidableEq, Repr

namespace SideOutput

/-- Every kind, in order. -/
def all : List SideOutput := [dependencies, objcHeader, module, moduleDoc, loadedModuleTrace]

/-- No kind is left out of the list. -/
theorem mem_all (k : SideOutput) : k ∈ all := by cases k <;> decide

/-- The words for a kind. -/
def description : SideOutput → String
  | dependencies => "dependencies file"
  | objcHeader => "Objective-C header"
  | module => "module"
  | moduleDoc => "module documentation"
  | loadedModuleTrace => "loaded module trace"

/-- The name of a kind in JSON. -/
def name : SideOutput → String
  | dependencies => "dependencies_file"
  | objcHeader => "objc_header"
  | module => "module"
  | moduleDoc => "module_doc"
  | loadedModuleTrace => "loaded_module_trace"

/-- Whether an action can write a file of this kind. -/
def isEmittedBy (k : SideOutput) (a : Action) : Bool :=
  match k with
  | dependencies => a.properties.canEmitDependencies
  | objcHeader => a.properties.canEmitHeader
  | module => a.canEmitModule
  | moduleDoc => a.canEmitModuleDoc
  | loadedModuleTrace => a.properties.canEmitLoadedModuleTrace

end SideOutput

/-! ## Options -/

/-- The output name that stands for the standard output. -/
def stdoutFilename : String := "-"

/-- The configuration of one invocation. A path of a side output that is the empty text counts as
not configured. -/
structure Options where
  requestedAction : Action := .noAction
  outputFilenames : List String := []
  modulePath : Option String := none
  moduleDocPath : Option String := none
  objcHeaderPath : Option String := none
  dependenciesPath : Option String := none
  loadedModuleTracePath : Option String := none
  moduleName : String := ""
  inputs : Inputs := []
deriving DecidableEq, Repr, Inhabited

/-- A single setting made to a configuration. -/
inductive Change where
  | output (filename : String)
  | side (kind : SideOutput) (path : String)
  | moduleName (name : String)
  | input (input : InputFile)
deriving DecidableEq, Repr

namespace Options

/-- The configuration that requests an action and nothing else. -/
def new (a : Action) : Options := { requestedAction := a }

/-- The path of a side output as it was set. -/
def sidePath (o : Options) : SideOutput → Option String
  | .dependencies => o.dependenciesPath
  | .objcHeader => o.objcHeaderPath
  | .module => o.modulePath
  | .moduleDoc => o.moduleDocPath
  | .loadedModuleTrace => o.loadedModuleTracePath

/-- The configuration with another path of a side output. -/
def setSidePath (o : Options) (k : SideOutput) (path : Option String) : Options :=
  match k with
  | .dependencies => { o with dependenciesPath := path }
  | .objcHeader => { o with objcHeaderPath := path }
  | .module => { o with modulePath := path }
  | .moduleDoc => { o with moduleDocPath := path }
  | .loadedModuleTrace => { o with loadedModuleTracePath := path }

/-- A setting adds an output or an input after the others and replaces anything else. -/
def apply (o : Options) : Change → Options
  | .output filename => { o with outputFilenames := o.outputFilenames ++ [filename] }
  | .side k path => o.setSidePath k (some path)
  | .moduleName name => { o with moduleName := name }
  | .input i => { o with inputs := o.inputs ++ [i] }

/-- Several settings, one after the other. -/
def applyAll (o : Options) (changes : List Change) : Options := changes.foldl apply o

/-- Whether two configurations agree in every field, where the paths of inputs agree if they take
the same steps. -/
def sameAs (a b : Options) : Bool :=
  a.requestedAction == b.requestedAction && a.outputFilenames == b.outputFilenames &&
    a.modulePath == b.modulePath && a.moduleDocPath == b.moduleDocPath &&
    a.objcHeaderPath == b.objcHeaderPath && a.dependenciesPath == b.dependenciesPath &&
    a.loadedModuleTracePath == b.loadedModuleTracePath && a.moduleName == b.moduleName &&
    a.inputs.sameAs b.inputs

/-- The path of a side output, unless it is empty. -/
def configured? (o : Options) (k : SideOutput) : Option String :=
  (o.sidePath k).filter fun path => !path.isEmpty

/-- Whether the module name has to be a valid identifier. -/
def moduleNameRequired (o : Options) : Bool := o.requestedAction.needsProperModuleName

/-! ## The single output -/

/-- The output name, if there is exactly one. -/
def singleOutput? (o : Options) : Option String :=
  match o.outputFilenames with
  | [single] => some single
  | _ => none

/-- Whether the standard output is the only output. -/
def isStdout (o : Options) : Bool := o.singleOutput? == some stdoutFilename

/-- The single output name, if it names a file. -/
def namedOutput? (o : Options) : Option String :=
  o.singleOutput?.filter fun name => !name.isEmpty && name != stdoutFilename

/-- Whether there is a single output that names a file. -/
def hasNamedOutput (o : Options) : Bool := o.namedOutput?.isSome

end Options

end FrontendPolicy
