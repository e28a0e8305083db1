import FrontendPolicy.Action.Basic

/-!
# The policy table

`Action.properties` answers everything that can be asked about an action in one row of type
`Properties`. Many rows start from one that several actions share, with single answers changed.
-/

namespace FrontendPolicy

/-! ## Suffixes -/

namespace Suffix

/-- Precompiled bridging headers. -/
def pch : String := "pch"

/-- Intermediate code as text. -/
def sil : String := "sil"

/-- Serialized intermediate code. -/
def sib : String := "sib"

/-- Serialized modules. -/
def serializedModule : String := "swiftmodule"

/-- The documentation of serialized modules. -/
def serializedModuleDoc : String := "swiftdoc"

/-- Assembly. -/
def assembly : String := "s"

/-- Low-level intermediate code as text. -/
def llvmIr : String := "ll"

/-- Low-level intermediate code as bits. -/
def llvmBitcode : String := "bc"

/-- Object code. -/
def object : String := "o"

/-- The list of imported modules. -/
def importedModules : String := "importedmodules"

/-- Every suffix. -/
def all : List String :=
  [pch, sil, sib, serializedModule, serializedModuleDoc, assembly, llvmIr, llvmBitcode, object,
    importedModules]

end Suffix

/-! ## Rows -/

/-- What an action can do. Keeping every answer in one row keeps the answers consistent: an
action without output writes no module, header, dependencies or trace either. -/
structure Properties where
  needsProperModuleName : Bool := false
  isImmediate : Bool := false
  /-- The suffix of the main file, if the action writes one. -/
  principalSuffix : Option String := none
  canEmitDependencies : Bool := false
  canEmitHeader : Bool := false
  canEmitLoadedModuleTrace : Bool := false
  /-- Also answers for the module documentation. -/
  canEmitModule : Bool := false
  producesOutput : Bool := false
  producesTextualOutput : Bool := false
deriving DecidableEq, Repr

/-- Nothing is requested. -/
def Properties.idle : Properties := {}

/-- Dumps and printers: text comes out, and nothing is tracked. -/
def Properties.inspecting : Properties :=
  { producesOutput := true, producesTextualOutput := true }

/-- Code runs at once. -/
def Properties.interactive : Properties := { isImmediate := true }

/-- The whole way to a serialized module. -/
def Properties.serializing (suffix : String) : Properties :=
  { needsProperModuleName := true, principalSuffix := some suffix, canEmitDependencies := true,
    canEmitHeader := true, canEmitLoadedModuleTrace := true, canEmitModule := true,
    producesOutput := true }

/-- The same with text as its main output. -/
def Properties.textual (p : Properties) : Properties := { p with producesTextualOutput := true }

/-! ## The table -/

namespace Action

/-- The row of an action. -/
def properties : Action → Properties
  | noAction => .idle
  -- Bare parsing records dependencies and can write a header, but resolves no imports to trace.
  | parse => { Properties.inspecting with canEmitDependencies := true, canEmitHeader := true }
  | typecheck =>
    { Properties.inspecting with
      canEmitDependencies := true, canEmitHeader := true, canEmitLoadedModuleTrace := true }
  | dumpParse | dumpAst | emitSyntax | dumpInterfaceHash | printAst | dumpScopeMaps
  | dumpTypeRefinementContexts => .inspecting
  | emitPch =>
    { Properties.serializing Suffix.pch with canEmitHeader := false, canEmitModule := false }
  | emitSilGen => { (Properties.serializing Suffix.sil).textual with canEmitModule := false }
  | emitSil => (Properties.serializing Suffix.sil).textual
  | emitSibGen | emitSib => .serializing Suffix.sib
  | emitModuleOnly | mergeModules => .serializing Suffix.serializedModule
  | immediate | repl => .interactive
  | emitAssembly => (Properties.serializing Suffix.assembly).textual
  | emitIr => (Properties.serializing Suffix.llvmIr).textual
  | emitBc => .serializing Suffix.llvmBitcode
  | emitObject => .serializing Suffix.object
  | emitImportedModules => (Properties.serializing Suffix.importedModules).textual

/-- Whether the module name has to be a valid identifier. -/
def needsProperModuleName (a : Action) : Bool := a.properties.needsProperModuleName

/-- The suffix of the main file, if the action writes one. -/
def principalSuffix (a : Action) : Option String := a.properties.principalSuffix

/-- Whether the action writes a module. Its documentation goes with it. -/
def canEmitModule (a : Action) : Bool := a.properties.canEmitModule

/-- Whether the action writes the documentation of a module. -/
def canEmitModuleDoc (a : Action) : Bool := a.properties.canEmitModule

/-- Whether a main output file is written for each output name. Actions that write just a module
have none. -/
def writesPrimaryOutputs : Action → Bool
  | emitModuleOnly | mergeModules => false
  | noAction | parse | typecheck | dumpParse | dumpAst | emitSyntax | dumpInterfaceHash | printAst
  | dumpScopeMaps | dumpTypeRefinementContexts | emitPch | emitSilGen | emitSil | emitSibGen
  | emitSib | immediate | repl | emitAssembly | emitIr | emitBc | emitObject
  | emitImportedModules => true

end Action

end FrontendPolicy
