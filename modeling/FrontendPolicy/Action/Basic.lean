/-!
# Actions

A frontend runs in a single mode. `Action` is the closed set of these modes, and `Action.all` fixes
the order in which they are listed everywhere. Option files and command lines name an action by its
`Action.token`; its `Category` tells what kind of artifact it leaves behind.
-/

namespace FrontendPolicy

/-- The mode that a frontend invocation runs in. -/
inductive Action where
  /-- No action requested. -/
  | noAction
  | parse
  | typecheck
  | dumpParse
  | dumpAst
  | emitSyntax
  | dumpInterfaceHash
  | printAst
  | dumpScopeMaps
  | dumpTypeRefinementContexts
  /-- Emits a precompiled bridging header. -/
  | emitPch
  /-- Emits raw intermediate code straight from the syntax tree. -/
  | emitSilGen
  | emitSil
  /-- Emits serialized raw intermediate code. -/
  | emitSibGen
  | emitSib
  | emitModuleOnly
  | mergeModules
  /-- Runs the input at once. -/
  | immediate
  | repl
  | emitAssembly
  | emitIr
  | emitBc
  | emitObject
  | emitImportedModules
deriving DecidableEq, Repr, Inhabited

namespace Action

/-- Every action, in order. -/
def all : List Action :=
  [noAction, parse, typecheck, dumpParse, dumpAst, emitSyntax, dumpInterfaceHash, printAst,
    dumpScopeMaps, dumpTypeRefinementContexts, emitPch, emitSilGen, emitSil, emitSibGen, emitSib,
    emitModuleOnly, mergeModules, immediate, repl, emitAssembly, emitIr, emitBc, emitObject,
    emitImportedModules]

/-- No action is left out of the list. -/
theorem mem_all (a : Action) : a ∈ all := by cases a <;> decide

/-- The place of an action in the order. -/
def index (a : Action) : Nat := all.idxOf a

/-- Actions are ordered by their place in the list. -/
instance : Ord Action := ⟨fun a b => compare a.index b.index⟩

/-- The actions of a list in their order. -/
def sort (actions : List Action) : List Action := actions.mergeSort fun a b => a.index ≤ b.index

/-- The word for an action in option files and on the command line. -/
def token : Action → String
  | noAction => "none"
  | parse => "parse"
  | typecheck => "typecheck"
  | dumpParse => "dump-parse"
  | dumpAst => "dump-ast"
  | emitSyntax => "emit-syntax"
  | dumpInterfaceHash => "dump-interface-hash"
  | printAst => "print-ast"
  | dumpScopeMaps => "dump-scope-maps"
  | dumpTypeRefinementContexts => "dump-type-refinement-contexts"
  | emitPch => "emit-pch"
  | emitSilGen => "emit-silgen"
  | emitSil => "emit-sil"
  | emitSibGen => "emit-sibgen"
  | emitSib => "emit-sib"
  | emitModuleOnly => "emit-module-only"
  | mergeModules => "merge-modules"
  | immediate => "immediate"
  | repl => "repl"
  | emitAssembly => "emit-assembly"
  | emitIr => "emit-ir"
  | emitBc => "emit-bc"
  | emitObject => "emit-object"
  | emitImportedModules => "emit-imported-modules"

/-- The tokens of all actions. -/
def tokens : List String := all.map token

/-- The tokens of all actions as error texts list them. -/
def tokenList : String := String.intercalate ", " tokens

end Action

/-! ## Categories -/

/-- What kind of artifact an action leaves behind. -/
inductive Category where
  /-- Nothing is requested at all. -/
  | noOutput
  /-- The input is parsed or checked, and reported on. -/
  | inspection
  /-- Code runs at once, and no file is generated. -/
  | interactive
  /-- A serialized module, intermediate code or a precompiled header. -/
  | module
  /-- Assembly, low-level intermediate code or object code. -/
  | lowering
deriving DecidableEq, Repr

/-- Every category, in order. -/
def Category.all : List Category := [noOutput, inspection, interactive, module, lowering]

/-- The name of a category in JSON. -/
def Category.name : Category → String
  | noOutput => "no_output"
  | inspection => "inspection"
  | interactive => "interactive"
  | module => "module"
  | lowering => "lowering"

/-- The words for a category in listings. -/
def Category.label : Category → String
  | noOutput => "no output"
  | inspection => "inspection"
  | interactive => "interactive"
  | module => "module"
  | lowering => "lowering"

/-- The category of an action. -/
def Action.category : Action → Category
  | noAction => .noOutput
  | parse | typecheck | dumpParse | dumpAst | emitSyntax | dumpInterfaceHash | printAst
  | dumpScopeMaps | dumpTypeRefinementContexts => .inspection
  | immediate | repl => .interactive
  | emitPch | emitSilGen | emitSil | emitSibGen | emitSib | emitModuleOnly | mergeModules =>
    .module
  | emitAssembly | emitIr | emitBc | emitObject | emitImportedModules => .lowering

end FrontendPolicy
