import FrontendPolicy.Options.Basic

/-!
# Unused paths

An `UnusedPath` is a configured path that the requested action will never write.
`Options.unusedPaths` finds all of them. Whether there is one of a kind is asked through
`Options.hasUnused`, or through the question that each kind has of its own.
-/

namespace FrontendPolicy

/-- A configured path that an action does not write. -/
structure UnusedPath where
  kind : SideOutput
  path : String
  action : Action
deriving DecidableEq, Repr

/-- The warning about an unused path. -/
def UnusedPath.message (u : UnusedPath) : String :=
  "this mode does not support emitting the " ++ u.kind.description ++ " ('" ++ u.path ++
    "' is ignored for action '" ++ u.action.token ++ "')"

namespace Options

/-- Whether a path of this kind is configured that the requested action cannot write. -/
def hasUnused (o : Options) (k : SideOutput) : Bool :=
  (o.configured? k).isSome && !k.isEmittedBy o.requestedAction

/-- Whether the path of the dependencies file is unused. -/
def hasUnusedDependencies (o : Options) : Bool := o.hasUnused .dependencies

/-- Whether the path of the Objective-C header is unused. -/
def hasUnusedObjcHeader (o : Options) : Bool := o.hasUnused .objcHeader

/-- Whether the path of the module is unused. -/
def hasUnusedModule (o : Options) : Bool := o.hasUnused .module

/-- Whether the path of the module documentation is unused. -/
def hasUnusedModuleDoc (o : Options) : Bool := o.hasUnused .moduleDoc

/-- Whether the path of the loaded module trace is unused. -/
def hasUnusedLoadedModuleTrace (o : Options) : Bool := o.hasUnused .loadedModuleTrace

/-- The unused path of a kind, if there is one. -/
def unused? (o : Options) (k : SideOutput) : Option UnusedPath :=
  if k.isEmittedBy o.requestedAction then none
  else (o.configured? k).map fun path => ⟨k, path, o.requestedAction⟩

/-- Every unused path, in the order of the kinds. -/
def unusedPaths (o : Options) : List UnusedPath := SideOutput.all.filterMap o.unused?

end Options

end FrontendPolicy
