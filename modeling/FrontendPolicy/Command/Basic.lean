import FrontendPolicy.Action.Description
import FrontendPolicy.Options.Json
import FrontendPolicy.Report
import FrontendPolicy.Work

/-!
# Commands

A `Command` is a request, and a `Run` is all that comes of it: the events, the output and the
failure, if there was one. `Command.run` carries a request out against a view of the file system.

What was told and printed before a failure stays. The functions from `Work.load` to `Work.check` are
therefore `Work`, in which each step tells what it does at the point where it does it.
-/

namespace FrontendPolicy

/-- A request to the program. -/
inductive Command where
  /-- Shows what one action can do. -/
  | describe (action : Action) (json : Bool)
  /-- Shows what every action can do. -/
  | table (json : Bool)
  /-- Checks an options file for unused output paths. -/
  | check (config : Path) (json strict : Bool)
deriving DecidableEq, Repr

/-- Why a command fails. -/
inductive CommandError where
  | unreadable (config : Path) (error : Error)
  | unusedPaths (count : Nat) (action : Action)
deriving DecidableEq, Repr

/-- The wordings of a failure and of what caused it, outermost first. -/
def CommandError.chain : CommandError → List String
  | .unreadable config error =>
    ("Failed to load frontend options from " ++ config.lossyText) :: error.chain
  | .unusedPaths count action =>
    [toString count ++ " configured output path(s) unused by action '" ++ action.token ++ "'"]

/-- The outcome of a command. -/
structure Run where
  events : List Event
  stdout : String
  failure : Option CommandError
deriving DecidableEq, Repr

/-- Whether a command did what it was asked to. -/
def Run.succeeds (r : Run) : Bool := r.failure.isNone

/-- The outcome of work that stands on its own. -/
def Work.outcome (w : Work CommandError Unit) : Run :=
  let (r, t) := w.perform
  ⟨t.events, t.stdout, errorOf r⟩

/-! ## Work on an options file -/

namespace Work

variable {ε σ : Type}

/-- Loads the options in a file. -/
def load (files : Files) (config : Path) : Work Error Options := do
  tell (.loading config)
  ofExcept (Options.load files config)

/-- Goes through the output paths one by one, each changing the state. Main outputs that are
skipped are told of. -/
def visitOutputs (o : Options) (visit : σ → OutputKind → String → σ) (start : σ) : Work ε σ := do
  whenever (!o.requestedAction.writesPrimaryOutputs)
    (tell (.skippingPrimaries o.outputFilenames.length o.requestedAction))
  return o.visitOutputs visit start

/-- Looks whether the single output that names a file is a directory. -/
def lookAtOutput (o : Options) (files : Files) : Work ε Bool :=
  match o.namedOutput? with
  | none => return false
  | some output => do
    let isDirectory := files.isDirectory (.ofText output)
    tell (.lookedAtOutput output isDirectory)
    return isDirectory

/-- Makes the report on a configuration. -/
def report (o : Options) (files : Files) : Work ε Report := do
  let latestFirst ← visitOutputs o (fun done kind path => (kind, path) :: done) []
  let outputIsDirectory ← lookAtOutput o files
  return .assemble o latestFirst.reverse outputIsDirectory

/-- Warns of what a report finds. -/
def warn (r : Report) : Work ε Unit := do
  r.unused.forM fun unused => tell (.unusedPath unused)
  whenever r.missingModuleName (tell (.missingModuleName r.action))

/-- Prints a report, as JSON or line by line. -/
def printReport (r : Report) (json : Bool) : Work ε Unit :=
  if json then print (r.document.prettyText ++ "\n")
  else r.lines.forM fun line => print (line ++ "\n")

/-- Checks an options file. -/
def check (files : Files) (config : Path) (json strict : Bool) : Work CommandError Unit := do
  tell (.checking config)
  let o ← (load files config).adapt (.unreadable config)
  let r ← report o files
  warn r
  printReport r json
  whenever (strict && !r.unused.isEmpty) (throw (.unusedPaths r.unused.length r.action))

end Work

/-! ## Running -/

/-- The work that a command asks for. -/
def Command.work (files : Files) : Command → Work CommandError Unit
  | .describe action json => do
    Work.tell (.describing action)
    Work.print (if json then action.description.prettyText ++ "\n" else action.listing)
  | .table json =>
    Work.print (if json then Action.descriptions.prettyText ++ "\n" else Action.table)
  | .check config json strict => Work.check files config json strict

/-- Carries a command out. -/
def Command.run (files : Files) (c : Command) : Run := (c.work files).outcome

end FrontendPolicy
