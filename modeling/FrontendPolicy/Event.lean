import FrontendPolicy.Options.Unused
import FrontendPolicy.Text.Terminal

/-!
# Events

What the library tells about its work while it works. An `Event` has a `Severity`, the part of the
program that it comes from and a wording. A `Threshold` lets through the events that are severe
enough, and each of these is one `Event.line` of a log.
-/

namespace FrontendPolicy

/-- How severe an event is, the most severe first. -/
inductive Severity where
  | error
  | warn
  | info
  | debug
  | trace
deriving DecidableEq, Repr

namespace Severity

/-- The place of a severity, counted from the most severe one. -/
def rank : Severity → Nat
  | error => 0
  | warn => 1
  | info => 2
  | debug => 3
  | trace => 4

/-- The word for a severity in a log. -/
def word : Severity → String
  | error => "ERROR"
  | warn => "WARN"
  | info => "INFO"
  | debug => "DEBUG"
  | trace => "TRACE"

end Severity

/-- The least severe events that are let through, if any are. -/
abbrev Threshold := Option Severity

/-- Whether a threshold lets events of a severity through. -/
def Threshold.admits (t : Threshold) (s : Severity) : Bool :=
  match t with
  | none => false
  | some least => s.rank ≤ least.rank

/-- Something that happened. -/
inductive Event where
  | describing (action : Action)
  | checking (config : Path)
  | loading (config : Path)
  | skippingPrimaries (count : Nat) (action : Action)
  | lookedAtOutput (name : String) (isDirectory : Bool)
  | unusedPath (unused : UnusedPath)
  | missingModuleName (action : Action)
deriving DecidableEq, Repr

namespace Event

/-- How severe an event is. -/
def severity : Event → Severity
  | describing _ | checking _ | loading _ => .debug
  | skippingPrimaries .. | lookedAtOutput .. => .trace
  | unusedPath _ | missingModuleName _ => .warn

/-- The part of the program that an event comes from. -/
def source : Event → String
  | describing _ => "frontend_options::commands::describe"
  | checking _ | unusedPath _ | missingModuleName _ => "frontend_options::commands::check"
  | loading _ => "frontend_options_core::options::frontend_options"
  | skippingPrimaries .. | lookedAtOutput .. => "frontend_options_core::options::output_paths"

/-- The wording of an event. -/
def message : Event → String
  | describing action => "Describing action: " ++ action.token
  | checking config => "Checking frontend options: " ++ config.lossyText
  | loading config => "Loading frontend options from " ++ Text.quoteBytes config.bytes
  | skippingPrimaries count action =>
    "Skipping " ++ toString count ++ " primary output(s) for " ++ action.token
  | lookedAtOutput name isDirectory =>
    "Output " ++ Text.quote name ++ " is_dir=" ++ (if isDirectory then "true" else "false")
  | unusedPath unused => unused.message
  | missingModuleName action =>
    "action '" ++ action.token ++ "' needs a module name but none is configured"

/-- The severity of an event and its wording. -/
def summary (e : Event) : String := e.severity.word ++ " " ++ e.message

/-- An event as a line of a log. The names in its wording cannot steer the terminal that the log is
shown on. -/
def line (e : Event) : String :=
  e.severity.word ++ " " ++ e.source ++ ": " ++ Text.spellControls e.message ++ "\n"

/-- The events that a threshold lets through, in order. -/
def admitted (t : Threshold) (events : List Event) : List Event :=
  events.filter fun e => t.admits e.severity

end Event

end FrontendPolicy
