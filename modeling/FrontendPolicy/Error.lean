import FrontendPolicy.Action.Basic
import FrontendPolicy.Files
import FrontendPolicy.Json.Fault

/-!
# Errors

Why an operation on options fails. An `Error` is worded by `Error.message`; if it has a cause,
`Error.chain` puts the wording of the cause after its own.
-/

namespace FrontendPolicy

/-- Why an operation on options fails. -/
inductive Error where
  /-- A file of options is rejected. -/
  | badFile (rejection : Json.Rejection)
  /-- Some input path has no written form. -/
  | unwritablePath
  | file (fault : FileFault)
  /-- A JSON text is rejected. -/
  | badText (rejection : Json.Rejection)
  /-- Some input path has no JSON form. -/
  | unwritableText
  | unknownAction (raw : String)
deriving DecidableEq, Repr

/-- The kinds of errors. -/
inductive ErrorKind where
  | configuration
  | file
  | serialization
  | unknownAction
deriving DecidableEq, Repr

/-- The kind of an error. What is wrong with a file of options is wrong with the configuration. -/
def Error.kind : Error → ErrorKind
  | .badFile _ | .unwritablePath => .configuration
  | .file _ => .file
  | .badText _ | .unwritableText => .serialization
  | .unknownAction _ => .unknownAction

/-- What is said of a path that is not well-formed text. -/
def illFormedPath : String := "path contains invalid UTF-8 characters"

/-- The wording of an error. -/
def Error.message : Error → String
  | .badFile r => "Configuration error: Failed to parse frontend options: " ++ r.message
  | .unwritablePath =>
    "Configuration error: Failed to serialize frontend options: " ++ illFormedPath
  | .file fault => "IO error: " ++ fault.message
  | .badText r => "Serialization error: " ++ r.message
  | .unwritableText => "Serialization error: " ++ illFormedPath
  | .unknownAction raw =>
    "Unknown action '" ++ raw ++ "', expected one of: " ++ Action.tokenList

/-- The wordings of an error and of what caused it, outermost first. A fault of the file system
is the cause of its error. -/
def Error.chain (e : Error) : List String :=
  match e with
  | .file fault => [e.message, fault.message]
  | _ => [e.message]

end FrontendPolicy
