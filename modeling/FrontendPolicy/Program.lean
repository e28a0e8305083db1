import FrontendPolicy.Command.Line

/-!
# The program

From arguments to an exit code. `Program.outcome` carries out what the arguments ask for, writes to
the two `Outputs` while it does so, and leaves an `Outcome` behind. The texts that reject arguments
and report failures are here as well, because nothing below the program prints them.
-/

namespace FrontendPolicy

/-! ## Texts -/

/-- What a rejection of the arguments says. A raw value is set off from the words around it. -/
def UsageError.detail : UsageError → String
  | .unknownArgument => "unexpected argument found"
  | .repeatedFlag => "the argument cannot be used multiple times"
  | .unexpectedValue => "unexpected value for an option found"
  | .missingArgument => "a required argument was not provided"
  | .emptyArgument => "a value is required for '<CONFIG>' but none was supplied"
  | .illFormedArgument => "invalid UTF-8 was detected in an argument"
  | .unknownCommand => "unrecognized subcommand"
  | .badAction raw =>
    "invalid value '" ++ Text.emphasized raw ++ "' for '" ++ Text.emphasized "<ACTION>" ++ "': " ++
      (Error.unknownAction raw).message

/-- A rejection as it is put on a terminal. -/
def UsageError.display (e : UsageError) : String :=
  Text.emphasized "error:" ++ " " ++ e.detail ++ "\n\nFor more information, try '" ++
    Text.emphasized "--help" ++ "'.\n"

/-- The text of a rejection. -/
def UsageError.text (e : UsageError) : String := Text.plain e.display

/-- What a rejection writes where no terminal listens. -/
def UsageError.output (e : UsageError) : String := Text.plainStream e.display

/-- A text whose lines after the first are indented. -/
def hangingIndent (indent : String) (s : String) : String :=
  String.ofList (s.toList.flatMap fun c => if c = '\n' then c :: indent.toList else [c])

/-- The lines that number several causes. -/
def numberedCauses (causes : List String) : List String :=
  causes.mapIdx fun i cause => "    " ++ toString i ++ ": " ++ hangingIndent "       " cause

/-- The report of a failure: its outermost wording, then its causes, which are numbered if there
are several. -/
def failureText : List String → String
  | [] => ""
  | [outermost] => "Error: " ++ outermost ++ "\n"
  | [outermost, cause] =>
    "Error: " ++ outermost ++ "\n\nCaused by:\n    " ++ hangingIndent "    " cause ++ "\n"
  | outermost :: causes =>
    "Error: " ++ outermost ++ "\n\nCaused by:\n" ++
      String.join ((numberedCauses causes).map (· ++ "\n"))

/-! ## Outcomes -/

/-- What was written so far to the two outputs. -/
structure Outputs where
  stdout : String := ""
  stderr : String := ""
deriving DecidableEq, Repr

/-- Writes each event as a line of the log when it is told, if the threshold lets it through. -/
def Listener.outputs (t : Threshold) : Listener Outputs where
  told o e := if t.admits e.severity then { o with stderr := o.stderr ++ e.line } else o
  printed o s := { o with stdout := o.stdout ++ s }

/-- What the program leaves behind: its exit code and what it wrote. -/
structure Outcome where
  exit : Nat
  stdout : String
  stderr : String
deriving DecidableEq, Repr

/-- What the program does with a command. A failure is reported after all that was written while
the command ran. -/
def Command.outcome (t : Threshold) (files : Files) (c : Command) : Outcome :=
  match (c.work files).run.play (.outputs t) {} with
  | (.ok (), o) => ⟨0, o.stdout, o.stderr⟩
  | (.error e, o) => ⟨1, o.stdout, o.stderr ++ failureText e.chain⟩

/-- What the program does with an invocation. -/
def Invocation.outcome (t : Threshold) (files : Files) : Invocation → Outcome
  | .run command => command.outcome t files
  | .help topic => ⟨0, topic.text, ""⟩
  | .version => ⟨0, versionText, ""⟩
  | .nothing => ⟨2, "", HelpTopic.program.text⟩
  | .reject e => ⟨2, "", e.output⟩

namespace Program

/-- The threshold that is used where none is set. -/
def defaultThreshold : Threshold := some .warn

/-- The threshold of a word, or the default one. -/
def thresholdOfWord (word : String) : Threshold :=
  match word with
  | "off" => none
  | "error" => some .error
  | "warn" => some .warn
  | "info" => some .info
  | "debug" => some .debug
  | "trace" => some .trace
  | _ => defaultThreshold

/-- The threshold of a setting that may be missing. -/
def threshold (setting : Option String) : Threshold :=
  match setting with
  | none => defaultThreshold
  | some word => thresholdOfWord word

/-- What the program does with its arguments. -/
def outcome (setting : Option String) (files : Files) (args : List Argument) : Outcome :=
  (Invocation.ofArgs args).outcome (threshold setting) files

end Program

end FrontendPolicy
