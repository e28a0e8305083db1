import FrontendPolicy.Action.Properties
import FrontendPolicy.Json.Document
import FrontendPolicy.Text.Columns

/-!
# Descriptions of actions

One action is described by its row of the policy table, either in JSON, under its name and category,
or by `Action.listing`, which gives each answer a line. `Action.table` has a line for each action
instead, with the answers in columns.
-/

namespace FrontendPolicy

open Json Text

/-! ## JSON -/

/-- The members of a row. -/
def Properties.members (p : Properties) : List (String × Document) :=
  [("needs_proper_module_name", .flag p.needsProperModuleName),
    ("is_immediate", .flag p.isImmediate),
    ("principal_output_suffix", (p.principalSuffix.map Document.text).getD .null),
    ("can_emit_dependencies", .flag p.canEmitDependencies),
    ("can_emit_header", .flag p.canEmitHeader),
    ("can_emit_loaded_module_trace", .flag p.canEmitLoadedModuleTrace),
    ("can_emit_module", .flag p.canEmitModule),
    ("produces_output", .flag p.producesOutput),
    ("produces_textual_output", .flag p.producesTextualOutput)]

/-- A row as a document. -/
def Properties.document (p : Properties) : Document := .object p.members

/-- An action with its category and its row. -/
def Action.description (a : Action) : Document :=
  .object (("action", .text a.token) :: ("category", .text a.category.name) ::
    a.properties.members)

/-- The descriptions of all actions. -/
def Action.descriptions : Document := .list (Action.all.map Action.description)

/-! ## Listings -/

/-- The lines of a listing of one action: a label and an answer each. -/
def Action.answers (a : Action) : List (String × String) :=
  let p := a.properties
  [("category", a.category.label),
    ("principal suffix", (p.principalSuffix.map ("." ++ ·)).getD "-"),
    ("produces output", yesNo p.producesOutput),
    ("textual output", yesNo p.producesTextualOutput),
    ("immediate", yesNo p.isImmediate),
    ("needs module name", yesNo p.needsProperModuleName),
    ("module + doc", yesNo p.canEmitModule),
    ("objc header", yesNo p.canEmitHeader),
    ("dependencies", yesNo p.canEmitDependencies),
    ("loaded module trace", yesNo p.canEmitLoadedModuleTrace)]

/-- The listing of one action. -/
def Action.listing (a : Action) : String :=
  a.token ++ "\n" ++ String.join (a.answers.map fun (label, answer) =>
    "  " ++ padRight 20 label ++ " " ++ answer ++ "\n")

/-- The widest token. -/
def Action.tokenWidth : Nat := (Action.tokens.map String.length).foldl max 0

/-- A line of the table. Its first cell is as wide as the widest token, the last one is open, and
the others have eight characters. -/
def tableLine (first : String) (cells : List String) (last : String) : String :=
  padRight Action.tokenWidth first ++ String.join (cells.map fun cell => " " ++ padRight 8 cell) ++
    " " ++ last ++ "\n"

/-- The line of an action in the table. -/
def Action.tableRow (a : Action) : String :=
  let p := a.properties
  tableLine a.token
    [p.principalSuffix.getD "-", yesNo p.producesOutput, yesNo p.producesTextualOutput,
      yesNo p.isImmediate, yesNo p.needsProperModuleName, yesNo p.canEmitModule,
      yesNo p.canEmitHeader, yesNo p.canEmitDependencies]
    (yesNo p.canEmitLoadedModuleTrace)

/-- The policy table as text. -/
def Action.table : String :=
  tableLine "action" ["suffix", "output", "text", "imm", "modname", "module", "header", "deps"]
    "trace" ++ String.join (Action.all.map Action.tableRow)

end FrontendPolicy
