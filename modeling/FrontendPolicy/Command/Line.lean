import FrontendPolicy.Action.Spelling
import FrontendPolicy.Command.Basic
import FrontendPolicy.Command.Help

/-!
# The command line

Arguments are byte sequences. They are taken from left to right, and the first problem decides what
the whole line comes to. `Invocation.ofArgs` hands the line over to the `Verb` that its first
argument names, a `Token` is what an argument looks like on its own, and `Progress` keeps what has
been said about the command so far.
-/

namespace FrontendPolicy

/-- An argument as the program receives it. -/
abbrev Argument := List UInt8

/-- The bytes of a word. -/
def wordBytes (s : String) : Argument := Text.encode s.toList

/-! ## Tokens -/

/-- The hyphen that options start with. -/
def hyphen : UInt8 := 0x2D

/-- The sign between a long option and its value. -/
def equalsSign : UInt8 := 0x3D

/-- What a single argument looks like. -/
inductive Token where
  /-- Two hyphens. All that follows is positional. -/
  | separator
  /-- A long option, with or without a value. -/
  | long (name : Argument) (hasValue : Bool)
  /-- One-letter options, joined. -/
  | short (letters : Argument)
  | positional (value : Argument)
deriving DecidableEq, Repr

/-- The look of an argument. A single hyphen is positional. -/
def Token.ofArgument (arg : Argument) : Token :=
  match arg with
  | a :: b :: rest =>
    if a = hyphen then
      if b = hyphen then
        if rest.isEmpty then .separator
        else .long (rest.takeWhile (· ≠ equalsSign)) (rest.contains equalsSign)
      else .short (b :: rest)
    else .positional arg
  | _ => .positional arg

/-! ## Requests -/

/-- Why the arguments are rejected. -/
inductive UsageError where
  | unknownArgument
  | repeatedFlag
  | unexpectedValue
  | missingArgument
  | emptyArgument
  | illFormedArgument
  | unknownCommand
  | badAction (raw : String)
deriving DecidableEq, Repr

/-- What the arguments ask for. -/
inductive Invocation where
  | run (command : Command)
  | help (topic : HelpTopic)
  | version
  /-- Nothing was asked for. -/
  | nothing
  | reject (error : UsageError)
deriving DecidableEq, Repr

/-- A command that takes arguments of its own. -/
inductive Verb where
  | describe
  | table
  | check
deriving DecidableEq, Repr

/-- A flag of a command. -/
inductive Flag where
  | json
  | strict
deriving DecidableEq, Repr

namespace Verb

/-- The help page of a command. -/
def topic : Verb → HelpTopic
  | describe => .describe
  | table => .table
  | check => .check

/-- The command of a name or of its short form. -/
def ofArgument? (arg : Argument) : Option Verb :=
  if arg = wordBytes "describe" || arg = wordBytes "d" then some describe
  else if arg = wordBytes "table" || arg = wordBytes "t" then some table
  else if arg = wordBytes "check" || arg = wordBytes "c" then some check
  else none

/-- Whether a command has a flag. -/
def hasFlag : Verb → Flag → Bool
  | _, .json => true
  | check, .strict => true
  | _, .strict => false

/-- Whether a command takes a positional argument. -/
def takesArgument : Verb → Bool
  | describe | check => true
  | table => false

end Verb

/-- The name of a flag. -/
def Flag.name : Flag → String
  | json => "json"
  | strict => "strict"

/-- The letter of a flag. -/
def Flag.letter : Flag → UInt8
  | json => 0x6A
  | strict => 0x73

/-- The letter that asks for help. -/
def helpLetter : UInt8 := 0x68

/-- The letter that asks for the version. -/
def versionLetter : UInt8 := 0x56

/-! ## Commands -/

/-- What has been said about a command so far. -/
structure Progress where
  json : Bool
  strict : Bool
  argument : Option Argument
deriving DecidableEq, Repr

namespace Progress

/-- Nothing has been said. -/
def start : Progress := ⟨false, false, none⟩

/-- Whether a flag has been given. -/
def hasFlag (p : Progress) : Flag → Bool
  | .json => p.json
  | .strict => p.strict

/-- The same with a flag given. -/
def setFlag (p : Progress) : Flag → Progress
  | .json => { p with json := true }
  | .strict => { p with strict := true }

end Progress

/-- The action that an argument names. -/
def actionArgument (arg : Argument) : Except UsageError Action :=
  match Text.decode? arg with
  | none => .error .illFormedArgument
  | some cs =>
    match Action.ofText? (String.ofList cs) with
    | none => .error (.badAction (String.ofList cs))
    | some a => .ok a

/-- The path that an argument names. -/
def pathArgument (arg : Argument) : Except UsageError Path :=
  if arg.isEmpty then .error .emptyArgument else .ok ⟨arg⟩

/-- The command that all that has been said amounts to. -/
def Verb.command (v : Verb) (p : Progress) : Except UsageError Command :=
  match v, p.argument with
  | .table, _ => .ok (.table p.json)
  | .describe, some arg => (actionArgument arg).map (.describe · p.json)
  | .check, some arg => (pathArgument arg).map (.check · p.json p.strict)
  | _, none => .error .missingArgument

/-- What is wrong with the positional argument given so far. -/
def Verb.argumentError (v : Verb) (p : Progress) : Option UsageError :=
  match v, p.argument with
  | .describe, some arg =>
    match actionArgument arg with
    | .error e => some e
    | .ok _ => none
  | .check, some arg =>
    match pathArgument arg with
    | .error e => some e
    | .ok _ => none
  | _, _ => none

/-- Takes a flag. A positional argument before it is looked at first, and no flag may be given
twice. -/
def Verb.takeFlag (v : Verb) (f : Flag) (p : Progress) : Except Invocation Progress :=
  match v.argumentError p with
  | some e => .error (.reject e)
  | none => if p.hasFlag f then .error (.reject .repeatedFlag) else .ok (p.setFlag f)

/-- Takes a request for help. A positional argument before it is looked at first. -/
def Verb.takeHelp (v : Verb) (p : Progress) : Invocation :=
  match v.argumentError p with
  | some e => .reject e
  | none => .help v.topic

/-- Takes a positional argument. There is room for one at most. -/
def Verb.takePositional (v : Verb) (arg : Argument) (p : Progress) : Except Invocation Progress :=
  if v.takesArgument && p.argument.isNone then .ok { p with argument := some arg }
  else .error (.reject .unknownArgument)

/-- The flag of a command with the given letter. -/
def Verb.flagOfLetter? (v : Verb) (letter : UInt8) : Option Flag :=
  [Flag.json, Flag.strict].find? fun f => v.hasFlag f && f.letter = letter

/-- The flag of a command with the given name. -/
def Verb.flagOfName? (v : Verb) (name : Argument) : Option Flag :=
  [Flag.json, Flag.strict].find? fun f => v.hasFlag f && wordBytes f.name = name

/-- Takes joined one-letter options. -/
def Verb.takeLetters (v : Verb) (p : Progress) : Argument → Except Invocation Progress
  | [] => .ok p
  | letter :: rest =>
    if letter = helpLetter then .error (v.takeHelp p)
    else
      match v.flagOfLetter? letter with
      | none => .error (.reject .unknownArgument)
      | some f =>
        match v.takeFlag f p with
        | .error stop => .error stop
        | .ok p' => v.takeLetters p' rest

/-- Takes a long option. None of them has a value. -/
def Verb.takeLong (v : Verb) (name : Argument) (hasValue : Bool) (p : Progress) :
    Except Invocation Progress :=
  if name = wordBytes "help" then
    if hasValue then .error (.reject .unexpectedValue) else .error (v.takeHelp p)
  else
    match v.flagOfName? name with
    | none => .error (.reject .unknownArgument)
    | some f => if hasValue then .error (.reject .unexpectedValue) else v.takeFlag f p

/-- Takes arguments that are all positional. -/
def Verb.takePositionals (v : Verb) (p : Progress) : List Argument → Except Invocation Progress
  | [] => .ok p
  | arg :: rest =>
    match v.takePositional arg p with
    | .error stop => .error stop
    | .ok p' => v.takePositionals p' rest

/-- Takes the arguments of a command. -/
def Verb.take (v : Verb) (p : Progress) : List Argument → Except Invocation Progress
  | [] => .ok p
  | arg :: rest =>
    let next :=
      match Token.ofArgument arg with
      | .separator => none
      | .long name hasValue => some (v.takeLong name hasValue p)
      | .short letters => some (v.takeLetters p letters)
      | .positional value => some (v.takePositional value p)
    match next with
    | none => v.takePositionals p rest
    | some (.error stop) => .error stop
    | some (.ok p') => v.take p' rest

/-- What a command with its arguments asks for. -/
def Verb.invocation (v : Verb) (args : List Argument) : Invocation :=
  match v.take .start args with
  | .error stop => stop
  | .ok p =>
    match v.command p with
    | .error e => .reject e
    | .ok command => .run command

/-! ## The whole line -/

/-- The word for the command that shows help pages. -/
def helpWord : Argument := wordBytes "help"

/-- What a request for the help page of a command asks for. Commands have none of their own. -/
def helpInvocation : List Argument → Invocation
  | [] => .help .program
  | [arg] =>
    if arg = helpWord then .help .help
    else
      match Verb.ofArgument? arg with
      | some v => .help v.topic
      | none => .reject .unknownCommand
  | _ => .reject .unknownCommand

/-- Whether an argument names a command. -/
def namesCommand (arg : Argument) : Bool := arg = helpWord || (Verb.ofArgument? arg).isSome

/-- What an argument that is no command asks for at the front of the line. -/
def optionInvocation (arg : Argument) (rest : List Argument) : Invocation :=
  match Token.ofArgument arg with
  | .positional _ => .reject .unknownCommand
  | .separator =>
    match rest with
    | [] => .nothing
    | next :: _ => .reject (if namesCommand next then .unknownArgument else .unknownCommand)
  | .long name hasValue =>
    if name = helpWord then
      if hasValue then .reject .unexpectedValue else .help .program
    else if name = wordBytes "version" then
      if hasValue then .reject .unexpectedValue else .version
    else .reject .unknownArgument
  | .short letters =>
    if letters.head? = some helpLetter then .help .program
    else if letters.head? = some versionLetter then .version
    else .reject .unknownArgument

/-- What the arguments of the program ask for. -/
def Invocation.ofArgs : List Argument → Invocation
  | [] => .nothing
  | arg :: rest =>
    if arg = helpWord then helpInvocation rest
    else
      match Verb.ofArgument? arg with
      | some v => v.invocation rest
      | none => optionInvocation arg rest

end FrontendPolicy
