import FrontendPolicy.Program

/-!
# The executable

Hands the arguments, the environment and the files that a command looks at to the program, and
writes what it says.
-/

namespace FrontendPolicy

/-- The code that an error of the operating system comes with. -/
def errorCode : IO.Error → UInt32
  | .noFileOrDirectory _ code _ | .noSuchThing _ code _ | .inappropriateType _ code _
  | .invalidArgument _ code _ | .resourceExhausted _ code _ => code
  | _ => 0

/-- The number of an error. Some codes are the number and some are the number below zero. -/
def errorNumber (e : IO.Error) : UInt32 :=
  let code := errorCode e
  if code < 0x80000000 then code else 0 - code

/-- The fault that an error of the operating system stands for. -/
def faultOfError (e : IO.Error) : FileFault :=
  match errorNumber e with
  | 20 => .notDirectory
  | 21 => .isDirectory
  | 36 => .nameTooLong
  | _ => .notFound

/-- The contents of a file. -/
def readContents (p : Path) : IO (Except FileFault (List UInt8)) := do
  try
    let bytes ← IO.FS.readBinFile p.lossyText
    return .ok bytes.toList
  catch e =>
    return .error (faultOfError e)

/-- Whether a name is that of a directory. -/
def checkDirectory (name : String) : IO Bool := do
  try
    let found ← IO.FS.realPath name
    found.isDir
  catch _ =>
    return false

/-- The part of the file system that an invocation looks at. -/
def lookAround : Invocation → IO Files
  | .run (.check config _ _) => do
    let contents ← readContents config
    let named := contents.toOption.bind fun bytes =>
      (Options.ofBytes bytes).toOption.bind Options.namedOutput?
    let isDirectory ←
      match named with
      | some name => checkDirectory name
      | none => pure false
    return ⟨fun _ => contents, fun _ => isDirectory⟩
  | _ => return ⟨fun _ => .error .notFound, fun _ => false⟩

end FrontendPolicy

open FrontendPolicy in
/-- Runs the program. -/
def main (args : List String) : IO UInt32 := do
  let setting ← IO.getEnv "RUST_LOG"
  let arguments := args.map wordBytes
  let files ← lookAround (Invocation.ofArgs arguments)
  let outcome := Program.outcome setting files arguments
  (← IO.getStdout).putStr outcome.stdout
  (← IO.getStderr).putStr outcome.stderr
  return outcome.exit.toUInt32
