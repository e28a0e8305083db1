import FrontendPolicy.Event
import FrontendPolicy.Options.Json
import FrontendPolicy.Options.Unused
import FrontendPolicy.Store

/-!
# Sessions

A `Session` is work on one configuration, step by step: the configuration, a remembered copy of it,
and the file system. `Session.perform` does a `Step` and gives the `Answer`. A step that fails
leaves the session as it was.
-/

namespace FrontendPolicy

/-- Work on one configuration. -/
structure Session where
  options : Options
  remembered : Options
  store : Store
deriving DecidableEq, Repr

/-- A part of the configuration that can be emptied. -/
inductive Clearable where
  | outputs
  | inputs
  | side (kind : SideOutput)
deriving DecidableEq, Repr

/-- What can be done in a session. -/
inductive Step where
  /-- Starts over with an action. -/
  | new (action : String)
  /-- Starts over with nothing. -/
  | reset
  | change (change : Change)
  | setAction (action : String)
  | clear (part : Clearable)
  /-- Takes the configuration from a JSON text. -/
  | parse (text : String)
  /-- Takes the configuration from a file. -/
  | load (path : Path)
  | save (path : Path)
  | write (path : Path) (data : List UInt8)
  | makeDirectory (path : Path)
  | remove (path : Path)
  | hasUnused (kind : SideOutput)
  | remember
  | equalsRemembered
deriving DecidableEq, Repr

/-- What comes of a step. -/
inductive Answer where
  | done
  | truth (value : Bool)
  | text (value : String)
  | failed (error : Error)
deriving DecidableEq, Repr

/-- The configuration with a part emptied. -/
def Options.clear (o : Options) : Clearable → Options
  | .outputs => { o with outputFilenames := [] }
  | .inputs => { o with inputs := [] }
  | .side k => o.setSidePath k none

/-- Writes a configuration to a file. Gives the text that is in it then, or why it was not written,
and in any case the store that is left. -/
def Options.save (o : Options) (s : Store) (path : Path) : Except Error String × Store :=
  match o.fileText with
  | .error e => (.error e, s)
  | .ok text =>
    match s.write path (Text.encode text.toList) with
    | .error fault => (.error (.file fault), s)
    | .ok s' => (.ok text, s')

namespace Session

/-- A session that starts with nothing on the given file system. -/
def start (store : Store) : Session := ⟨{}, {}, store⟩

/-- Goes on with another configuration, or answers why there is none. -/
def replace (s : Session) : Except Error Options → Answer × Session
  | .ok o => (.done, { s with options := o })
  | .error e => (.failed e, s)

/-- Goes on with another file system, or answers why there is none. -/
def replaceStore (s : Session) : Except FileFault Store → Answer × Session
  | .ok store => (.done, { s with store := store })
  | .error fault => (.failed (.file fault), s)

/-- The action that a text names. -/
def action (raw : String) : Except Error Action :=
  match Action.ofText? raw with
  | some a => .ok a
  | none => .error (.unknownAction raw)

/-- Does a step. -/
def perform (s : Session) : Step → Answer × Session
  | .new raw => s.replace ((action raw).map Options.new)
  | .reset => s.replace (.ok {})
  | .change c => s.replace (.ok (s.options.apply c))
  | .setAction raw =>
    s.replace ((action raw).map fun a => { s.options with requestedAction := a })
  | .clear part => s.replace (.ok (s.options.clear part))
  | .parse text => s.replace ((Options.ofJson text).mapError .badText)
  | .load path => s.replace (Options.load s.store.files path)
  | .save path =>
    match s.options.save s.store path with
    | (.error e, store) => (.failed e, { s with store := store })
    | (.ok text, store) => (.text text, { s with store := store })
  | .write path data => s.replaceStore (s.store.write path data)
  | .makeDirectory path => s.replaceStore (s.store.makeDirectory path)
  | .remove path => s.replaceStore (s.store.remove path)
  | .hasUnused k => (.truth (s.options.hasUnused k), s)
  | .remember => (.done, { s with remembered := s.options })
  | .equalsRemembered => (.truth (s.options.sameAs s.remembered), s)

/-- The session after several steps. -/
def performAll (s : Session) (steps : List Step) : Session :=
  steps.foldl (fun s step => (s.perform step).2) s

end Session

/-- What a step tells while it is done. -/
def Step.events : Step → List Event
  | .load path => [.loading path]
  | _ => []

end FrontendPolicy
