import FrontendPolicy.Files

/-!
# Stores

A file system as a value. A `Store` has its files and directories at locations, and `Store.locate`
follows a path from the working directory or the root to one of them. Each of the operations `read`,
`write`, `makeDirectory` and `remove` may end in a fault, and `Store.files` is the view that
commands have of a store.
-/

namespace FrontendPolicy

/-- The name of a file or directory within its directory. -/
abbrev FileName := List UInt8

/-- The names that lead from the root to a file or directory. -/
abbrev Location := List FileName

/-- What is at a location. -/
inductive Node where
  | file (data : List UInt8)
  | directory
deriving DecidableEq, Repr

/-- Files and directories at their locations. The directories from the root to the working
directory are always there. -/
structure Store where
  workingDirectory : Location
  entries : List (Location × Node)
deriving DecidableEq, Repr

/-! ## Paths that name a location -/

namespace Path

/-- The parts of a path between slashes that are not empty. -/
def parts (p : Path) : List FileName := (segments p.bytes).filter (· ≠ [])

/-- Whether a path ends with a slash and so can name a directory only. -/
def endsWithSlash (p : Path) : Bool := p.bytes.getLast? == some slash

/-- The longest path that can be looked up. -/
def maxLength : Nat := 4095

/-- Why a path cannot be looked up at all. -/
def fault? (p : Path) : Option FileFault :=
  if p.bytes.contains 0 then some .nulInPath
  else if p.bytes.isEmpty then some .notFound
  else if maxLength < p.bytes.length then some .nameTooLong
  else none

end Path

namespace Store

/-- A store with nothing in it but the working directory and the way to it. -/
def empty (workingDirectory : Location) : Store := ⟨workingDirectory, []⟩

/-- What is at a location. -/
def node? (s : Store) (l : Location) : Option Node :=
  if l.isPrefixOf s.workingDirectory then some .directory
  else (s.entries.find? fun entry => entry.1 = l).map (·.2)

/-- The store with another node at a location. -/
def put (s : Store) (l : Location) (n : Node) : Store :=
  { s with entries := (l, n) :: s.entries.filter fun entry => entry.1 ≠ l }

/-- The store with nothing at a location. -/
def erase (s : Store) (l : Location) : Store :=
  { s with entries := s.entries.filter fun entry => entry.1 ≠ l }

/-! ## Following paths -/

/-- The longest name of a file. -/
def maxNameLength : Nat := 255

/-- One step of a path, from a directory. -/
def step (s : Store) (here : Location) (part : FileName) : Except FileFault Location :=
  if s.node? here ≠ some .directory then .error .notDirectory
  else if part = [dot] then .ok here
  else if part = [dot, dot] then .ok here.dropLast
  else if maxNameLength < part.length then .error .nameTooLong
  else if (s.node? (here ++ [part])).isNone then .error .notFound
  else .ok (here ++ [part])

/-- Several steps of a path. -/
def walk (s : Store) (here : Location) : List FileName → Except FileFault Location
  | [] => .ok here
  | part :: rest =>
    match s.step here part with
    | .error fault => .error fault
    | .ok next => s.walk next rest

/-- Where a path starts. -/
def start (s : Store) (p : Path) : Location := if p.isAbsolute then [] else s.workingDirectory

/-- What a path names. -/
def locate (s : Store) (p : Path) : Except FileFault (Location × Node) :=
  match p.fault? with
  | some fault => .error fault
  | none =>
    match s.walk (s.start p) p.parts with
    | .error fault => .error fault
    | .ok l =>
      match s.node? l with
      | none => .error .notFound
      | some .directory => .ok (l, .directory)
      | some (.file data) =>
        if p.endsWithSlash then .error .notDirectory else .ok (l, .file data)

/-! ## Operations -/

/-- The contents of a file. -/
def read (s : Store) (p : Path) : Except FileFault (List UInt8) :=
  match s.locate p with
  | .error fault => .error fault
  | .ok (_, .directory) => .error .isDirectory
  | .ok (_, .file data) => .ok data

/-- Whether a path names a directory. -/
def isDirectory (s : Store) (p : Path) : Bool :=
  match s.locate p with
  | .ok (_, .directory) => true
  | _ => false

/-- Where a file of the given last part would be, seen from the directory it is in. -/
def target (s : Store) (p : Path) (here : Location) (last : FileName) :
    Except FileFault Location :=
  if s.node? here ≠ some .directory then .error .notDirectory
  else if last = [dot] || last = [dot, dot] || p.endsWithSlash then .error .isDirectory
  else if maxNameLength < last.length then .error .nameTooLong
  else if s.node? (here ++ [last]) = some .directory then .error .isDirectory
  else .ok (here ++ [last])

/-- The store with a file written. Its directory has to be there, and what was in the file before
is replaced. -/
def write (s : Store) (p : Path) (data : List UInt8) : Except FileFault Store :=
  match p.fault? with
  | some fault => .error fault
  | none =>
    match p.parts.getLast? with
    | none => .error .isDirectory
    | some last =>
      match s.walk (s.start p) p.parts.dropLast with
      | .error fault => .error fault
      | .ok here =>
        match s.target p here last with
        | .error fault => .error fault
        | .ok l => .ok (s.put l (.file data))

/-- One step of a path along which missing directories are made. -/
def stepMaking (s : Store) (here : Location) (part : FileName) :
    Except FileFault (Store × Location) :=
  match s.step here part with
  | .ok next => .ok (s, next)
  | .error .notFound => .ok (s.put (here ++ [part]) .directory, here ++ [part])
  | .error fault => .error fault

/-- Several steps of a path along which missing directories are made. -/
def walkMaking (s : Store) (here : Location) :
    List FileName → Except FileFault (Store × Location)
  | [] => .ok (s, here)
  | part :: rest =>
    match s.stepMaking here part with
    | .error fault => .error fault
    | .ok (s', next) => s'.walkMaking next rest

/-- The store with a directory made, and with it the directories on the way. -/
def makeDirectory (s : Store) (p : Path) : Except FileFault Store :=
  if p.bytes.isEmpty then .ok s
  else
    match p.fault? with
    | some fault => .error fault
    | none =>
      match s.walkMaking (s.start p) p.parts with
      | .error fault => .error fault
      | .ok (s', l) => if s'.node? l = some .directory then .ok s' else .error .exists

/-- Whether a location has something below it. -/
def isOccupied (s : Store) (l : Location) : Bool :=
  s.entries.any fun entry => l.isPrefixOf entry.1 && entry.1 ≠ l

/-- The store with a file or an empty directory removed. -/
def remove (s : Store) (p : Path) : Except FileFault Store :=
  match s.locate p with
  | .error fault => .error fault
  | .ok (l, .directory) => if s.isOccupied l then .error .notEmpty else .ok (s.erase l)
  | .ok (l, .file _) => .ok (s.erase l)

/-- The view of a store. -/
def files (s : Store) : Files := ⟨s.read, s.isDirectory⟩

end Store

end FrontendPolicy
