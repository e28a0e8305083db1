import FrontendPolicy.Text.Utf8

/-!
# Paths

A `Path` is a sequence of bytes, which need not be a text. Paths that are spelled differently may
take the same steps, since repeated slashes and most dots do not count. `Path.components` are the
steps; `Path.sameAs` and `Path.fileName?` look at nothing else.
-/

namespace FrontendPolicy

/-- A file path. Any bytes may occur in it. -/
structure Path where
  bytes : List UInt8
deriving DecidableEq, Repr, Inhabited

/-- The byte that separates the parts of a path. -/
def slash : UInt8 := 0x2F

/-- The byte that makes up the special parts of a path. -/
def dot : UInt8 := 0x2E

/-- A step of a path. -/
inductive Component where
  | root
  | here
  | up
  | name (bytes : List UInt8)
deriving DecidableEq, Repr

namespace Path

/-- The path that a text spells. -/
def ofText (s : String) : Path := ⟨Text.encode s.toList⟩

/-- The text of a path whose bytes are well formed. -/
def text? (p : Path) : Option String := (Text.decode? p.bytes).map String.ofList

/-- The text of a path, with each stray run of bytes replaced. -/
def lossyText (p : Path) : String := String.ofList (Text.decodeLossy p.bytes)

/-- The parts of a byte sequence between slashes. -/
def segments : List UInt8 → List (List UInt8)
  | [] => [[]]
  | b :: rest =>
    if b = slash then [] :: segments rest
    else
      match segments rest with
      | [] => [[b]]
      | s :: more => (b :: s) :: more

/-- Whether a path starts at the root. -/
def isAbsolute (p : Path) : Bool := p.bytes.head? == some slash

/-- The step of a part after the first. Empty parts and dots are no steps. -/
def step? (segment : List UInt8) : Option Component :=
  if segment = [] || segment = [dot] then none
  else if segment = [dot, dot] then some .up
  else some (.name segment)

/-- The steps of a path. A dot counts at the front of a relative path only. -/
def components (p : Path) : List Component :=
  let parts := segments p.bytes
  let start :=
    if p.isAbsolute then [.root]
    else if parts.head? = some [dot] then [.here]
    else []
  start ++ parts.filterMap step?

/-- Whether two paths take the same steps. -/
def sameAs (p q : Path) : Bool := p.components = q.components

/-- The last step of a path, if it is a name. -/
def fileName? (p : Path) : Option Path :=
  match p.components.getLast? with
  | some (.name bytes) => some ⟨bytes⟩
  | _ => none

end Path

end FrontendPolicy
