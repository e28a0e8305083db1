import FrontendPolicy.Json.Document
import FrontendPolicy.Json.Record
import FrontendPolicy.Path

/-!
# Inputs

The input files of one invocation, in their order. Any of them may be marked as primary.

Queries about primary inputs are of two sorts. `Inputs.primaries` and `Inputs.primaryCount` go
through the whole list, while `Inputs.hasPrimary` and `Inputs.uniquePrimary?` search it with
`Inputs.nextPrimary?` and stop as soon as they have the answer.
-/

namespace FrontendPolicy

open Json

/-- An input file. The invocation compiles its primary inputs and reads the others for
context. -/
structure InputFile where
  file : Path
  primary : Bool
deriving DecidableEq, Repr

namespace InputFile

/-- Whether two inputs have the same mark and paths that take the same steps. -/
def sameAs (a b : InputFile) : Bool := a.file.sameAs b.file && a.primary == b.primary

/-- The JSON form of an input, if its path is well-formed text. -/
def document? (i : InputFile) : Option Document :=
  i.file.text?.map fun file => .object [("file", .text file), ("primary", .flag i.primary)]

/-- How an input is written in JSON. Its file may not be left out. -/
def shape : Shape InputFile where
  title := "struct InputFile"
  blank := ⟨⟨[]⟩, false⟩
  fields :=
    [⟨"file", true, (Reader.text "path string").map fun s i => { i with file := .ofText s }⟩,
      ⟨"primary", false, Reader.flag.map fun b i => { i with primary := b }⟩]

end InputFile

/-- The input files of an invocation, in order. -/
abbrev Inputs := List InputFile

namespace Inputs

/-- The primary inputs, in order. -/
def primaries (inputs : Inputs) : Inputs := inputs.filter (·.primary)

/-- How many inputs are primary. -/
def primaryCount (inputs : Inputs) : Nat := inputs.primaries.length

/-- The first primary input, and the inputs after it. -/
def nextPrimary? : Inputs → Option (InputFile × Inputs)
  | [] => none
  | i :: inputs => if i.primary then some (i, inputs) else nextPrimary? inputs

/-- Whether some input is primary. The search stops at the first one. -/
def hasPrimary (inputs : Inputs) : Bool := inputs.nextPrimary?.isSome

/-- The primary input, if there is exactly one. The search stops at the second one. -/
def uniquePrimary? (inputs : Inputs) : Option InputFile :=
  match inputs.nextPrimary? with
  | none => none
  | some (first, rest) =>
    match rest.nextPrimary? with
    | none => some first
    | some _ => none

/-- Whether two lists have the same inputs in the same order. -/
def sameAs : Inputs → Inputs → Bool
  | [], [] => true
  | a :: as, b :: bs => a.sameAs b && sameAs as bs
  | _, _ => false

/-- The JSON form of a list of inputs, if all their paths are well-formed text. -/
def document? (inputs : Inputs) : Option Document :=
  (inputs.mapM InputFile.document?).map .list

/-- Reads a list of inputs. -/
def reader : Reader Inputs := Reader.list (Reader.record InputFile.shape)

end Inputs

end FrontendPolicy
