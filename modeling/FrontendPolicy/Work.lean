import FrontendPolicy.Event

/-!
# Work

What is done step by step while a command runs. A `Script` tells and prints one thing after the
other and leaves open who listens; `Script.play` plays it to a `Listener`. `Work` is scripts that
may fail. It is put together from `Work.tell`, `Work.print`, `Work.ofExcept` and `Work.whenever`
only, so that a law for each of these is a law for all commands.
-/

namespace FrontendPolicy

/-! ## Scripts -/

/-- What is told and printed, one after the other, and the value that comes of it in the end. -/
inductive Script (α : Type) where
  | finish (a : α)
  | tell (e : Event) (rest : Unit → Script α)
  | print (s : String) (rest : Unit → Script α)

/-- What becomes of a state when an event is told and when a text is printed. -/
structure Listener (σ : Type) where
  told : σ → Event → σ
  printed : σ → String → σ

namespace Script

variable {α β σ : Type}

/-- Goes on with the value of a script. -/
def bind : Script α → (α → Script β) → Script β
  | .finish a, f => f a
  | .tell e rest, f => .tell e fun u => (rest u).bind f
  | .print s rest, f => .print s fun u => (rest u).bind f

instance : Monad Script where
  pure := .finish
  bind := Script.bind

/-- Plays a script to a listener, from a state. Gives the value of the script and the last state. -/
def play (l : Listener σ) : Script α → σ → α × σ
  | .finish a, s => (a, s)
  | .tell e rest, s => (rest ()).play l (l.told s e)
  | .print text rest, s => (rest ()).play l (l.printed s text)

end Script

/-- What was told and printed so far. -/
structure Transcript where
  events : List Event := []
  stdout : String := ""
deriving DecidableEq, Repr

/-- Takes everything down. -/
def Listener.transcript : Listener Transcript where
  told t e := { t with events := t.events ++ [e] }
  printed t s := { t with stdout := t.stdout ++ s }

/-! ## Work -/

/-- Steps that tell events, print and may fail. What was told and printed before a failure
stays. -/
abbrev Work (ε : Type) := ExceptT ε Script

namespace Work

variable {ε α : Type}

/-- Tells an event. -/
def tell (e : Event) : Work ε Unit := ExceptT.lift (.tell e .finish)

/-- Prints a text. -/
def print (s : String) : Work ε Unit := ExceptT.lift (.print s .finish)

/-- Goes on with a result, or fails where there is none. -/
def ofExcept (r : Except ε α) : Work ε α := ExceptT.mk (pure r)

/-- Does some work on a condition only. -/
def whenever (c : Bool) (w : Work ε Unit) : Work ε Unit := if c then w else pure ()

/-- The error that work ends with, if it fails. -/
def errorOf : Except ε α → Option ε
  | .ok _ => none
  | .error e => some e

/-- How the work ends, and what was told and printed by then. -/
def perform (w : Work ε α) : Except ε α × Transcript := w.run.play .transcript {}

end Work

end FrontendPolicy
