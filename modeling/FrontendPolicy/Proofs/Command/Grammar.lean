import FrontendPolicy.Command.Line
import Mathlib.Data.List.Forall2

/-!
# The grammar of command lines

Which arguments make up a command, told without taking them one by one. An option may stand anywhere
before the separator, and what it says does not depend on where it stands. So the grammar sorts the
arguments of a line into options and positional arguments first. `Verb.Flags` are the flags that the
options mention, and `Verb.Asks` is the command that flags and positional arguments amount to.
-/

namespace FrontendPolicy

/-! ## Kinds of arguments -/

/-- The argument after which all is positional. -/
def separator : Argument := [hyphen, hyphen]

/-- The arguments before the separator. -/
def beforeSeparator (args : List Argument) : List Argument := args.takeWhile (· ≠ separator)

/-- The arguments after the separator. -/
def afterSeparator (args : List Argument) : List Argument :=
  (args.dropWhile (· ≠ separator)).tail

/-- Whether an argument starts with a hyphen and is more than that. -/
def isOption (arg : Argument) : Bool := arg.head? = some hyphen && arg ≠ [hyphen]

/-- The options among the arguments. -/
def optionsOf (args : List Argument) : List Argument := (beforeSeparator args).filter isOption

/-- The positional arguments: what is no option, and all that follows the separator. -/
def positionalsOf (args : List Argument) : List Argument :=
  (beforeSeparator args).filter (!isOption ·) ++ afterSeparator args

/-! ## Flags -/

/-- The flags that an option of a command mentions: the one that it names, or those of its
letters. -/
inductive Verb.Mentions (v : Verb) : Argument → List Flag → Prop where
  | long {f : Flag} (h : v.hasFlag f = true) :
      v.Mentions (hyphen :: hyphen :: wordBytes f.name) [f]
  | short {fs : List Flag} (hne : fs ≠ []) (h : ∀ f ∈ fs, v.hasFlag f = true) :
      v.Mentions (hyphen :: fs.map Flag.letter) fs

/-- The flags that all options of a line mention, in order. -/
def Verb.Flags (v : Verb) (args : List Argument) (flags : List Flag) : Prop :=
  ∃ groups, List.Forall₂ v.Mentions (optionsOf args) groups ∧ flags = groups.flatten

/-! ## Commands -/

/-- The names of a command. -/
def Verb.words : Verb → List String
  | describe => ["describe", "d"]
  | table => ["table", "t"]
  | check => ["check", "c"]

/-- The command that flags and positional arguments amount to. -/
def Verb.Asks (v : Verb) (flags : List Flag) (positionals : List Argument) (c : Command) : Prop :=
  match v with
  | .table => positionals = [] ∧ c = .table (flags.contains .json)
  | .describe => ∃ raw a, positionals = [wordBytes raw] ∧ Action.ofText? raw = some a ∧
      c = .describe a (flags.contains .json)
  | .check => ∃ arg, positionals = [arg] ∧ arg ≠ [] ∧
      c = .check ⟨arg⟩ (flags.contains .json) (flags.contains .strict)

/-- The arguments that make up a command. No flag is mentioned twice. -/
def Verb.Accepts (v : Verb) (args : List Argument) (c : Command) : Prop :=
  ∃ flags, v.Flags args flags ∧ flags.Nodup ∧ v.Asks flags (positionalsOf args) c

/-! ## Lines argument by argument -/

section Cases

variable {v : Verb} {arg : Argument} {args : List Argument} {flags : List Flag}

theorem flags_nil : v.Flags [] flags ↔ flags = [] := by
  constructor
  · rintro ⟨groups, hg, rfl⟩
    cases hg
    rfl
  · rintro rfl
    exact ⟨[], .nil, rfl⟩

theorem flags_separator : v.Flags (separator :: args) flags ↔ flags = [] := by
  have hoptions : optionsOf (separator :: args) = optionsOf [] := by
    simp [optionsOf, beforeSeparator]
  rw [← flags_nil (v := v), Verb.Flags, Verb.Flags, hoptions]

theorem positionalsOf_separator : positionalsOf (separator :: args) = args := by
  simp [positionalsOf, beforeSeparator, afterSeparator]

theorem flags_option (hne : arg ≠ separator) (ho : isOption arg = true) :
    v.Flags (arg :: args) flags ↔
      ∃ fs rest, v.Mentions arg fs ∧ v.Flags args rest ∧ flags = fs ++ rest := by
  have hoptions : optionsOf (arg :: args) = arg :: optionsOf args := by
    simp [optionsOf, beforeSeparator, hne, ho]
  rw [Verb.Flags, hoptions]
  constructor
  · rintro ⟨groups, hg, rfl⟩
    cases hg with
    | cons hm hg => exact ⟨_, _, hm, ⟨_, hg, rfl⟩, rfl⟩
  · rintro ⟨fs, rest, hm, ⟨groups, hg, rfl⟩, rfl⟩
    exact ⟨fs :: groups, .cons hm hg, rfl⟩

theorem positionalsOf_option (hne : arg ≠ separator) (ho : isOption arg = true) :
    positionalsOf (arg :: args) = positionalsOf args := by
  simp [positionalsOf, beforeSeparator, afterSeparator, hne, ho]

theorem flags_positional (hne : arg ≠ separator) (ho : isOption arg = false) :
    v.Flags (arg :: args) flags ↔ v.Flags args flags := by
  have hoptions : optionsOf (arg :: args) = optionsOf args := by
    simp [optionsOf, beforeSeparator, hne, ho]
  rw [Verb.Flags, Verb.Flags, hoptions]

theorem positionalsOf_positional (hne : arg ≠ separator) (ho : isOption arg = false) :
    positionalsOf (arg :: args) = arg :: positionalsOf args := by
  simp [positionalsOf, beforeSeparator, afterSeparator, hne, ho]

end Cases

end FrontendPolicy
