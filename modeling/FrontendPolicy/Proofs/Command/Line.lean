import FrontendPolicy.Proofs.Command.Take

/-!
# Command lines and their grammar

Taking the arguments one by one gives a command just where the grammar does. In one direction, a
line of the grammar is followed to its end. In the other, nothing that stops before the end of a
line gives a command (`Continues`), so that a command comes of lines only that were taken whole.
-/

namespace FrontendPolicy

variable {v : Verb} {fs : List Flag} {ps : List Argument} {c : Command}

/-! ## Positional arguments -/

/-- An argument names an action if it is the bytes of a text that does. -/
theorem actionArgument_eq_ok_iff {arg : Argument} {a : Action} :
    actionArgument arg = .ok a ↔ ∃ raw, arg = wordBytes raw ∧ Action.ofText? raw = some a := by
  unfold actionArgument
  constructor
  · intro h
    split at h
    · simp at h
    · rename_i cs hcs
      split at h
      · simp at h
      · rename_i b hb
        refine ⟨String.ofList cs, ?_, ?_⟩
        · rw [wordBytes, String.toList_ofList, Text.encode_of_decode? hcs]
        · rw [hb, Except.ok.inj h]
  · rintro ⟨raw, rfl, ha⟩
    rw [wordBytes, Text.decode?_encode]
    simp only [String.ofList_toList, ha]

theorem pathArgument_eq_ok_iff {arg : Argument} {path : Path} :
    pathArgument arg = .ok path ↔ arg ≠ [] ∧ path = ⟨arg⟩ := by
  cases arg with
  | nil => simp [pathArgument]
  | cons b arg =>
    rw [pathArgument, if_neg (by simp), Except.ok.injEq]
    exact ⟨fun h => ⟨by simp, h.symm⟩, fun h => h.2.symm⟩

/-! ## Commands -/

theorem eq_nil_of_room {arg : Argument} (h : (arg :: ps).length ≤ v.room) : ps = [] := by
  have hroom : v.room ≤ 1 := by cases v <;> decide
  rw [List.length_cons] at h
  exact List.eq_nil_of_length_eq_zero (by omega)

/-- What has been said amounts to a command just if that is what the arguments ask for. -/
theorem command_eq_ok_iff (hroom : ps.length ≤ v.room) :
    v.command (.of fs ps) = .ok c ↔ v.Asks fs ps c := by
  cases v with
  | table =>
    have hps : ps = [] := List.eq_nil_of_length_eq_zero (Nat.le_zero.mp hroom)
    show Except.ok (Command.table (fs.contains .json)) = .ok c ↔ _ ∧ _
    rw [Except.ok.injEq]
    exact ⟨fun h => ⟨hps, h.symm⟩, fun h => h.2.symm⟩
  | describe =>
    cases ps with
    | nil => simp [Verb.command, Verb.Asks, Progress.of]
    | cons arg ps =>
      obtain rfl : ps = [] := eq_nil_of_room hroom
      show (actionArgument arg).map (Command.describe · (fs.contains .json)) = .ok c ↔ _
      constructor
      · intro h
        cases ha : actionArgument arg with
        | error e => simp [ha, Except.map] at h
        | ok a =>
          obtain ⟨raw, rfl, hraw⟩ := actionArgument_eq_ok_iff.mp ha
          rw [ha] at h
          exact ⟨raw, a, rfl, hraw, (Except.ok.inj h).symm⟩
      · rintro ⟨raw, a, hraw, ha, rfl⟩
        rw [actionArgument_eq_ok_iff.mpr ⟨raw, List.head_eq_of_cons_eq hraw, ha⟩]
        rfl
  | check =>
    cases ps with
    | nil => simp [Verb.command, Verb.Asks, Progress.of]
    | cons arg ps =>
      obtain rfl : ps = [] := eq_nil_of_room hroom
      show (pathArgument arg).map (Command.check · (fs.contains .json) (fs.contains .strict)) =
        .ok c ↔ _
      constructor
      · intro h
        cases ha : pathArgument arg with
        | error e => simp [ha, Except.map] at h
        | ok path =>
          obtain ⟨hne, rfl⟩ := pathArgument_eq_ok_iff.mp ha
          rw [ha] at h
          exact ⟨arg, rfl, hne, (Except.ok.inj h).symm⟩
      · rintro ⟨arg', harg, hne, rfl⟩
        cases List.head_eq_of_cons_eq harg
        rw [pathArgument_eq_ok_iff.mpr ⟨hne, rfl⟩]
        rfl

/-- Only as many positional arguments are asked for as there is room for. -/
theorem length_le_room_of_asks (h : v.Asks fs ps c) : ps.length ≤ v.room := by
  cases v with
  | table =>
    obtain ⟨rfl, -⟩ := h
    exact Nat.le_refl 0
  | describe =>
    obtain ⟨raw, a, rfl, -, -⟩ := h
    exact Nat.le_refl 1
  | check =>
    obtain ⟨arg, rfl, -, -⟩ := h
    exact Nat.le_refl 1

/-- Nothing is wrong with the positional argument of a command, so it is not what stops a flag
after it. -/
theorem argumentError_of_asks {gs : List Flag} (h : v.Asks fs ps c) :
    v.argumentError (.of gs ps) = none := by
  cases v with
  | table => rfl
  | describe =>
    obtain ⟨raw, a, rfl, ha, -⟩ := h
    have : actionArgument (wordBytes raw) = .ok a := actionArgument_eq_ok_iff.mpr ⟨raw, rfl, ha⟩
    simp [Verb.argumentError, Progress.of, this]
  | check =>
    obtain ⟨arg, rfl, hne, -⟩ := h
    have : pathArgument arg = .ok ⟨arg⟩ := pathArgument_eq_ok_iff.mpr ⟨hne, rfl⟩
    simp [Verb.argumentError, Progress.of, this]

/-! ## Refusals -/

/-- Taking what is no command to run never stops with one. -/
def Continues (r : Except Invocation Progress) : Prop := ∀ c, r ≠ .error (.run c)

theorem continues_ok (p : Progress) : Continues (.ok p) := by
  intro c h
  cases h

theorem continues_reject (e : UsageError) : Continues (.error (.reject e)) := by
  intro c h
  cases h

/-- What stops the first step stops both. -/
theorem Continues.next {r : Except Invocation Progress}
    {k : Progress → Except Invocation Progress} : Continues r → (∀ p, Continues (k p)) →
      Continues (match r with
        | .error stop => .error stop
        | .ok p => k p) := by
  intro hr hk
  cases r with
  | error stop => exact hr
  | ok p => exact hk p

theorem continues_takeHelp (p : Progress) : Continues (.error (v.takeHelp p)) := by
  intro c h
  unfold Verb.takeHelp at h
  split at h <;> cases h

theorem continues_takeFlag (f : Flag) (p : Progress) : Continues (v.takeFlag f p) := by
  unfold Verb.takeFlag
  split
  · exact continues_reject _
  · split
    · exact continues_reject _
    · exact continues_ok _

theorem continues_takeLetters (letters : Argument) (p : Progress) :
    Continues (v.takeLetters p letters) := by
  induction letters generalizing p with
  | nil => exact continues_ok p
  | cons letter rest ih =>
    rw [Verb.takeLetters]
    split
    · exact continues_takeHelp p
    · split
      · exact continues_reject _
      · exact (continues_takeFlag _ p).next ih

theorem continues_takeLong (name : Argument) (hasValue : Bool) (p : Progress) :
    Continues (v.takeLong name hasValue p) := by
  unfold Verb.takeLong
  split
  · split
    · exact continues_reject _
    · exact continues_takeHelp p
  · split
    · exact continues_reject _
    · split
      · exact continues_reject _
      · exact continues_takeFlag _ p

theorem continues_takePositional (arg : Argument) (p : Progress) :
    Continues (v.takePositional arg p) := by
  unfold Verb.takePositional
  split
  · exact continues_ok _
  · exact continues_reject _

theorem continues_takePositionals (args : List Argument) (p : Progress) :
    Continues (v.takePositionals p args) := by
  induction args generalizing p with
  | nil => exact continues_ok p
  | cons arg rest ih =>
    rw [Verb.takePositionals]
    exact (continues_takePositional arg p).next ih

theorem continues_take (args : List Argument) (p : Progress) : Continues (v.take p args) := by
  induction args generalizing p with
  | nil => exact continues_ok p
  | cons arg rest ih =>
    rw [Verb.take]
    cases Token.ofArgument arg with
    | separator => exact continues_takePositionals rest p
    | long name hasValue =>
      have hlong := continues_takeLong (v := v) name hasValue p
      simp only
      cases h : v.takeLong name hasValue p with
      | error stop => rwa [h] at hlong
      | ok p' => exact ih p'
    | short letters =>
      have hletters := continues_takeLetters (v := v) letters p
      simp only
      cases h : v.takeLetters p letters with
      | error stop => rwa [h] at hletters
      | ok p' => exact ih p'
    | positional value =>
      have hvalue := continues_takePositional (v := v) value p
      simp only
      cases h : v.takePositional value p with
      | error stop => rwa [h] at hvalue
      | ok p' => exact ih p'

/-! ## Lines -/

/-- The lines of a command that give a command to run. -/
theorem invocation_eq_run_iff {args : List Argument} :
    v.invocation args = .run c ↔ v.Accepts args c := by
  have hstart : Progress.start = .of [] [] := rfl
  rw [Verb.invocation, hstart]
  constructor
  · intro h
    cases htake : v.take (.of [] []) args with
    | error stop =>
      -- The arguments were not all taken, and what stops that is no command to run.
      rw [htake] at h
      exact absurd (htake.trans (congrArg Except.error h)) (continues_take args _ c)
    | ok p =>
      obtain ⟨flags, hflags, hnodup, hroom, rfl⟩ :=
        take_eq_ok List.nodup_nil (Nat.zero_le _) htake
      simp only [List.nil_append] at hnodup hroom htake
      simp only [htake] at h
      split at h
      · cases h
      · rename_i command hcommand
        cases h
        exact ⟨flags, hflags, hnodup, (command_eq_ok_iff hroom).mp hcommand⟩
  · rintro ⟨flags, hflags, hnodup, hasks⟩
    have hroom := length_le_room_of_asks hasks
    have htake : v.take (.of [] []) args = .ok (.of flags (positionalsOf args)) :=
      @take_of_flags v args [] flags [] hflags hnodup hroom (argumentError_of_asks hasks)
    rw [htake]
    simp only
    rw [(command_eq_ok_iff hroom).mpr hasks]

/-! ## Whole lines -/

theorem helpInvocation_ne_run (args : List Argument) : helpInvocation args ≠ .run c := by
  unfold helpInvocation
  split
  · simp
  · split
    · simp
    · split <;> simp
  · simp

theorem optionInvocation_ne_run (arg : Argument) (rest : List Argument) :
    optionInvocation arg rest ≠ .run c := by
  unfold optionInvocation
  split
  · simp
  · split <;> simp
  · split
    · split <;> simp
    · split
      · split <;> simp
      · simp
  · split
    · simp
    · split <;> simp

/-- The names of a command lead to it, and none of them asks for help. -/
theorem ofArgument?_word (v : Verb) : ∀ word ∈ v.words,
    Verb.ofArgument? (wordBytes word) = some v ∧ wordBytes word ≠ helpWord := by
  cases v <;> decide

/-- A command is found by its names only. -/
theorem verb_ofArgument?_eq_some_iff {arg : Argument} :
    Verb.ofArgument? arg = some v ↔ ∃ word ∈ v.words, arg = wordBytes word := by
  unfold Verb.ofArgument?
  constructor
  · intro h
    split at h
    · rename_i hd
      cases h
      simpa [Verb.words] using hd
    · split at h
      · rename_i ht
        cases h
        simpa [Verb.words] using ht
      · split at h
        · rename_i hc
          cases h
          simpa [Verb.words] using hc
        · cases h
  · rintro ⟨word, hword, rfl⟩
    exact (ofArgument?_word v word hword).1

theorem ofArgs_word {word : String} (h : word ∈ v.words) (rest : List Argument) :
    Invocation.ofArgs (wordBytes word :: rest) = v.invocation rest := by
  obtain ⟨hverb, hhelp⟩ := ofArgument?_word v word h
  rw [Invocation.ofArgs, if_neg hhelp, hverb]

/-- A line gives a command to run just if it starts with a name of one and goes on with arguments
that make it up, whichever of its names it is. -/
theorem Invocation.ofArgs_eq_run_iff :
    (∀ args c, ofArgs args = .run c ↔
      ∃ v word rest, word ∈ Verb.words v ∧ args = wordBytes word :: rest ∧ v.Accepts rest c) ∧
    ∀ v, ∀ word ∈ Verb.words v, ∀ other ∈ Verb.words v, ∀ rest,
      ofArgs (wordBytes word :: rest) = ofArgs (wordBytes other :: rest) := by
  refine ⟨fun args c => ⟨fun h => ?_, ?_⟩, fun v word hword other hother rest => ?_⟩
  · cases args with
    | nil => cases h
    | cons arg rest =>
      rw [ofArgs] at h
      split at h
      · exact absurd h (helpInvocation_ne_run rest)
      · split at h
        · rename_i v hv
          obtain ⟨word, hword, rfl⟩ := verb_ofArgument?_eq_some_iff.mp hv
          exact ⟨v, word, rest, hword, rfl, invocation_eq_run_iff.mp h⟩
        · exact absurd h (optionInvocation_ne_run arg rest)
  · rintro ⟨v, word, rest, hword, rfl, h⟩
    rw [ofArgs_word hword]
    exact invocation_eq_run_iff.mpr h
  · rw [ofArgs_word hword, ofArgs_word hother]

/-- Joined flags, the short form of a name, and a path that looks like a flag. -/
theorem Invocation.ofArgs_check_after_separator :
    ofArgs [wordBytes "c", wordBytes "-sj", wordBytes "--", wordBytes "-x"] =
      .run (.check ⟨wordBytes "-x"⟩ true true) := by
  refine (ofArgs_eq_run_iff.1 _ _).mpr ⟨.check, "c", _, by decide, rfl, [.strict, .json], ?_⟩
  refine ⟨⟨[[.strict, .json]], ?_, rfl⟩, by decide, wordBytes "-x", rfl, by decide, rfl⟩
  exact .cons (@Verb.Mentions.short .check [.strict, .json] (by decide) (by decide)) .nil

end FrontendPolicy
