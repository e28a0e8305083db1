import FrontendPolicy.Proofs.Command.Grammar
import FrontendPolicy.Proofs.Text.Utf8
import Mathlib.Data.List.TakeWhile

/-!
# Taking arguments one by one

The invariant is `Progress.of`: all that the arguments taken so far leave behind is their flags and
their positional arguments, each in order. Every kind of argument adds to one of the two or is
refused, and `take_eq_ok` and `take_of_flags` are the run lemmas, one for each direction.
-/

namespace FrontendPolicy

/-- The progress after some flags and positional arguments. -/
def Progress.of (flags : List Flag) (positionals : List Argument) : Progress :=
  ⟨flags.contains .json, flags.contains .strict, positionals.head?⟩

/-- How many positional arguments a command takes. -/
def Verb.room (v : Verb) : Nat := if v.takesArgument then 1 else 0

variable {v : Verb} {p : Progress} {fs gs : List Flag} {ps qs : List Argument}

/-! ## Flags -/

theorem hasFlag_of (f : Flag) : (Progress.of fs ps).hasFlag f = fs.contains f := by
  cases f <;> rfl

theorem setFlag_of (f : Flag) : (Progress.of fs ps).setFlag f = .of (fs ++ [f]) ps := by
  cases f <;> simp [Progress.of, Progress.setFlag]

/-- What is wrong with the positional argument does not depend on the flags, and nothing is wrong
before it is given. -/
theorem argumentError_of_append (h : v.argumentError (.of gs (ps ++ qs)) = none) :
    v.argumentError (.of fs ps) = none := by
  cases ps with
  | nil => cases v <;> rfl
  | cons arg ps => exact h

theorem takeFlag_eq_ok {f : Flag} (h : v.takeFlag f (.of fs ps) = .ok p) :
    f ∉ fs ∧ p = .of (fs ++ [f]) ps := by
  unfold Verb.takeFlag at h
  split at h
  · simp at h
  · rw [hasFlag_of, setFlag_of] at h
    split at h
    · simp at h
    · rename_i hf
      rw [List.contains_iff_mem] at hf
      exact ⟨hf, (Except.ok.inj h).symm⟩

theorem takeFlag_of {f : Flag} (he : v.argumentError (.of fs ps) = none) (hf : f ∉ fs) :
    v.takeFlag f (.of fs ps) = .ok (.of (fs ++ [f]) ps) := by
  simp only [Verb.takeFlag, he, hasFlag_of, setFlag_of]
  rw [if_neg (by rwa [List.contains_iff_mem])]

theorem flagOfLetter?_eq_some {letter : UInt8} {f : Flag} (h : v.flagOfLetter? letter = some f) :
    v.hasFlag f = true ∧ f.letter = letter := by
  have := List.find?_some h
  simpa using this

theorem flagOfLetter?_letter {f : Flag} (h : v.hasFlag f = true) :
    v.flagOfLetter? f.letter = some f := by
  cases v <;> cases f <;> first | rfl | exact absurd h (by decide)

theorem flagOfName?_eq_some {name : Argument} {f : Flag} (h : v.flagOfName? name = some f) :
    v.hasFlag f = true ∧ wordBytes f.name = name := by
  have := List.find?_some h
  simpa using this

theorem flagOfName?_name {f : Flag} (h : v.hasFlag f = true) :
    v.flagOfName? (wordBytes f.name) = some f := by
  cases v <;> cases f <;> first | decide | exact absurd h (by decide)

theorem nodup_append_singleton {f : Flag} (h : fs.Nodup) (hf : f ∉ fs) : (fs ++ [f]).Nodup := by
  rw [List.nodup_append]
  refine ⟨h, by simp, fun g hg g' hg' => ?_⟩
  rw [List.mem_singleton.mp hg']
  rintro rfl
  exact hf hg

/-! ## Options -/

/-- Joined letters that are taken are those of flags that were not given before. -/
theorem takeLetters_eq_ok {letters : Argument} : ∀ {fs : List Flag}, fs.Nodup →
    v.takeLetters (.of fs ps) letters = .ok p →
      ∃ gs, letters = gs.map Flag.letter ∧ (∀ g ∈ gs, v.hasFlag g = true) ∧ (fs ++ gs).Nodup ∧
        p = .of (fs ++ gs) ps := by
  -- Each letter moves its flag to those that were given, which stay without repetition.
  induction letters with
  | nil =>
    intro fs hfs h
    exact ⟨[], rfl, by simp, by simpa using hfs, by simpa using (Except.ok.inj h).symm⟩
  | cons letter rest ih =>
    intro fs hfs h
    rw [Verb.takeLetters] at h
    split at h
    · simp at h
    · split at h
      · simp at h
      · rename_i f hf
        split at h
        · simp at h
        · rename_i p' hflag
          obtain ⟨hmem, rfl⟩ := takeFlag_eq_ok hflag
          obtain ⟨hhas, rfl⟩ := flagOfLetter?_eq_some hf
          obtain ⟨gs, rfl, hgs, hnodup, rfl⟩ := ih (nodup_append_singleton hfs hmem) h
          rw [List.append_assoc, List.singleton_append] at hnodup
          refine ⟨f :: gs, rfl, ?_, hnodup, by rw [List.append_assoc, List.singleton_append]⟩
          intro g hg
          rcases List.mem_cons.mp hg with rfl | hg
          · exact hhas
          · exact hgs g hg

theorem takeLetters_of (he : v.argumentError (.of fs ps) = none)
    (hgs : ∀ g ∈ gs, v.hasFlag g = true) (hnodup : (fs ++ gs).Nodup) :
    v.takeLetters (.of fs ps) (gs.map Flag.letter) = .ok (.of (fs ++ gs) ps) := by
  induction gs generalizing fs with
  | nil => simp [Verb.takeLetters]
  | cons g gs ih =>
    have hmem : g ∉ fs := by
      intro hg
      exact (List.nodup_append.mp hnodup).2.2 g hg g List.mem_cons_self rfl
    -- The letter for help is taken first, but no flag has it.
    have hhelp : ¬g.letter = helpLetter := by cases g <;> decide
    rw [List.map_cons, Verb.takeLetters, if_neg hhelp,
      flagOfLetter?_letter (hgs g List.mem_cons_self)]
    simp only [takeFlag_of he hmem]
    rw [← List.singleton_append, ← List.append_assoc] at hnodup
    have he' : v.argumentError (.of (fs ++ [g]) ps) = none := he
    rw [ih he' (fun f hf => hgs f (List.mem_cons_of_mem g hf)) hnodup, List.append_assoc,
      List.singleton_append]

/-- A long option that is taken names a flag that was not given before. -/
theorem takeLong_eq_ok {name : Argument} {hasValue : Bool}
    (h : v.takeLong name hasValue (.of fs ps) = .ok p) :
    hasValue = false ∧ ∃ f, v.hasFlag f = true ∧ wordBytes f.name = name ∧ f ∉ fs ∧
      p = .of (fs ++ [f]) ps := by
  unfold Verb.takeLong at h
  split at h
  · split at h <;> simp at h
  · split at h
    · simp at h
    · rename_i f hf
      obtain ⟨hhas, hname⟩ := flagOfName?_eq_some hf
      split at h
      · simp at h
      · rename_i hvalue
        obtain ⟨hmem, hp⟩ := takeFlag_eq_ok h
        exact ⟨by simpa using hvalue, f, hhas, hname, hmem, hp⟩

theorem takeLong_of {f : Flag} (he : v.argumentError (.of fs ps) = none) (hf : f ∉ fs)
    (h : v.hasFlag f = true) :
    v.takeLong (wordBytes f.name) false (.of fs ps) = .ok (.of (fs ++ [f]) ps) := by
  have hhelp : ¬wordBytes f.name = wordBytes "help" := by cases f <;> decide
  rw [Verb.takeLong, if_neg hhelp, flagOfName?_name h]
  exact takeFlag_of he hf

/-- Takes an option, whichever its form. -/
def Verb.takeOption (v : Verb) (arg : Argument) (p : Progress) : Except Invocation Progress :=
  match Token.ofArgument arg with
  | .long name hasValue => v.takeLong name hasValue p
  | .short letters => v.takeLetters p letters
  | _ => .ok p

theorem token_long {name : Argument} (h : name ≠ []) :
    Token.ofArgument (hyphen :: hyphen :: name) =
      .long (name.takeWhile (· ≠ equalsSign)) (name.contains equalsSign) := by
  cases name with
  | nil => exact absurd rfl h
  | cons => simp [Token.ofArgument]

theorem token_short {letter : UInt8} (h : letter ≠ hyphen) (letters : Argument) :
    Token.ofArgument (hyphen :: letter :: letters) = .short (letter :: letters) := by
  simp [Token.ofArgument, h]

/-- The two forms of an option. -/
theorem isOption_cases {arg : Argument} (hne : arg ≠ separator) (ho : isOption arg = true) :
    (∃ name, name ≠ [] ∧ arg = hyphen :: hyphen :: name) ∨
      ∃ letter letters, letter ≠ hyphen ∧ arg = hyphen :: letter :: letters := by
  match arg with
  | [] => exact absurd ho (by decide)
  | [a] => simp [isOption] at ho
  | a :: b :: rest =>
    have ha : a = hyphen := by
      simp only [isOption, List.head?_cons, Bool.and_eq_true, decide_eq_true_eq] at ho
      simpa using ho.1
    subst ha
    by_cases hb : b = hyphen
    · subst hb
      exact Or.inl ⟨rest, fun hr => hne (by rw [hr]; rfl), rfl⟩
    · exact Or.inr ⟨b, rest, hb, rfl⟩

theorem token_of_not_isOption {arg : Argument} (ho : isOption arg = false) :
    Token.ofArgument arg = .positional arg := by
  match arg with
  | [] => rfl
  | [a] => rfl
  | a :: b :: rest =>
    have ha : a ≠ hyphen := by
      rintro rfl
      simp [isOption] at ho
    simp [Token.ofArgument, ha]

theorem takeWhile_of_not_contains {name : Argument} (h : name.contains equalsSign = false) :
    name.takeWhile (· ≠ equalsSign) = name := by
  rw [List.takeWhile_eq_self_iff]
  intro b hb
  simp only [decide_eq_true_eq]
  rintro rfl
  rw [← Bool.not_eq_true, List.contains_iff_mem] at h
  exact h hb

/-- An option that is taken mentions flags that were not given before. -/
theorem takeOption_eq_ok {arg : Argument} (hne : arg ≠ separator) (ho : isOption arg = true)
    (hfs : fs.Nodup) (h : v.takeOption arg (.of fs ps) = .ok p) :
    ∃ gs, v.Mentions arg gs ∧ (fs ++ gs).Nodup ∧ p = .of (fs ++ gs) ps := by
  unfold Verb.takeOption at h
  rcases isOption_cases hne ho with ⟨name, hname, rfl⟩ | ⟨letter, letters, hl, rfl⟩
  · rw [token_long hname] at h
    obtain ⟨hvalue, f, hhas, hf, hmem, hp⟩ := takeLong_eq_ok h
    rw [takeWhile_of_not_contains hvalue] at hf
    rw [← hf]
    exact ⟨[f], .long hhas, nodup_append_singleton hfs hmem, hp⟩
  · rw [token_short hl] at h
    obtain ⟨gs, hletters, hgs, hnodup, hp⟩ := takeLetters_eq_ok hfs h
    rw [hletters]
    refine ⟨gs, .short ?_ hgs, hnodup, hp⟩
    rintro rfl
    simp at hletters

/-- An option is taken if it mentions flags that were not given before. -/
theorem takeOption_of {arg : Argument} (he : v.argumentError (.of fs ps) = none)
    (hm : v.Mentions arg gs) (hnodup : (fs ++ gs).Nodup) :
    v.takeOption arg (.of fs ps) = .ok (.of (fs ++ gs) ps) := by
  unfold Verb.takeOption
  cases hm with
  | @long f h =>
    have hmem : f ∉ fs := by
      intro hf
      exact (List.nodup_append.mp hnodup).2.2 f hf f List.mem_cons_self rfl
    have hname : wordBytes f.name ≠ [] ∧ (wordBytes f.name).contains equalsSign = false := by
      cases f <;> decide
    rw [token_long hname.1]
    simp only [takeWhile_of_not_contains hname.2, hname.2]
    exact takeLong_of he hmem h
  | short hne h =>
    cases gs with
    | nil => exact absurd rfl hne
    | cons g gs =>
      have hg : g.letter ≠ hyphen := by cases g <;> decide
      rw [List.map_cons, token_short hg]
      exact takeLetters_of he h hnodup

/-! ## Positional arguments -/

theorem takePositional_eq_ok_iff {arg : Argument} :
    v.takePositional arg (.of fs ps) = .ok p ↔
      ps.length < v.room ∧ p = .of fs (ps ++ [arg]) := by
  unfold Verb.takePositional Verb.room
  cases hv : v.takesArgument with
  | false => simp
  | true =>
    cases ps with
    | nil =>
      simp only [Progress.of, List.head?_nil, Option.isNone_none, Bool.and_self, if_true,
        Except.ok.injEq, List.length_nil, Nat.zero_lt_one, true_and, List.nil_append,
        List.head?_cons]
      exact eq_comm
    | cons a ps => simp [Progress.of]

theorem takePositionals_eq_ok_iff : ∀ {ps : List Argument}, ps.length ≤ v.room →
    (v.takePositionals (.of fs ps) qs = .ok p ↔
      (ps ++ qs).length ≤ v.room ∧ p = .of fs (ps ++ qs)) := by
  induction qs with
  | nil =>
    intro ps hps
    rw [Verb.takePositionals, List.append_nil, Except.ok.injEq]
    exact ⟨fun h => ⟨hps, h.symm⟩, fun h => h.2.symm⟩
  | cons q qs ih =>
    intro ps hps
    have hcons : ps ++ q :: qs = ps ++ [q] ++ qs := by simp
    rw [Verb.takePositionals, hcons]
    constructor
    · intro h
      split at h
      · simp at h
      · rename_i p' hp'
        obtain ⟨hroom, rfl⟩ := takePositional_eq_ok_iff.mp hp'
        exact (ih (by simpa using Nat.succ_le_of_lt hroom)).mp h
    · rintro ⟨hroom, hp⟩
      have hlt : ps.length < v.room := by
        simp only [List.length_append, List.length_singleton] at hroom
        omega
      rw [takePositional_eq_ok_iff.mpr ⟨hlt, rfl⟩]
      exact (ih (by simpa using Nat.succ_le_of_lt hlt)).mpr ⟨hroom, hp⟩

/-! ## Runs -/

theorem take_separator (args : List Argument) :
    v.take p (separator :: args) = v.takePositionals p args := by
  rw [Verb.take]
  rfl

theorem take_option_eq_ok_iff {arg : Argument} {args : List Argument} {q : Progress}
    (hne : arg ≠ separator) (ho : isOption arg = true) :
    v.take p (arg :: args) = .ok q ↔
      ∃ p', v.takeOption arg p = .ok p' ∧ v.take p' args = .ok q := by
  rw [Verb.take, Verb.takeOption]
  rcases isOption_cases hne ho with ⟨name, hname, rfl⟩ | ⟨letter, letters, hl, rfl⟩
  · rw [token_long hname]
    simp only
    cases v.takeLong _ _ p <;> simp
  · rw [token_short hl]
    simp only
    cases v.takeLetters p _ <;> simp

theorem take_positional_eq_ok_iff {arg : Argument} {args : List Argument} {q : Progress}
    (ho : isOption arg = false) :
    v.take p (arg :: args) = .ok q ↔
      ∃ p', v.takePositional arg p = .ok p' ∧ v.take p' args = .ok q := by
  rw [Verb.take, token_of_not_isOption ho]
  simp only
  cases v.takePositional arg p <;> simp

/-- The flags and positional arguments of a line that is taken. -/
theorem take_eq_ok {args : List Argument} : ∀ {fs : List Flag} {ps : List Argument}, fs.Nodup →
    ps.length ≤ v.room → v.take (.of fs ps) args = .ok p →
      ∃ gs, v.Flags args gs ∧ (fs ++ gs).Nodup ∧ (ps ++ positionalsOf args).length ≤ v.room ∧
        p = .of (fs ++ gs) (ps ++ positionalsOf args) := by
  induction args with
  | nil =>
    intro fs ps hfs hps h
    have hp : positionalsOf [] = [] := rfl
    rw [hp, List.append_nil]
    refine ⟨[], flags_nil.mpr rfl, ?_, hps, ?_⟩
    · rwa [List.append_nil]
    · rw [List.append_nil]
      exact (Except.ok.inj h).symm
  | cons arg args ih =>
    intro fs ps hfs hps h
    by_cases hne : arg = separator
    · -- After the separator there are no more flags.
      subst hne
      rw [take_separator, takePositionals_eq_ok_iff hps] at h
      rw [positionalsOf_separator]
      refine ⟨[], flags_separator.mpr rfl, ?_, h.1, ?_⟩
      · rwa [List.append_nil]
      · rw [List.append_nil, h.2]
    · cases ho : isOption arg with
      | true =>
        obtain ⟨p', hp', h⟩ := (take_option_eq_ok_iff hne ho).mp h
        obtain ⟨gs, hm, hnodup, rfl⟩ := takeOption_eq_ok hne ho hfs hp'
        obtain ⟨gs', hgs', hnodup', hroom, hp⟩ := ih hnodup hps h
        rw [positionalsOf_option hne ho]
        rw [List.append_assoc] at hnodup' hp
        exact ⟨gs ++ gs', (flags_option hne ho).mpr ⟨gs, gs', hm, hgs', rfl⟩, hnodup', hroom, hp⟩
      | false =>
        obtain ⟨p', hp', h⟩ := (take_positional_eq_ok_iff ho).mp h
        obtain ⟨hlt, rfl⟩ := takePositional_eq_ok_iff.mp hp'
        obtain ⟨gs, hgs, hnodup, hroom, hp⟩ :=
          ih hfs (by simpa using Nat.succ_le_of_lt hlt) h
        rw [positionalsOf_positional hne ho]
        rw [List.append_assoc] at hroom hp
        exact ⟨gs, (flags_positional hne ho).mpr hgs, hnodup, hroom, hp⟩

/-- A line is taken if no flag is mentioned twice, and if there is room for its positional
arguments and nothing wrong with them. -/
theorem take_of_flags {args : List Argument} : ∀ {fs gs : List Flag} {ps : List Argument},
    v.Flags args gs → (fs ++ gs).Nodup → (ps ++ positionalsOf args).length ≤ v.room →
      v.argumentError (.of [] (ps ++ positionalsOf args)) = none →
      v.take (.of fs ps) args = .ok (.of (fs ++ gs) (ps ++ positionalsOf args)) := by
  induction args with
  | nil =>
    intro fs gs ps hgs _ _ _
    have hp : positionalsOf [] = [] := rfl
    rw [hp, flags_nil.mp hgs, List.append_nil, List.append_nil]
    rfl
  | cons arg args ih =>
    intro fs gs ps hgs hnodup hroom he
    by_cases hne : arg = separator
    · subst hne
      rw [positionalsOf_separator] at hroom he ⊢
      have hps : ps.length ≤ v.room := by
        rw [List.length_append] at hroom
        omega
      rw [take_separator, flags_separator.mp hgs, List.append_nil]
      exact (takePositionals_eq_ok_iff hps).mpr ⟨hroom, rfl⟩
    · cases ho : isOption arg with
      | true =>
        rw [positionalsOf_option hne ho] at hroom he ⊢
        obtain ⟨gs, gs', hm, hgs', rfl⟩ := (flags_option hne ho).mp hgs
        rw [← List.append_assoc] at hnodup ⊢
        -- An argument before the option is looked at first, but nothing is wrong with it.
        have hfirst : (fs ++ gs).Nodup := (List.nodup_append.mp hnodup).1
        exact (take_option_eq_ok_iff hne ho).mpr
          ⟨_, takeOption_of (argumentError_of_append he) hm hfirst, ih hgs' hnodup hroom he⟩
      | false =>
        rw [positionalsOf_positional hne ho] at hroom he ⊢
        have hcons : ps ++ arg :: positionalsOf args = ps ++ [arg] ++ positionalsOf args := by simp
        rw [hcons] at hroom he ⊢
        have hlt : ps.length < v.room := by
          simp only [List.length_append, List.length_singleton] at hroom
          omega
        exact (take_positional_eq_ok_iff ho).mpr
          ⟨_, takePositional_eq_ok_iff.mpr ⟨hlt, rfl⟩,
            ih ((flags_positional hne ho).mp hgs) hnodup hroom he⟩

end FrontendPolicy
