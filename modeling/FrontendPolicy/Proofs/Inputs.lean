import Mathlib.Data.List.Basic
import FrontendPolicy.Inputs

/-!
# Primary inputs

`Inputs.nextPrimary?_eq_some_iff` says where a search for the next primary input stops, and
searching on from there finds them one by one (`Inputs.primaries_of_next`). An input is the only
primary one if the first search finds it and the second finds none. What the queries answer when
more inputs follow is settled by counting.
-/

namespace FrontendPolicy

namespace Inputs

variable {inputs rest : Inputs} {f : InputFile}

/-! ## The list of primary inputs -/

theorem primaries_append (before after : Inputs) :
    primaries (before ++ after) = before.primaries ++ after.primaries :=
  List.filter_append before after

theorem primaries_cons_of_primary {i : InputFile} (hi : i.primary = true) (inputs : Inputs) :
    primaries (i :: inputs) = i :: inputs.primaries := List.filter_cons_of_pos hi

theorem primaries_cons_of_not_primary {i : InputFile} (hi : i.primary = false) (inputs : Inputs) :
    primaries (i :: inputs) = inputs.primaries :=
  List.filter_cons_of_neg (by rw [hi]; exact Bool.false_ne_true)

theorem primaries_eq_nil_iff : inputs.primaries = [] ↔ ∀ i ∈ inputs, i.primary = false := by
  rw [primaries, List.filter_eq_nil_iff]
  simp only [Bool.not_eq_true]

/-- There is just one primary input if all before and after some place are not primary. -/
theorem primaries_eq_singleton_iff : inputs.primaries = [f] ↔
    ∃ before after, inputs = before ++ f :: after ∧ f.primary = true ∧
      (∀ i ∈ before, i.primary = false) ∧ ∀ i ∈ after, i.primary = false := by
  rw [primaries, List.filter_eq_cons_iff]
  constructor
  · rintro ⟨before, after, rfl, hbefore, hf, hafter⟩
    exact ⟨before, after, rfl, hf, fun i hi => Bool.eq_false_iff.mpr (hbefore i hi),
      primaries_eq_nil_iff.mp hafter⟩
  · rintro ⟨before, after, rfl, hf, hbefore, hafter⟩
    exact ⟨before, after, rfl, fun i hi => ne_true_of_eq_false (hbefore i hi), hf,
      primaries_eq_nil_iff.mpr hafter⟩

/-- Each primary input is listed as often as it occurs. -/
theorem count_primaries (inputs : Inputs) (f : InputFile) :
    inputs.primaries.count f = if f.primary = true then inputs.count f else 0 := by
  split
  · rename_i hf
    exact List.count_filter hf
  · rename_i hf
    exact List.count_eq_zero_of_not_mem fun hmem => hf (List.mem_filter.mp hmem).2

theorem primaryCount_append (inputs more : Inputs) :
    primaryCount (inputs ++ more) = inputs.primaryCount + more.primaryCount := by
  rw [primaryCount, primaries_append, List.length_append]
  rfl

theorem primaryCount_cons_of_primary {i : InputFile} (hi : i.primary = true) (inputs : Inputs) :
    primaryCount (i :: inputs) = inputs.primaryCount + 1 := by
  rw [primaryCount, primaries_cons_of_primary hi, List.length_cons]
  rfl

/-! ## Searching for the next one -/

/-- A search stops at the first primary input. -/
theorem nextPrimary?_eq_some_iff : inputs.nextPrimary? = some (f, rest) ↔
    ∃ before, inputs = before ++ f :: rest ∧ f.primary = true ∧
      ∀ i ∈ before, i.primary = false := by
  induction inputs with
  | nil => simp [nextPrimary?]
  | cons i inputs ih =>
    rw [nextPrimary?]
    cases hi : i.primary with
    | true =>
      constructor
      · intro h
        obtain ⟨rfl, rfl⟩ := Prod.mk.inj (Option.some.inj h)
        exact ⟨[], rfl, hi, fun _ hmem => absurd hmem List.not_mem_nil⟩
      · rintro ⟨before, heq, -, hbefore⟩
        -- Nothing that is not primary stands before the first input.
        cases before with
        | nil =>
          obtain ⟨rfl, rfl⟩ := List.cons.inj heq
          rfl
        | cons j before =>
          obtain ⟨rfl, -⟩ := List.cons.inj heq
          rw [hbefore i List.mem_cons_self] at hi
          exact absurd hi Bool.false_ne_true
    | false =>
      rw [if_neg Bool.false_ne_true, ih]
      constructor
      · rintro ⟨before, rfl, hf, hbefore⟩
        exact ⟨i :: before, rfl, hf, List.forall_mem_cons.mpr ⟨hi, hbefore⟩⟩
      · rintro ⟨before, heq, hf, hbefore⟩
        cases before with
        | nil =>
          obtain ⟨rfl, -⟩ := List.cons.inj heq
          rw [hf] at hi
          exact absurd hi.symm Bool.false_ne_true
        | cons j before =>
          obtain ⟨rfl, rfl⟩ := List.cons.inj heq
          exact ⟨before, rfl, hf, fun k hk => hbefore k (List.mem_cons_of_mem i hk)⟩

/-- The primary inputs are the one that a search finds and those that are found after it. -/
theorem primaries_of_next (h : inputs.nextPrimary? = some (f, rest)) :
    inputs.primaries = f :: rest.primaries := by
  obtain ⟨before, rfl, hf, hbefore⟩ := nextPrimary?_eq_some_iff.mp h
  rw [primaries_append, primaries_eq_nil_iff.mpr hbefore, primaries_cons_of_primary hf,
    List.nil_append]

/-- A search that finds nothing was made where nothing is primary. -/
theorem nextPrimary?_eq_none_iff : inputs.nextPrimary? = none ↔ inputs.primaries = [] := by
  induction inputs with
  | nil => exact iff_of_true rfl rfl
  | cons i inputs ih =>
    rw [nextPrimary?]
    cases hi : i.primary with
    | true =>
      rw [primaries_cons_of_primary hi]
      exact iff_of_false (Option.some_ne_none _) (List.cons_ne_nil _ _)
    | false => rw [if_neg Bool.false_ne_true, primaries_cons_of_not_primary hi, ih]

theorem hasPrimary_eq_false_iff : inputs.hasPrimary = false ↔ inputs.primaries = [] := by
  rw [hasPrimary, Option.isSome_eq_false_iff, Option.isNone_iff_eq_none, nextPrimary?_eq_none_iff]

theorem hasPrimary_eq_true_iff : inputs.hasPrimary = true ↔ inputs.primaryCount ≠ 0 := by
  rw [← Bool.not_eq_false, hasPrimary_eq_false_iff, primaryCount, ne_eq, List.length_eq_zero_iff]

/-! ## The only one -/

/-- There is an only primary input if the list of them has it and no more. -/
theorem uniquePrimary?_eq_some_iff {i : InputFile} :
    inputs.uniquePrimary? = some i ↔ inputs.primaries = [i] := by
  rw [uniquePrimary?]
  cases hfirst : inputs.nextPrimary? with
  | none =>
    rw [nextPrimary?_eq_none_iff.mp hfirst]
    exact iff_of_false (Option.some_ne_none i).symm (List.cons_ne_nil i []).symm
  | some found =>
    rw [primaries_of_next hfirst]
    -- Whether there is a second one decides.
    cases hsecond : found.2.nextPrimary? with
    | none =>
      rw [nextPrimary?_eq_none_iff.mp hsecond]
      simp only [hsecond, Option.some.injEq, List.cons.injEq, and_true]
    | some second =>
      rw [primaries_of_next hsecond]
      simp [hsecond]

theorem uniquePrimary?_eq_none_iff : inputs.uniquePrimary? = none ↔ inputs.primaryCount ≠ 1 := by
  rw [Option.eq_none_iff_forall_ne_some, primaryCount, ne_eq, List.length_eq_one_iff, not_exists]
  exact forall_congr' fun i => not_congr uniquePrimary?_eq_some_iff

/-- Where the primary inputs are the same, so is the only one. -/
theorem uniquePrimary?_congr {inputs' : Inputs} (h : inputs.primaries = inputs'.primaries) :
    inputs.uniquePrimary? = inputs'.uniquePrimary? := by
  apply Option.ext
  intro i
  rw [uniquePrimary?_eq_some_iff, uniquePrimary?_eq_some_iff, h]

/-- An only primary input is that of other inputs if both have the same primary ones. -/
theorem uniquePrimary?_eq_iff {inputs' : Inputs}
    (h : inputs.uniquePrimary? ≠ none ∨ inputs'.uniquePrimary? ≠ none) :
    inputs.uniquePrimary? = inputs'.uniquePrimary? ↔ inputs.primaries = inputs'.primaries := by
  refine ⟨fun heq => ?_, uniquePrimary?_congr⟩
  rw [heq, or_self] at h
  obtain ⟨i, hi⟩ := Option.ne_none_iff_exists'.mp h
  rw [uniquePrimary?_eq_some_iff.mp (heq.trans hi), uniquePrimary?_eq_some_iff.mp hi]

/-! ## More inputs -/

variable {more : Inputs}

/-- The only primary input of two lists together is that of one of them, and the other has none. -/
theorem uniquePrimary?_append_eq_some_iff : uniquePrimary? (inputs ++ more) = some f ↔
    inputs.uniquePrimary? = some f ∧ more.hasPrimary = false ∨
      inputs.hasPrimary = false ∧ more.uniquePrimary? = some f := by
  simp only [uniquePrimary?_eq_some_iff, hasPrimary_eq_false_iff, primaries_append]
  rw [List.append_eq_singleton_iff, or_comm]

/-- More inputs leave the only primary input as it is if none of them is primary, and only then, as
long as there is one at all. -/
theorem uniquePrimary?_append_eq_left_iff
    (h : inputs.uniquePrimary? ≠ none ∨ uniquePrimary? (inputs ++ more) ≠ none) :
    uniquePrimary? (inputs ++ more) = inputs.uniquePrimary? ↔ more.hasPrimary = false := by
  rw [uniquePrimary?_eq_iff h.symm, primaries_append, List.append_right_eq_self,
    hasPrimary_eq_false_iff]

/-- The same for the inputs that come first. -/
theorem uniquePrimary?_append_eq_right_iff
    (h : more.uniquePrimary? ≠ none ∨ uniquePrimary? (inputs ++ more) ≠ none) :
    uniquePrimary? (inputs ++ more) = more.uniquePrimary? ↔ inputs.hasPrimary = false := by
  rw [uniquePrimary?_eq_iff h.symm, primaries_append, List.append_left_eq_self,
    hasPrimary_eq_false_iff]

/-- Two primary inputs count twice even if they are equal, so neither is the only one. -/
theorem uniquePrimary?_of_two {before between after : Inputs} {g : InputFile}
    (hf : f.primary = true) (hg : g.primary = true)
    (h : inputs = before ++ f :: between ++ g :: after) :
    2 ≤ inputs.primaryCount ∧ inputs.uniquePrimary? = none := by
  have hcount : 2 ≤ inputs.primaryCount := by
    rw [h, primaryCount_append, primaryCount_append, primaryCount_cons_of_primary hf,
      primaryCount_cons_of_primary hg]
    omega
  exact ⟨hcount, uniquePrimary?_eq_none_iff.mpr (by omega)⟩

/-- The queries about primary inputs are exact. The primary inputs are listed in their order, each
as often as it occurs. There is an only one if a place in the list has a primary input and nothing
primary before or after it, which is when they count one. Two lists together have the only primary
input of one of them if the other has none. -/
theorem uniquePrimary_exact (inputs : Inputs) :
    -- The only one.
    (∀ f, inputs.uniquePrimary? = some f ↔ ∃ before after, inputs = before ++ f :: after ∧
      f.primary = true ∧ (∀ i ∈ before, i.primary = false) ∧ ∀ i ∈ after, i.primary = false) ∧
    (inputs.uniquePrimary?.isSome = true ↔ inputs.primaryCount = 1) ∧
    (inputs.hasPrimary = true ↔ inputs.primaryCount ≠ 0) ∧
    -- All of them, as they are found one after the other.
    (inputs.nextPrimary? = none ↔ inputs.primaries = []) ∧
    (∀ f rest, inputs.nextPrimary? = some (f, rest) → inputs.primaries = f :: rest.primaries) ∧
    inputs.primaries.Sublist inputs ∧
    (∀ f, inputs.primaries.count f = if f.primary = true then inputs.count f else 0) ∧
    inputs.primaryCount = inputs.countP (·.primary) ∧
    (∀ before f between g after, inputs = before ++ f :: between ++ g :: after →
      f.primary = true → g.primary = true →
      2 ≤ inputs.primaryCount ∧ inputs.uniquePrimary? = none) ∧
    -- More inputs.
    (∀ more : Inputs,
      primaryCount (inputs ++ more) = inputs.primaryCount + more.primaryCount ∧
      (∀ f, uniquePrimary? (inputs ++ more) = some f ↔
        inputs.uniquePrimary? = some f ∧ more.hasPrimary = false ∨
          inputs.hasPrimary = false ∧ more.uniquePrimary? = some f) ∧
      (inputs.uniquePrimary? ≠ none ∨ uniquePrimary? (inputs ++ more) ≠ none →
        (uniquePrimary? (inputs ++ more) = inputs.uniquePrimary? ↔ more.hasPrimary = false)) ∧
      (more.uniquePrimary? ≠ none ∨ uniquePrimary? (inputs ++ more) ≠ none →
        (uniquePrimary? (inputs ++ more) = more.uniquePrimary? ↔ inputs.hasPrimary = false))) := by
  refine ⟨fun f => ?_, ?_, hasPrimary_eq_true_iff, nextPrimary?_eq_none_iff,
    fun f rest => primaries_of_next, List.filter_sublist, inputs.count_primaries,
    List.countP_eq_length_filter.symm,
    fun before f between g after h hf hg => uniquePrimary?_of_two hf hg h,
    fun more => ⟨inputs.primaryCount_append more, fun f => uniquePrimary?_append_eq_some_iff,
      uniquePrimary?_append_eq_left_iff, uniquePrimary?_append_eq_right_iff⟩⟩
  · rw [uniquePrimary?_eq_some_iff, primaries_eq_singleton_iff]
  · rw [Option.isSome_iff_ne_none, ne_eq, uniquePrimary?_eq_none_iff, not_not]

/-- Inputs with a primary one between two that are not. -/
def mixedSample : Inputs :=
  [⟨.ofText "a", false⟩, ⟨.ofText "b", true⟩, ⟨.ofText "a", false⟩]

/-- The primary input of the sample is the only one, also with an input more that is not primary,
and no longer once it is there twice. -/
theorem uniquePrimary_exact_sample :
    mixedSample.uniquePrimary? = some ⟨.ofText "b", true⟩ ∧
    uniquePrimary? (mixedSample ++ [⟨.ofText "c", false⟩]) = mixedSample.uniquePrimary? ∧
    primaryCount (mixedSample ++ mixedSample) = 2 ∧
    uniquePrimary? (mixedSample ++ mixedSample) = none := by
  obtain ⟨honly, -, -, -, -, -, -, -, -, hmore⟩ := uniquePrimary_exact mixedSample
  obtain ⟨-, -, -, -, -, -, -, -, htwo, -⟩ := uniquePrimary_exact (mixedSample ++ mixedSample)
  have hunique : mixedSample.uniquePrimary? = some ⟨.ofText "b", true⟩ :=
    (honly _).mpr ⟨[⟨.ofText "a", false⟩], [⟨.ofText "a", false⟩], rfl, rfl, by decide, by decide⟩
  have hsame := ((hmore [⟨.ofText "c", false⟩]).2.2.1
    (Or.inl (hunique ▸ Option.some_ne_none _))).mpr rfl
  exact ⟨hunique, hsame, (hmore mixedSample).1,
    (htwo [⟨.ofText "a", false⟩] ⟨.ofText "b", true⟩ [⟨.ofText "a", false⟩, ⟨.ofText "a", false⟩]
      ⟨.ofText "b", true⟩ [⟨.ofText "a", false⟩] (by simp [mixedSample]) rfl rfl).2⟩

end Inputs

end FrontendPolicy
