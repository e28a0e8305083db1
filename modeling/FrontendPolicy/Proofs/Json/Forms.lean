import FrontendPolicy.Proofs.Json.Record
import Mathlib.Data.List.Basic

/-!
# The two forms of a record

The first fields of a record may be given as a list of their values, or as an object with a member
for each. `GivesFields` covers both forms, and `Interpretation.record?_of_givesFields` says that
they are the same record.

The list form has three laws of its own. It may not be too long
(`Interpretation.takeFields_of_longer`), each element bears on its own field
(`Interpretation.takeFields_set`), and fields that are left out stay as they were
(`Interpretation.takeFields_preserves`).
-/

namespace FrontendPolicy.Json

variable {α ρ : Type}

/-- The members that give values to the first of the named fields. -/
def membersOf (names : List String) (vs : List Value) : List (List Nat × Value) :=
  (names.zip vs).map fun p => (unitsOf p.1.toList, p.2)

/-- The values that give the first of the named fields: the list of what they are given, or an
object with a member for each, in any order. -/
inductive GivesFields (names : List String) (vs : List Value) : Value → Prop where
  | list : GivesFields names vs (.list vs)
  | object {ms : List (List Nat × Value)} (h : vs.length ≤ names.length)
      (hp : ms.Perm (membersOf names vs)) : GivesFields names vs (.object ms)

/-- Lists are the same if their elements are, one by one. -/
theorem list?_of_forall₂ {meaning : Value → Option α} {vs ws : List Value}
    (h : List.Forall₂ (fun v w => meaning v = meaning w) vs ws) :
    Value.list? meaning (.list vs) = Value.list? meaning (.list ws) := by
  show vs.mapM meaning = ws.mapM meaning
  induction h with
  | nil => rfl
  | cons h _ ih => rw [List.mapM_cons, List.mapM_cons, h, ih]

namespace Interpretation

variable {shape : Shape ρ} (M : Interpretation shape)

/-! ## Lists -/

/-- Where a list has ended, no field that is left may be required. -/
theorem takeFields_nil (fields : List (RecordField ρ)) (r : ρ) :
    M.takeFields r fields [] = if ∃ f ∈ fields, f.required then none else some r := by
  induction fields with
  | nil => simp [takeFields]
  | cons f fields ih =>
    rw [takeFields, ih]
    by_cases hf : f.required <;> simp [hf]

/-- A list may not have more elements than there are fields. -/
theorem takeFields_of_longer : ∀ {fields : List (RecordField ρ)} {vs : List Value} (r : ρ),
    fields.length < vs.length → M.takeFields r fields vs = none := by
  intro fields
  induction fields with
  | nil =>
    intro vs r h
    cases vs with
    | nil => exact absurd h (Nat.lt_irrefl 0)
    | cons => rfl
  | cons f fields ih =>
    intro vs r h
    cases vs with
    | nil => exact absurd h (Nat.not_lt_zero _)
    | cons v vs =>
      have htail : fields.length < vs.length := Nat.lt_of_succ_lt_succ h
      rw [takeFields]
      simp only [ih _ htail, Option.bind_fun_none]

/-- An element may stand for another that changes its field alike. -/
theorem takeFields_set {f : RecordField ρ} {v w : Value}
    (h : M.change f.name v = M.change f.name w) : ∀ {i : Nat} {fields : List (RecordField ρ)}
      {vs : List Value} (r : ρ), fields[i]? = some f → vs[i]? = some v →
        M.takeFields r fields (vs.set i w) = M.takeFields r fields vs := by
  intro i fields
  induction fields generalizing i with
  | nil =>
    intro vs r hf
    exact absurd hf (by simp)
  | cons g fields ih =>
    intro vs r hf hv
    cases vs with
    | nil => exact absurd hv (by simp)
    | cons x vs =>
      cases i with
      | zero =>
        simp only [List.getElem?_cons_zero, Option.some.injEq] at hf hv
        rw [List.set_cons_zero, takeFields, takeFields, hf, hv, h]
      | succ i =>
        rw [List.getElem?_cons_succ] at hf hv
        rw [List.set_cons_succ, takeFields, takeFields]
        congr 1
        funext s
        exact ih (s r) hf hv

/-- What the fields of a list preserve, the list preserves. -/
theorem takeFields_preserves {P : ρ → Prop} : ∀ {fields : List (RecordField ρ)} {vs : List Value}
    {r r' : ρ}, M.takeFields r fields vs = some r' →
      (∀ f ∈ fields.take vs.length, ∀ {v : Value} {s : ρ → ρ}, M.change f.name v = some s →
        ∀ r, P r → P (s r)) → P r → P r' := by
  intro fields
  induction fields with
  | nil =>
    intro vs r r' h _ hr
    cases vs with
    | nil => rwa [← Option.some.inj h]
    | cons => exact absurd h (by simp [takeFields])
  | cons f fields ih =>
    intro vs r r' h hs hr
    cases vs with
    | nil =>
      rw [takeFields_nil] at h
      split at h
      · exact absurd h (by simp)
      · rwa [← Option.some.inj h]
    | cons v vs =>
      rw [takeFields] at h
      obtain ⟨s, hchange, h⟩ := Option.bind_eq_some_iff.mp h
      rw [List.length_cons, List.take_succ_cons] at hs
      have hhead : P (s r) := hs f List.mem_cons_self hchange r hr
      exact ih h (fun g hg => hs g (List.mem_cons_of_mem f hg)) hhead

/-! ## Objects -/

/-- The fields that are left have other names than those before them. -/
theorem name_notMem_of_nodup {done fields : List (RecordField ρ)} {f : RecordField ρ}
    (hnodup : ((done ++ fields).map (·.name)).Nodup) (hf : f ∈ fields) :
    f.name ∉ (done.map (·.name)).reverse := by
  rw [List.map_append, List.nodup_append] at hnodup
  intro hseen
  exact hnodup.2.2 _ (List.mem_reverse.mp hseen) _ (List.mem_map_of_mem hf) rfl

/-- Where an object has ended, no field that is left may be required. -/
theorem takeMembers_nil {done fields : List (RecordField ρ)} (h : shape.fields = done ++ fields)
    (hnodup : (shape.fields.map (·.name)).Nodup) (r : ρ) :
    M.takeMembers (done.map (·.name)).reverse r [] = M.takeFields r fields [] := by
  rw [h] at hnodup
  have hmissing : (shape.missing? (done.map (·.name)).reverse).isNone ↔
      ¬∃ f ∈ fields, f.required := by
    rw [Option.isNone_iff_eq_none, Shape.missing?_eq_none_iff, h]
    constructor
    · rintro hall ⟨f, hf, hr⟩
      exact name_notMem_of_nodup hnodup hf (hall f (List.mem_append_right done hf) hr)
    · intro hnone f hf hr
      rcases List.mem_append.mp hf with hf | hf
      · exact List.mem_reverse.mpr (List.mem_map_of_mem hf)
      · exact absurd ⟨f, hf, hr⟩ hnone
  rw [takeMembers, takeFields_nil]
  by_cases hr : ∃ f ∈ fields, f.required
  · rw [if_pos hr, if_neg (fun hn => hmissing.mp hn hr)]
  · rw [if_neg hr, if_pos (hmissing.mpr hr)]

/-- The members for the fields that are left do what the list of their values does. -/
theorem takeMembers_membersOf (hnodup : (shape.fields.map (·.name)).Nodup) :
    ∀ (done : List (RecordField ρ)) {fields : List (RecordField ρ)} {vs : List Value} (r : ρ),
      shape.fields = done ++ fields → vs.length ≤ fields.length →
        M.takeMembers (done.map (·.name)).reverse r (membersOf (fields.map (·.name)) vs) =
          M.takeFields r fields vs := by
  intro done fields
  induction fields generalizing done with
  | nil =>
    intro vs r h hle
    obtain rfl := List.eq_nil_of_length_eq_zero (Nat.le_zero.mp hle)
    exact M.takeMembers_nil h hnodup r
  | cons f fields ih =>
    intro vs r h hle
    cases vs with
    | nil => exact M.takeMembers_nil h hnodup r
    | cons v vs =>
      have hmembers : membersOf ((f :: fields).map (·.name)) (v :: vs) =
          (unitsOf f.name.toList, v) :: membersOf (fields.map (·.name)) vs := rfl
      have hname : f.name ∈ shape.fields.map (·.name) := by simp [h]
      have hseen : ¬(done.map (·.name)).reverse.contains f.name := by
        rw [List.contains_iff_mem]
        exact name_notMem_of_nodup (h ▸ hnodup) List.mem_cons_self
      have hdone : f.name :: (done.map (·.name)).reverse =
          ((done ++ [f]).map (·.name)).reverse := by simp
      rw [hmembers, M.takeMembers_cons _ r (keyText?_unitsOf f.name), takeFields,
        M.effect_of_field _ (Shape.isSome_field? hname), if_neg hseen, hdone]
      congr 1
      funext s
      exact ih (done ++ [f]) (s r) (by simp [h]) (Nat.le_of_succ_le_succ hle)

/-- A record is the same in both forms. -/
theorem record?_of_givesFields (hnodup : (shape.fields.map (·.name)).Nodup) {vs : List Value}
    {v : Value} (h : GivesFields (shape.fields.map (·.name)) vs v) :
    M.record? v = M.record? (.list vs) := by
  cases h with
  | list => rfl
  | object hle hp =>
    rw [List.length_map] at hle
    show M.takeMembers [] shape.blank _ = M.takeFields shape.blank shape.fields vs
    rw [M.takeMembers_perm hp]
    exact M.takeMembers_membersOf hnodup [] shape.blank rfl hle

end Interpretation

end FrontendPolicy.Json
