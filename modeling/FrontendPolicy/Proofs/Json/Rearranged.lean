import FrontendPolicy.Proofs.Json.Record

/-!
# Values up to the order of members

The members of an object may come in any order, at any depth of a value (`Value.Rearranged`). A
meaning that does not tell such values apart `Respects` the relation, and the meanings of all
readers do. This includes objects that give a key twice: they are refused in every order
(`RepeatsKey`).
-/

namespace FrontendPolicy.Json

variable {α β ρ : Type}

/-! ## Rearranged values -/

mutual

/-- Values that differ in the order of members only. -/
inductive Value.Rearranged : Value → Value → Prop where
  | same (v : Value) : Value.Rearranged v v
  | list {vs ws : List Value} (h : ElementsRearranged vs ws) :
      Value.Rearranged (.list vs) (.list ws)
  | object {ms ns ns' : List (List Nat × Value)} (h : MembersRearranged ms ns)
      (hp : ns.Perm ns') : Value.Rearranged (.object ms) (.object ns')

/-- Lists whose elements differ in the order of members only. -/
inductive ElementsRearranged : List Value → List Value → Prop where
  | nil : ElementsRearranged [] []
  | cons {v w : Value} {vs ws : List Value} (h : Value.Rearranged v w)
      (hs : ElementsRearranged vs ws) : ElementsRearranged (v :: vs) (w :: ws)

/-- Members with the same keys whose values differ in the order of members only. -/
inductive MembersRearranged : List (List Nat × Value) → List (List Nat × Value) → Prop where
  | nil : MembersRearranged [] []
  | cons {key : List Nat} {v w : Value} {ms ns : List (List Nat × Value)}
      (h : Value.Rearranged v w) (hs : MembersRearranged ms ns) :
      MembersRearranged ((key, v) :: ms) ((key, w) :: ns)

end

/-- A meaning that the order of members does not bear on. -/
def Respects (meaning : Value → Option α) : Prop :=
  ∀ ⦃v w : Value⦄, v.Rearranged w → meaning v = meaning w

theorem Respects.map {meaning : Value → Option α} (h : Respects meaning) (f : α → β) :
    Respects fun v => (meaning v).map f := by
  intro v w hvw
  show (meaning v).map f = (meaning w).map f
  rw [h hvw]

theorem respects_text : Respects Value.text? := by
  intro v w hvw
  cases hvw <;> rfl

theorem respects_flag : Respects Value.flag? := by
  intro v w hvw
  cases hvw <;> rfl

theorem Respects.optional {meaning : Value → Option α} (h : Respects meaning) :
    Respects (Value.optional? meaning) := by
  intro v w hvw
  cases hvw with
  | same => rfl
  | list hs =>
    show (meaning _).map some = (meaning _).map some
    rw [h (.list hs)]
  | object hs hp =>
    show (meaning _).map some = (meaning _).map some
    rw [h (.object hs hp)]

theorem Respects.mapM {meaning : Value → Option α} (h : Respects meaning) {vs : List Value} :
    ∀ {ws : List Value}, ElementsRearranged vs ws → vs.mapM meaning = ws.mapM meaning := by
  induction vs with
  | nil =>
    intro ws hs
    cases hs
    rfl
  | cons v vs ih =>
    intro ws hs
    cases hs with
    | cons hv hs => rw [List.mapM_cons, List.mapM_cons, h hv, ih hs]

theorem Respects.list {meaning : Value → Option α} (h : Respects meaning) :
    Respects (Value.list? meaning) := by
  intro v w hvw
  cases hvw with
  | same => rfl
  | list hs => exact h.mapM hs
  | object => rfl

namespace Interpretation

variable {shape : Shape ρ}

theorem takeMembers_congr (M : Interpretation shape) (h : ∀ name, Respects (M.change name))
    {ms : List (List Nat × Value)} : ∀ {ns : List (List Nat × Value)} (seen : List String) (r : ρ),
      MembersRearranged ms ns → M.takeMembers seen r ms = M.takeMembers seen r ns := by
  induction ms with
  | nil =>
    intro ns seen r hs
    cases hs
    rfl
  | cons m ms ih =>
    intro ns seen r hs
    cases hs with
    | @cons key v w _ ns hv hs =>
      have hm : M.takeMember seen r (key, v) = M.takeMember seen r (key, w) := by
        have heffect : ∀ name, M.effect seen name v = M.effect seen name w := by
          intro name
          rw [effect, effect, h name hv]
        simp only [takeMember, heffect]
      rw [takeMembers, takeMembers, hm]
      congr 1
      funext p
      exact ih (p.1 :: seen) p.2 hs

theorem takeFields_congr (M : Interpretation shape) (h : ∀ name, Respects (M.change name)) :
    ∀ (fields : List (RecordField ρ)) {vs ws : List Value} (r : ρ), ElementsRearranged vs ws →
      M.takeFields r fields vs = M.takeFields r fields ws := by
  intro fields
  induction fields with
  | nil =>
    intro vs ws r hs
    cases hs <;> rfl
  | cons f fields ih =>
    intro vs ws r hs
    cases hs with
    | nil => rfl
    | cons hv hs =>
      rw [takeFields, takeFields, h f.name hv]
      congr 1
      funext change
      exact ih (change r) hs

/-- A record may be read off the members of an object in any order. -/
theorem respects_record (M : Interpretation shape) (h : ∀ name, Respects (M.change name)) :
    Respects M.record? := by
  intro v w hvw
  cases hvw with
  | same => rfl
  | list hs => exact M.takeFields_congr h shape.fields shape.blank hs
  | object hs hp =>
    show M.takeMembers [] shape.blank _ = M.takeMembers [] shape.blank _
    rw [M.takeMembers_congr h [] shape.blank hs, M.takeMembers_perm hp]

end Interpretation

/-! ## Refused values -/

/-- A key of the given text occurs twice among the members of an object. -/
def RepeatsKey (name : String) (ms : List (List Nat × Value)) : Prop :=
  ∃ before a between b after, ms = before ++ a :: (between ++ b :: after) ∧
    keyText? a.1 = some name ∧ keyText? b.1 = some name

/-- A list is refused with any of its elements. -/
theorem list?_of_refused {meaning : Value → Option α} {vs : List Value} {v : Value} (h : v ∈ vs)
    (hv : meaning v = none) : Value.list? meaning (.list vs) = none := by
  show vs.mapM meaning = none
  induction vs with
  | nil => simp at h
  | cons w vs ih =>
    rw [List.mapM_cons]
    rcases List.mem_cons.mp h with rfl | h
    · rw [hv]
      rfl
    · rw [ih h]
      cases meaning w <;> rfl

namespace Interpretation

variable {shape : Shape ρ}

/-- An object that gives a field twice is refused. -/
theorem record?_of_repeatsKey (M : Interpretation shape) {name : String}
    (h : (shape.field? name).isSome) {ms : List (List Nat × Value)} (hr : RepeatsKey name ms) :
    M.record? (.object ms) = none := by
  obtain ⟨before, a, between, b, after, rfl, ha, hb⟩ := hr
  exact M.takeMembers_of_repeated h ha hb [] shape.blank

/-- An object is refused with the value of any field. -/
theorem record?_of_refused_member (M : Interpretation shape) {name : String}
    (h : (shape.field? name).isSome) {ms : List (List Nat × Value)} {m : List Nat × Value}
    (hm : m ∈ ms) (hk : keyText? m.1 = some name) (hv : M.change name m.2 = none) :
    M.record? (.object ms) = none := by
  obtain ⟨before, after, rfl⟩ := List.append_of_mem hm
  show M.takeMembers [] shape.blank _ = none
  -- Taken first, the member finds no other name seen, so only its value can decide.
  rw [M.takeMembers_middle, M.takeMembers_cons [] _ hk]
  have heffect : M.effect [] name m.2 = none := by
    rw [M.effect_of_field [] h, if_neg (by simp), hv]
  rw [heffect]
  rfl

/-- A list is refused with the value of any field. -/
theorem record?_of_refused_element (M : Interpretation shape) {i : Nat} {f : RecordField ρ}
    {v : Value} {vs : List Value} (hf : shape.fields[i]? = some f) (hi : vs[i]? = some v)
    (hv : M.change f.name v = none) : M.record? (.list vs) = none := by
  have htake : ∀ (i : Nat) (fields : List (RecordField ρ)) (vs : List Value) (r : ρ),
      fields[i]? = some f → vs[i]? = some v → M.takeFields r fields vs = none := by
    intro i
    induction i with
    | zero =>
      intro fields vs r hf hi
      cases fields with
      | nil => simp at hf
      | cons g fields =>
        cases vs with
        | nil => simp at hi
        | cons w vs =>
          simp only [List.getElem?_cons_zero, Option.some.injEq] at hf hi
          rw [hf, hi, takeFields, hv]
          rfl
    | succ i ih =>
      intro fields vs r hf hi
      cases fields with
      | nil => simp at hf
      | cons g fields =>
        cases vs with
        | nil => simp at hi
        | cons w vs =>
          simp only [List.getElem?_cons_succ] at hf hi
          rw [takeFields]
          simp only [ih fields vs _ hf hi, Option.bind_fun_none]
  exact htake i shape.fields vs shape.blank hf hi

end Interpretation

end FrontendPolicy.Json
