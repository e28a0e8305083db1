import FrontendPolicy.Json.Record

/-!
# What readers ensure

If every part of a value has a property when it is read, so has the whole value, whatever the text
was. `Reader.Ensures` is such a property of all that a reader can give; lists and records hand it on
from their parts.
-/

namespace FrontendPolicy.Json

variable {α β ρ : Type}

/-- All that a reader can give has the property. -/
def Reader.Ensures (r : Reader α) (P : α → Prop) : Prop :=
  ∀ ⦃cs : List Char⦄ ⦃a : α⦄ ⦃rest : List Char⦄, r.run cs = .ok (a, rest) → P a

theorem Reader.Ensures.map {r : Reader α} {P : α → Prop} {Q : β → Prop} {f : α → β}
    (h : r.Ensures P) (hf : ∀ a, P a → Q (f a)) : (r.map f).Ensures Q := by
  intro cs b rest hr
  obtain ⟨a, ha, rfl⟩ := mapValue_eq_ok hr
  exact hf a (h ha)

/-- What a function always gives is ensured after any reader. -/
theorem Reader.ensures_map (r : Reader α) {Q : β → Prop} {f : α → β} (hf : ∀ a, Q (f a)) :
    (r.map f).Ensures Q := by
  intro cs b rest hr
  obtain ⟨a, _, rfl⟩ := mapValue_eq_ok hr
  exact hf a

theorem readElements_ensures {r : Reader α} {P : α → Prop} (h : r.Ensures P) {done as : List α}
    {cs rest : List Char} (hd : ∀ a ∈ done, P a) (hr : readElements r done cs = .ok (as, rest)) :
    ∀ a ∈ as, P a := by
  fun_induction readElements r done cs with
  | case1 => simp at hr
  | case2 =>
    simp only [Except.ok.injEq, Prod.mk.injEq] at hr
    intro a ha
    rw [← hr.1, List.mem_reverse] at ha
    exact hd a ha
  | case3 => simp at hr
  | case4 done _ _ _ b _ hb ih =>
    -- The element joins those that were read before.
    apply ih _ hr
    intro a ha
    rcases List.mem_cons.mp ha with rfl | ha
    · exact h hb
    · exact hd a ha

theorem Reader.Ensures.list {r : Reader α} {P : α → Prop} (h : r.Ensures P) :
    r.list.Ensures fun as => ∀ a ∈ as, P a := by
  intro cs as rest hr
  simp only [Reader.list] at hr
  split at hr
  · obtain ⟨inner, hr, _⟩ := leave_eq_ok hr
    exact readElements_ensures h (by simp) hr
  · simp at hr

/-! ## Records -/

/-- A property of records that every field keeps. -/
def Shape.Keeps (shape : Shape ρ) (P : ρ → Prop) : Prop :=
  ∀ f ∈ shape.fields, f.change.Ensures fun change => ∀ r, P r → P (change r)

variable {shape : Shape ρ} {P : ρ → Prop}

theorem readMember_ensures (h : shape.Keeps P) {seen : List String} {r : ρ} {m : String × ρ}
    {cs rest : List Char} (hr : P r) (hm : readMember shape seen r cs = .ok (m, rest)) :
    P m.2 := by
  unfold readMember at hm
  split at hm
  · simp at hm
  · split at hm
    · -- A member that is no field leaves the record as it is.
      obtain ⟨_, _, rfl⟩ := mapValue_eq_ok hm
      exact hr
    · rename_i f hf
      split at hm
      · simp at hm
      · obtain ⟨change, hc, rfl⟩ := mapValue_eq_ok hm
        unfold readMemberValue at hc
        split at hc
        · simp at hc
        · exact h f (List.mem_of_find?_eq_some hf) hc r hr

theorem readMembers_ensures (h : shape.Keeps P) {seen : List String} {r a : ρ}
    {cs rest : List Char} (hr : P r) (hm : readMembers shape seen r cs = .ok (a, rest)) :
    P a := by
  fun_induction readMembers shape seen r cs with
  | case1 => simp at hm
  | case2 => simp at hm
  | case3 =>
    simp only [Except.ok.injEq, Prod.mk.injEq] at hm
    rw [← hm.1]
    exact hr
  | case4 => simp at hm
  | case5 _ _ _ _ _ _ _ _ hread ih => exact ih (readMember_ensures h hr hread) hm

theorem readFields_ensures (h : shape.Keeps P) {title : String} {count : Nat} {r a : ρ}
    {cs rest : List Char} {fields : List (RecordField ρ)} (hf : ∀ f ∈ fields, f ∈ shape.fields)
    (hr : P r) (hm : readFields title count r cs fields = .ok (a, rest)) : P a := by
  fun_induction readFields title count r cs fields with
  | case1 =>
    simp only [Except.ok.injEq, Prod.mk.injEq] at hm
    rw [← hm.1]
    exact hr
  | case2 => simp at hm
  | case3 => simp at hm
  | case4 _ _ _ _ fields _ _ ih => exact ih (fun g hg => hf g (List.mem_cons_of_mem _ hg)) hr hm
  | case5 => simp at hm
  | case6 _ _ _ field _ _ _ _ _ hread ih =>
    exact ih (fun g hg => hf g (List.mem_cons_of_mem _ hg))
      (h field (hf field List.mem_cons_self) hread _ hr) hm

/-- A record has what its blank has and every field keeps. -/
theorem Reader.ensures_record (blank : P shape.blank) (h : shape.Keeps P) :
    (Reader.record shape).Ensures P := by
  intro cs r rest hr
  simp only [Reader.record] at hr
  split at hr
  · obtain ⟨inner, hr, _⟩ := leave_eq_ok hr
    exact readMembers_ensures h blank hr
  · obtain ⟨inner, hr, _⟩ := leave_eq_ok hr
    exact readFields_ensures h (fun _ hf => hf) blank hr
  · simp at hr

theorem Reader.Ensures.whole {r : Reader α} {P : α → Prop} (h : r.Ensures P) {text : String}
    {a : α} (hr : r.whole text = .ok a) : P a := by
  unfold Reader.whole at hr
  split at hr
  · simp at hr
  · rename_i hrun
    split at hr
    · rw [← Except.ok.inj hr]
      exact h hrun
    · simp at hr

end FrontendPolicy.Json
