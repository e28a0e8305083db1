import FrontendPolicy.Proofs.Json.Rearranged

/-!
# Members that say nothing

An object is the same record with some of its members and without them. Such a member is
`Interpretation.Redundant` if it does nothing to the record of the members before it. It cannot be
put in next to another member of its field, and `Interpretation.not_givesKey_of_record?` says when
there is none.
-/

namespace FrontendPolicy.Json

variable {α ρ : Type}

/-- An element may stand for another that means the same. -/
theorem list?_congr_element {meaning : Value → Option α} {v w : Value}
    (h : meaning v = meaning w) (before after : List Value) :
    Value.list? meaning (.list (before ++ v :: after)) =
      Value.list? meaning (.list (before ++ w :: after)) := by
  show (before ++ v :: after).mapM meaning = (before ++ w :: after).mapM meaning
  rw [List.mapM_append, List.mapM_append, List.mapM_cons, List.mapM_cons, h]

namespace Interpretation

variable {shape : Shape ρ} (M : Interpretation shape) {before after : List (List Nat × Value)}
  {m : List Nat × Value} {name : String} {s : ρ → ρ}

/-! ## One member more -/

/-- A member whose field is not given again may as well come first. -/
theorem takeMembers_insert (hk : keyText? m.1 = some name) (hs : M.effect [] name m.2 = some s)
    (hfree : (shape.field? name).isSome →
      ¬shape.Requires name ∧ ¬GivesKey name (before ++ after)) (r : ρ) :
    M.takeMembers [] r (before ++ m :: after) = M.takeMembers [] (s r) (before ++ after) := by
  rw [M.takeMembers_middle, M.takeMembers_cons [] r hk, hs, Option.bind_some]
  apply M.takeMembers_congr_seen
  intro n hn hmatters
  -- The name of the member is seen now, but nothing asks for it.
  have hne : n ≠ name := by
    rintro rfl
    obtain ⟨hoptional, habsent⟩ := hfree hn
    rcases hmatters with hrequired | hgiven
    · exact hoptional hrequired
    · exact habsent hgiven
  simp [hne]

/-- A field may as well be changed after all other members. -/
theorem takeMembers_map {v : Value} (hs : M.change name v = some s)
    {ms : List (List Nat × Value)} : ∀ {seen : List String} (r : ρ), ¬GivesKey name ms →
      M.takeMembers seen (s r) ms = (M.takeMembers seen r ms).map s := by
  induction ms with
  | nil =>
    intro seen r _
    rw [takeMembers, takeMembers]
    split <;> rfl
  | cons m ms ih =>
    intro seen r habsent
    have htail : ¬GivesKey name ms := by
      rintro ⟨m', hm', hk⟩
      exact habsent ⟨m', List.mem_cons_of_mem m hm', hk⟩
    cases hk : keyText? m.1 with
    | none =>
      rw [M.takeMembers_cons_of_none seen _ hk, M.takeMembers_cons_of_none seen _ hk]
      rfl
    | some n =>
      have hne : n ≠ name := by
        rintro rfl
        exact habsent ⟨m, List.mem_cons_self, hk⟩
      rw [M.takeMembers_cons seen _ hk, M.takeMembers_cons seen _ hk]
      cases ht : M.effect seen n m.2 with
      | none => rfl
      | some t =>
        have hcomm : t (s r) = s (t r) := by
          unfold effect at ht
          split at ht
          · rw [← Option.some.inj ht]
            rfl
          · split at ht
            · exact absurd ht (by simp)
            · exact M.independent hne ht hs r
        rw [Option.bind_some, Option.bind_some, hcomm, ih (t r) htail]

theorem effect_nil (hn : (shape.field? name).isSome) (v : Value) :
    M.effect [] name v = M.change name v := by
  rw [M.effect_of_field [] hn, if_neg (by simp)]

/-- A field that may be left out and is not given by the other members changes the record just as
it is given. -/
theorem record?_insert (hk : keyText? m.1 = some name) (hn : (shape.field? name).isSome)
    (hoptional : ¬shape.Requires name) (habsent : ¬GivesKey name (before ++ after))
    (hs : M.change name m.2 = some s) :
    M.record? (.object (before ++ m :: after)) =
      (M.record? (.object (before ++ after))).map s := by
  have heffect : M.effect [] name m.2 = some s := (M.effect_nil hn m.2).trans hs
  calc M.record? (.object (before ++ m :: after))
      = M.takeMembers [] (s shape.blank) (before ++ after) :=
        M.takeMembers_insert hk heffect (fun _ => ⟨hoptional, habsent⟩) shape.blank
    _ = (M.record? (.object (before ++ after))).map s := M.takeMembers_map hs shape.blank habsent

/-- A field that is not given is as if it were given what the blank record has. -/
theorem eq_of_record? {ms : List (List Nat × Value)} {v : Value} {r : ρ}
    (hs : M.change name v = some s) (hblank : s shape.blank = shape.blank)
    (habsent : ¬GivesKey name ms) (h : M.record? (.object ms) = some r) : s r = r := by
  have htake : M.takeMembers [] shape.blank ms = some r := h
  have hmap : M.takeMembers [] (s shape.blank) ms = (M.takeMembers [] shape.blank ms).map s :=
    M.takeMembers_map hs shape.blank habsent
  rw [hblank, htake, Option.map_some] at hmap
  exact (Option.some.inj hmap).symm

/-- No member but one has the key of a field. -/
theorem not_givesKey_of_record? {r : ρ} (h : M.record? (.object (before ++ m :: after)) = some r)
    (hk : keyText? m.1 = some name) (hn : (shape.field? name).isSome) :
    ¬GivesKey name (before ++ after) := by
  intro hgiven
  have htake : M.takeMembers [] shape.blank (before ++ m :: after) = some r := h
  rw [M.takeMembers_middle, M.takeMembers_cons [] _ hk] at htake
  simp only [M.takeMembers_of_mem hn _ List.mem_cons_self hgiven, Option.bind_fun_none] at htake
  exact absurd htake (by simp)

/-- An object is refused with a key that is no text. -/
theorem record?_of_noKeyText (hk : keyText? m.1 = none) (before after : List (List Nat × Value)) :
    M.record? (.object (before ++ m :: after)) = none := by
  show M.takeMembers [] shape.blank _ = none
  rw [M.takeMembers_middle, M.takeMembers_cons_of_none [] _ hk]

/-- A member may have another value that its field makes the same of. -/
theorem record?_congr_member {key : List Nat} {v w : Value} (hk : keyText? key = some name)
    (hn : (shape.field? name).isSome) (h : M.change name v = M.change name w) :
    M.record? (.object (before ++ (key, v) :: after)) =
      M.record? (.object (before ++ (key, w) :: after)) := by
  show M.takeMembers [] shape.blank _ = M.takeMembers [] shape.blank _
  rw [M.takeMembers_middle, M.takeMembers_middle, M.takeMembers_cons [] _ hk,
    M.takeMembers_cons [] _ hk, M.effect_nil hn, M.effect_nil hn, h]

/-! ## Redundant members -/

/-- A member that does nothing. Its key is not the name of a field, or the field may be left out
and its value leaves the blank record as it is. -/
inductive Redundant (m : List Nat × Value) : Prop where
  | unknown {name : String} (hk : keyText? m.1 = some name) (hn : shape.field? name = none)
  | blank {name : String} {s : ρ → ρ} (hk : keyText? m.1 = some name)
      (hn : (shape.field? name).isSome) (hoptional : ¬shape.Requires name)
      (hs : M.change name m.2 = some s) (hblank : s shape.blank = shape.blank)

/-- A redundant member may be put in, unless it is for a field that is given. -/
theorem record?_insert_of_redundant (hm : M.Redundant m)
    (hfree : ∀ name, (shape.field? name).isSome → keyText? m.1 = some name →
      ¬GivesKey name (before ++ after)) :
    M.record? (.object (before ++ m :: after)) = M.record? (.object (before ++ after)) := by
  show M.takeMembers [] shape.blank _ = M.takeMembers [] shape.blank _
  cases hm with
  | @unknown name hk hn =>
    have heffect : M.effect [] name m.2 = some id := by
      rw [effect, if_pos (by rw [hn]; rfl)]
    exact M.takeMembers_insert hk heffect (fun h => absurd h (by simp [hn])) shape.blank
  | @blank name s hk hn hoptional hs hblank =>
    have heffect : M.effect [] name m.2 = some s := (M.effect_nil hn m.2).trans hs
    rw [M.takeMembers_insert hk heffect (fun _ => ⟨hoptional, hfree name hn hk⟩), hblank]

end Interpretation

end FrontendPolicy.Json
