import FrontendPolicy.Json.Record
import FrontendPolicy.Proofs.Json.Reader
import FrontendPolicy.Proofs.Json.Skip

/-!
# What record readers make of values

A record is read off the members of an object in whatever order they come, or off the elements of a
list. An `Interpretation` is what the fields of a shape make of values, and `Interpretation.reads`
proves that `Reader.record` reads just the record that it gives. With that the laws of members are
about lists of values: their order does not matter (`Interpretation.takeMembers_perm`), and no field
may be given twice (`Interpretation.takeMembers_of_repeated`).
-/

namespace FrontendPolicy.Json

variable {ρ : Type}

/-- What the fields of a shape make of values. Fields of different names change different parts
of the record. -/
structure Interpretation (shape : Shape ρ) where
  change : String → Value → Option (ρ → ρ)
  reads : ∀ f ∈ shape.fields, f.change.Reads (change f.name)
  independent : ∀ {a b : String} {v w : Value} {s t : ρ → ρ}, a ≠ b → change a v = some s →
    change b w = some t → ∀ r, s (t r) = t (s r)

/-- The text of a key. -/
def keyText? (key : List Nat) : Option String := (textOfUnits? key).map String.ofList

theorem keyText?_unitsOf (s : String) : keyText? (unitsOf s.toList) = some s := by
  rw [keyText?, textOfUnits?_unitsOf, Option.map_some, String.ofList_toList]

/-- Some member has the given key. -/
def GivesKey (name : String) (ms : List (List Nat × Value)) : Prop :=
  ∃ m ∈ ms, keyText? m.1 = some name

/-- The field of the given name may not be left out. -/
def Shape.Requires (shape : Shape ρ) (name : String) : Prop :=
  ∃ f ∈ shape.fields, f.required = true ∧ f.name = name

theorem Shape.missing?_eq_none_iff {shape : Shape ρ} {seen : List String} :
    shape.missing? seen = none ↔ ∀ f ∈ shape.fields, f.required → f.name ∈ seen := by
  simp [missing?, List.find?_eq_none]

/-- The fields of a shape are found by their names. -/
theorem Shape.isSome_field? {shape : Shape ρ} {name : String}
    (h : name ∈ shape.fields.map (·.name)) : (shape.field? name).isSome := by
  obtain ⟨f, hf, rfl⟩ := List.mem_map.mp h
  rw [Shape.field?, List.find?_isSome]
  exact ⟨f, hf, by simp⟩

namespace Interpretation

variable {shape : Shape ρ}

/-- How a member changes the record. Members that are no fields change nothing. `seen` are the
names of the members before it. -/
def effect (M : Interpretation shape) (seen : List String) (name : String) (v : Value) :
    Option (ρ → ρ) :=
  if (shape.field? name).isNone then some id
  else if seen.contains name then none
  else M.change name v

/-- The name of a member and the record after it. -/
def takeMember (M : Interpretation shape) (seen : List String) (r : ρ) (m : List Nat × Value) :
    Option (String × ρ) :=
  match keyText? m.1 with
  | none => none
  | some name => (M.effect seen name m.2).map fun change => (name, change r)

/-- The record after the members of an object. -/
def takeMembers (M : Interpretation shape) (seen : List String) (r : ρ) :
    List (List Nat × Value) → Option ρ
  | [] => if (shape.missing? seen).isNone then some r else none
  | m :: ms => (M.takeMember seen r m).bind fun p => M.takeMembers (p.1 :: seen) p.2 ms

/-- The record after the elements of a list, given the fields that they stand for. -/
def takeFields (M : Interpretation shape) (r : ρ) :
    List (RecordField ρ) → List Value → Option ρ
  | [], [] => some r
  | [], _ :: _ => none
  | f :: fields, [] => if f.required then none else M.takeFields r fields []
  | f :: fields, v :: vs =>
    (M.change f.name v).bind fun change => M.takeFields (change r) fields vs

/-- The record that a value is. -/
def record? (M : Interpretation shape) : Value → Option ρ
  | .object ms => M.takeMembers [] shape.blank ms
  | .list vs => M.takeFields shape.blank shape.fields vs
  | _ => none

/-! ## Objects -/

theorem toOption_readMemberValue {α : Type} {r : Reader α} {meaning : Value → Option α}
    (h : r.Reads meaning) {v : Value} {ws ws' cs rest : List Char} (hw : IsSpaces ws)
    (hw' : IsSpaces ws') (hv : Spells (.value v) cs) (hr : Delimited rest) :
    (readMemberValue r (ws ++ ':' :: (ws' ++ (cs ++ rest)))).toOption =
      (meaning v).map (·, rest) := by
  simp only [readMemberValue, scanColon_of_spaces hw]
  exact h hw' hv hr

/-- Skipping makes nothing of a value, whatever it is. -/
theorem reads_skip : Reader.skip.Reads fun _ => some () := by
  intro v ws cs rest hw hv hr
  rw [skip_of_spells hv hw hr]
  rfl

theorem field?_eq_some {name : String} {f : RecordField ρ} (h : shape.field? name = some f) :
    f ∈ shape.fields ∧ f.name = name := by
  refine ⟨List.mem_of_find?_eq_some h, ?_⟩
  have := List.find?_some h
  simpa using this

theorem toOption_readMember (M : Interpretation shape) (seen : List String) (r : ρ)
    {key : List Nat} {v : Value} {name ws ws' cs rest : List Char} (hk : SpellsText key name)
    (hw : IsSpaces ws) (hw' : IsSpaces ws') (hv : Spells (.value v) cs) (hr : Delimited rest) :
    (readMember shape seen r (name ++ '"' :: (ws ++ ':' :: (ws' ++ (cs ++ rest))))).toOption =
      (M.takeMember seen r (key, v)).map (·, rest) := by
  have hread := readText_of_spells hk [] (ws ++ ':' :: (ws' ++ (cs ++ rest)))
  unfold takeMember keyText? effect
  cases ht : textOfUnits? key with
  | none =>
    rw [ht] at hread
    obtain ⟨f, hf⟩ := toOption_eq_none hread
    rw [readMember, hf]
    rfl
  | some text =>
    rw [ht] at hread
    have hread := toOption_eq_some hread
    simp only [List.reverse_nil, List.nil_append] at hread
    rw [readMember, hread]
    simp only [Option.map_some]
    cases hf : shape.field? (String.ofList text) with
    | none =>
      -- The value of an unknown member is passed over.
      simp only [toOption_mapValue, toOption_readMemberValue reads_skip hw hw' hv hr]
      rfl
    | some f =>
      obtain ⟨hmem, hname⟩ := field?_eq_some hf
      simp only [Option.isNone_some, Bool.false_eq_true, if_false]
      split
      · rfl
      · have hreads := M.reads f hmem
        rw [hname] at hreads
        rw [toOption_mapValue, toOption_readMemberValue hreads hw hw' hv hr]
        simp only [Option.map_map]
        rfl

theorem readMembers_end {seen : List String} {r : ρ} {cs : List Char}
    (h : nextKey seen.isEmpty cs = .ok none) :
    readMembers shape seen r cs = match shape.missing? seen with
      | some f => .error (.loose (.missingField f.name) cs)
      | none => .ok (r, cs) := by
  rw [readMembers]
  split
  · simp_all
  · cases shape.missing? seen <;> rfl
  · simp_all

theorem readMembers_more {seen : List String} {r : ρ} {cs start : List Char}
    (h : nextKey seen.isEmpty cs = .ok (some start)) :
    readMembers shape seen r cs = match readMember shape seen r start with
      | .error f => .error f
      | .ok ((name, r'), rest) => readMembers shape (name :: seen) r' rest := by
  rw [readMembers]
  split
  · simp_all
  · simp_all
  · rename_i hs
    rw [h, Except.ok.injEq, Option.some.injEq] at hs
    subst hs
    split <;> simp_all

/-- The members that are left of an object are read one by one up to its end. -/
theorem readMembers_of_spells (M : Interpretation shape) {ms : List (List Nat × Value)} :
    ∀ (seen : List String) (r : ρ) {cs : List Char}, Spells (.members seen.isEmpty ms) cs →
      ∀ rest : List Char, (leave .object (readMembers shape seen r (cs ++ rest))).toOption =
        (M.takeMembers seen r ms).map (·, rest) := by
  induction ms with
  | nil =>
    intro seen r cs hs rest
    cases hs with
    | objectEnd hw =>
      rw [List.append_assoc, List.singleton_append, readMembers_end (nextKey_of_end _ hw _),
        takeMembers]
      cases shape.missing? seen with
      | some f => rfl
      | none =>
        show (leave .object (.ok (r, _ ++ Bracket.object.closer :: rest))).toOption = _
        rw [leave_of_spaces .object r hw]
        rfl
  | cons m ms ih =>
    intro seen r cs hs rest
    cases hs with
    | member hl hk hw hw' hv hr =>
      have hread := M.toOption_readMember seen r hk hw hw' hv (delimited_members hr rest)
      simp only [List.append_assoc, List.cons_append] at hread ⊢
      rw [readMembers_more (nextKey_of_lead hl _), takeMembers]
      cases hm : M.takeMember seen r (_, _) with
      | none =>
        rw [hm] at hread
        obtain ⟨f, hf⟩ := toOption_eq_none hread
        rw [hf]
        cases f <;> rfl
      | some p =>
        rw [hm] at hread
        rw [toOption_eq_some hread]
        exact ih (p.1 :: seen) p.2 hr rest

/-! ## Lists -/

/-- Where a list has ended, the fields that are left keep their defaults. -/
theorem readFields_of_end (M : Interpretation shape) (title : String) {ws : List Char}
    (hw : IsSpaces ws) (rest : List Char) : ∀ (fields : List (RecordField ρ)) (count : Nat) (r : ρ),
      (leave .list (readFields title count r (ws ++ ']' :: rest) fields)).toOption =
        (M.takeFields r fields []).map (·, rest) := by
  intro fields
  induction fields with
  | nil =>
    intro count r
    show (leave .list (.ok (r, ws ++ Bracket.list.closer :: rest))).toOption = _
    rw [leave_of_spaces .list r hw]
    rfl
  | cons f fields ih =>
    intro count r
    simp only [readFields, nextElement_of_end _ hw, takeFields]
    split
    · rfl
    · exact ih (count + 1) r

/-- The elements of a list stand for the fields in their order. -/
theorem readFields_of_spells (M : Interpretation shape) (title : String) (rest : List Char) :
    ∀ (fields : List (RecordField ρ)) (count : Nat) (r : ρ) {vs : List Value} {cs : List Char},
      (∀ f ∈ fields, f ∈ shape.fields) → Spells (.elements (count = 0) vs) cs →
      (leave .list (readFields title count r (cs ++ rest) fields)).toOption =
        (M.takeFields r fields vs).map (·, rest) := by
  intro fields
  induction fields with
  | nil =>
    intro count r vs cs _ hs
    cases hs with
    | listEnd hw =>
      rw [List.append_assoc, List.singleton_append]
      exact M.readFields_of_end title hw rest [] count r
    | @element _ _ _ _ _ tail hl hv hr =>
      obtain ⟨c, cs, rfl, hc⟩ := spells_startsWith hv
      obtain ⟨hspace, -, hclose, -⟩ := hc.notSeparator
      -- An element that no field is left for keeps the list from ending.
      have hopen := @close_of_lead _ (cs ++ (tail ++ rest)) _ .list _ hl hspace hclose
      simp only [List.append_assoc, List.cons_append, readFields, leave]
      split
      · rename_i heq
        rw [heq] at hopen
        exact absurd rfl hopen
      · rfl
  | cons f fields ih =>
    intro count r vs cs hsub hs
    cases hs with
    | listEnd hw =>
      rw [List.append_assoc, List.singleton_append]
      exact M.readFields_of_end title hw rest (f :: fields) count r
    | @element _ v _ _ _ _ hl hv hr =>
      have hrun := M.reads f (hsub f List.mem_cons_self) isSpaces_nil hv
        (delimited_elements hr rest)
      obtain ⟨c, tail, rfl, hc⟩ := spells_startsWith hv
      obtain ⟨hspace, -, hclose, -⟩ := hc.notSeparator
      simp only [List.append_assoc, List.cons_append, List.nil_append] at hrun ⊢
      simp only [readFields, nextElement_of_lead hl hspace hclose, takeFields]
      cases hm : M.change f.name v with
      | none =>
        rw [hm] at hrun
        obtain ⟨e, he⟩ := toOption_eq_none hrun
        rw [he]
        cases e <;> rfl
      | some change =>
        rw [hm] at hrun
        rw [toOption_eq_some hrun]
        exact ih (count + 1) (change r) (fun g hg => hsub g (List.mem_cons_of_mem _ hg)) hr

/-! ## Records -/

/-- A record reader makes of a value what the interpretation of its shape does. -/
theorem record_reads (M : Interpretation shape) : (Reader.record shape).Reads M.record? := by
  intro v ws cs rest hw hv _
  obtain ⟨c, tail, hc, hcs, hs⟩ := skipSpace_of_spells hw hv rest
  simp only [Reader.record, hs]
  split
  · rename_i heq
    simp only [List.cons.injEq] at heq
    obtain ⟨rfl, rfl⟩ := heq
    obtain ⟨ms, rfl⟩ := hc.eq_object
    cases hv with
    | object h =>
      simp only [List.cons.injEq, true_and] at hcs
      subst hcs
      exact M.readMembers_of_spells [] shape.blank h rest
  · rename_i heq
    simp only [List.cons.injEq] at heq
    obtain ⟨rfl, rfl⟩ := heq
    obtain ⟨vs, rfl⟩ := hc.eq_list
    cases hv with
    | list h =>
      simp only [List.cons.injEq, true_and] at hcs
      subst hcs
      exact M.readFields_of_spells _ rest shape.fields 0 shape.blank (fun _ hf => hf) h
  · rename_i hobject hlist
    cases v with
    | object ms => exact absurd (congrArg (· :: _) hc) (hobject _)
    | list vs => exact absurd (congrArg (· :: _) hc) (hlist _)
    | null | flag | number | text => rfl

/-! ## Laws of members -/

/-- Of the names seen before, only those of fields that have to be given or are given again
matter. -/
theorem takeMembers_congr_seen (M : Interpretation shape) {ms : List (List Nat × Value)} :
    ∀ {seen seen' : List String} (r : ρ),
      (∀ n, (shape.field? n).isSome → shape.Requires n ∨ GivesKey n ms →
        (n ∈ seen ↔ n ∈ seen')) → M.takeMembers seen r ms = M.takeMembers seen' r ms := by
  induction ms with
  | nil =>
    intro seen seen' r h
    have hmissing : (shape.missing? seen).isNone ↔ (shape.missing? seen').isNone := by
      simp only [Option.isNone_iff_eq_none, Shape.missing?_eq_none_iff]
      refine forall₂_congr fun f hf => forall_congr' fun hr => h f.name ?_ (.inl ⟨f, hf, hr, rfl⟩)
      exact Shape.isSome_field? (List.mem_map_of_mem hf)
    simp only [takeMembers, hmissing]
  | cons m ms ih =>
    intro seen seen' r h
    have hm : M.takeMember seen r m = M.takeMember seen' r m := by
      unfold takeMember
      cases hk : keyText? m.1 with
      | none => rfl
      | some n =>
        cases hn : shape.field? n with
        | none => simp only [effect, hn, Option.isNone_none, if_true]
        | some f =>
          have hseen : n ∈ seen ↔ n ∈ seen' :=
            h n (by rw [hn]; rfl) (.inr ⟨m, List.mem_cons_self, hk⟩)
          simp only [effect, List.contains_iff_mem, hseen]
    rw [takeMembers, takeMembers, hm]
    congr 1
    funext p
    apply ih
    intro n hn hmatters
    have hseen : n ∈ seen ↔ n ∈ seen' :=
      h n hn (hmatters.imp_right fun ⟨m', hm', hk⟩ => ⟨m', List.mem_cons_of_mem m hm', hk⟩)
    rw [List.mem_cons, List.mem_cons, hseen]

/-- A member of another name does not bear on whether a name was seen. -/
theorem effect_cons (M : Interpretation shape) (seen : List String) {n k : String} (h : n ≠ k)
    (v : Value) : M.effect (n :: seen) k v = M.effect seen k v := by
  have hc : (n :: seen).contains k = seen.contains k := by
    simp [Ne.symm h]
  simp only [effect, hc]

theorem effect_of_field (M : Interpretation shape) (seen : List String) {n : String}
    (hn : (shape.field? n).isSome) (v : Value) :
    M.effect seen n v = if seen.contains n then none else M.change n v := by
  have hn : ¬(shape.field? n).isNone = true := by
    rw [← Option.not_isSome, hn]
    decide
  rw [effect, if_neg hn]

/-- A field that was seen before may not come again. -/
theorem effect_of_mem (M : Interpretation shape) {seen : List String} {n : String} (h : n ∈ seen)
    (hn : (shape.field? n).isSome) (v : Value) : M.effect seen n v = none := by
  rw [M.effect_of_field seen hn, if_pos (List.contains_iff_mem.mpr h)]

/-- Members of different names change different parts of the record. -/
theorem effect_comm (M : Interpretation shape) {seen : List String} {n k : String} {v w : Value}
    {s t : ρ → ρ} (h : n ≠ k) (hs : M.effect seen n v = some s)
    (ht : M.effect seen k w = some t) (r : ρ) : s (t r) = t (s r) := by
  unfold effect at hs ht
  split at hs
  · rw [← Option.some.inj hs]
    rfl
  · split at ht
    · rw [← Option.some.inj ht]
      rfl
    · split at hs
      · exact absurd hs (by simp)
      · split at ht
        · exact absurd ht (by simp)
        · exact M.independent h hs ht r

theorem takeMembers_cons (M : Interpretation shape) (seen : List String) (r : ρ)
    {m : List Nat × Value} {n : String} (h : keyText? m.1 = some n)
    (ms : List (List Nat × Value)) : M.takeMembers seen r (m :: ms) =
      (M.effect seen n m.2).bind fun change => M.takeMembers (n :: seen) (change r) ms := by
  simp only [takeMembers, takeMember, h]
  cases M.effect seen n m.2 <;> rfl

theorem takeMembers_cons_of_none (M : Interpretation shape) (seen : List String) (r : ρ)
    {m : List Nat × Value} (h : keyText? m.1 = none) (ms : List (List Nat × Value)) :
    M.takeMembers seen r (m :: ms) = none := by
  rw [takeMembers, takeMember, h]
  rfl

/-- A field that was not seen before changes the record. -/
theorem takeMembers_field (M : Interpretation shape) {seen : List String} {name : String}
    {v : Value} {s : ρ → ρ} (hname : (shape.field? name).isSome) (hseen : name ∉ seen)
    (hs : M.change name v = some s) (r : ρ) (ms : List (List Nat × Value)) :
    M.takeMembers seen r ((unitsOf name.toList, v) :: ms) =
      M.takeMembers (name :: seen) (s r) ms := by
  rw [M.takeMembers_cons seen r (keyText?_unitsOf name), M.effect_of_field seen hname,
    if_neg (by rwa [List.contains_iff_mem]), hs, Option.bind_some]

/-- Two neighbours may trade places. -/
theorem takeMembers_swap (M : Interpretation shape) (seen : List String) (r : ρ)
    (a b : List Nat × Value) (ms : List (List Nat × Value)) :
    M.takeMembers seen r (a :: b :: ms) = M.takeMembers seen r (b :: a :: ms) := by
  cases ha : keyText? a.1 with
  | none =>
    rw [M.takeMembers_cons_of_none seen r ha]
    cases hb : keyText? b.1 with
    | none => rw [M.takeMembers_cons_of_none seen r hb]
    | some k =>
      rw [M.takeMembers_cons seen r hb]
      simp only [M.takeMembers_cons_of_none _ _ ha, Option.bind_fun_none]
  | some n =>
    rw [M.takeMembers_cons seen r ha]
    cases hb : keyText? b.1 with
    | none =>
      rw [M.takeMembers_cons_of_none seen r hb]
      simp only [M.takeMembers_cons_of_none _ _ hb, Option.bind_fun_none]
    | some k =>
      rw [M.takeMembers_cons seen r hb]
      simp only [M.takeMembers_cons _ _ ha, M.takeMembers_cons _ _ hb]
      by_cases hnk : n = k
      · -- Twice the same name: harmless if it is unknown, refused in both orders if it is a field.
        subst hnk
        cases hn : (shape.field? n).isSome with
        | false =>
          have hid : ∀ (seen : List String) (v : Value), M.effect seen n v = some id := by
            intro seen v
            rw [effect, if_pos (by simpa using hn)]
          simp only [hid, Option.bind_some]
        | true =>
          simp only [M.effect_of_mem List.mem_cons_self hn, Option.bind_none, Option.bind_fun_none]
      · -- Different names: neither sees the other, and their changes commute.
        simp only [M.effect_cons seen hnk, M.effect_cons seen (Ne.symm hnk)]
        cases hs : M.effect seen n a.2 with
        | none => simp
        | some s =>
          cases ht : M.effect seen k b.2 with
          | none => simp
          | some t =>
            simp only [Option.bind_some, M.effect_comm hnk hs ht r]
            apply M.takeMembers_congr_seen
            intro x _ _
            simp only [List.mem_cons]
            exact or_left_comm

/-- The order of members does not matter. -/
theorem takeMembers_perm (M : Interpretation shape) {ms ns : List (List Nat × Value)}
    (h : ms.Perm ns) : ∀ (seen : List String) (r : ρ),
      M.takeMembers seen r ms = M.takeMembers seen r ns := by
  induction h with
  | nil =>
    intro seen r
    rfl
  | cons m _ ih =>
    intro seen r
    rw [takeMembers, takeMembers]
    congr 1
    funext p
    exact ih (p.1 :: seen) p.2
  | swap a b ms =>
    intro seen r
    exact M.takeMembers_swap seen r b a ms
  | trans _ _ ih ih' =>
    intro seen r
    rw [ih, ih']

/-- Any member may come first. -/
theorem takeMembers_middle (M : Interpretation shape) (seen : List String) (r : ρ)
    (before : List (List Nat × Value)) (m : List Nat × Value) (after : List (List Nat × Value)) :
    M.takeMembers seen r (before ++ m :: after) = M.takeMembers seen r (m :: (before ++ after)) :=
  M.takeMembers_perm List.perm_middle seen r

/-- A field that was seen before may not come again, wherever it stands. -/
theorem takeMembers_of_mem (M : Interpretation shape) {n : String}
    (hn : (shape.field? n).isSome) : ∀ {ms : List (List Nat × Value)} {seen : List String} (r : ρ),
      n ∈ seen → GivesKey n ms → M.takeMembers seen r ms = none := by
  intro ms
  induction ms with
  | nil =>
    intro seen r _ h
    obtain ⟨m, hm, -⟩ := h
    exact absurd hm List.not_mem_nil
  | cons m ms ih =>
    intro seen r hseen h
    cases hm : keyText? m.1 with
    | none => exact M.takeMembers_cons_of_none seen r hm ms
    | some k =>
      rw [M.takeMembers_cons seen r hm]
      by_cases hk : k = n
      · rw [hk, M.effect_of_mem hseen hn, Option.bind_none]
      · have htail : GivesKey n ms := by
          obtain ⟨m', hmem, hm'⟩ := h
          rcases List.mem_cons.mp hmem with rfl | hmem
          · rw [hm, Option.some.injEq] at hm'
            exact absurd hm' hk
          · exact ⟨m', hmem, hm'⟩
        simp only [ih _ (List.mem_cons_of_mem k hseen) htail, Option.bind_fun_none]

/-- No field may be given twice. -/
theorem takeMembers_of_repeated (M : Interpretation shape) {n : String}
    (hn : (shape.field? n).isSome) {before between after : List (List Nat × Value)}
    {a b : List Nat × Value} (ha : keyText? a.1 = some n) (hb : keyText? b.1 = some n)
    (seen : List String) (r : ρ) :
    M.takeMembers seen r (before ++ a :: (between ++ b :: after)) = none := by
  -- The first of the two may come before all the others, since their order does not matter.
  rw [M.takeMembers_middle, M.takeMembers_cons seen r ha]
  have hrest : GivesKey n (before ++ (between ++ b :: after)) := ⟨b, by simp, hb⟩
  simp only [M.takeMembers_of_mem hn _ List.mem_cons_self hrest, Option.bind_fun_none]

end Interpretation

end FrontendPolicy.Json
