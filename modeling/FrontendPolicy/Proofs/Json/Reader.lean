import FrontendPolicy.Json.Reader
import FrontendPolicy.Proofs.Json.Token

/-!
# What readers make of values

A reader of this library sees only the value that a text is a way to write. For each reader there is
a function from values that says what it makes of them, or that it refuses them. `Reader.Reads` is
the bond between the two, and `Reader.Reads.whole` the same bond for whole texts. Once it is proved
for a reader, texts play no part in what is said about it.
-/

namespace FrontendPolicy.Json

variable {α β : Type}

/-! ## The bond -/

/-- The reader takes every value off a text, however the value is written: it gives what the value
means and leaves what follows it, and it fails where the value means nothing. -/
def Reader.Reads (r : Reader α) (meaning : Value → Option α) : Prop :=
  ∀ ⦃v : Value⦄ ⦃ws cs rest : List Char⦄, IsSpaces ws → Spells (.value v) cs → Delimited rest →
    (r.run (ws ++ (cs ++ rest))).toOption = (meaning v).map (·, rest)

theorem toOption_eq_some {r : Except Failure (α × List Char)} {p : α × List Char}
    (h : r.toOption = some p) : r = .ok p := by
  cases r with
  | error => exact absurd h (by simp [Except.toOption])
  | ok a =>
    simp only [Except.toOption, Option.some.injEq] at h
    rw [h]

theorem toOption_eq_none {r : Except Failure (α × List Char)} (h : r.toOption = none) :
    ∃ f, r = .error f := by
  cases r with
  | error f => exact ⟨f, rfl⟩
  | ok a => exact absurd h (by simp [Except.toOption])

theorem toOption_mapValue (f : α → β) (r : Except Failure (α × List Char)) :
    (mapValue f r).toOption = r.toOption.map fun p => (f p.1, p.2) := by
  cases r <;> rfl

/-- What follows the space before a value is its first character. -/
theorem skipSpace_of_spells {v : Value} {ws cs : List Char} (hw : IsSpaces ws)
    (hv : Spells (.value v) cs) (rest : List Char) :
    ∃ c tail, v.StartsWith c ∧ cs = c :: tail ∧
      skipSpace (ws ++ (cs ++ rest)) = c :: (tail ++ rest) := by
  obtain ⟨c, tail, rfl, hc⟩ := spells_startsWith hv
  exact ⟨c, tail, hc, rfl, skipSpace_cons hw hc.notSeparator.1⟩

theorem Reader.Reads.map {r : Reader α} {meaning : Value → Option α} (h : r.Reads meaning)
    (f : α → β) : (r.map f).Reads fun v => (meaning v).map f := by
  intro v ws cs rest hw hv hr
  show (mapValue f (r.run (ws ++ (cs ++ rest)))).toOption = _
  rw [toOption_mapValue, h hw hv hr, Option.map_map, Option.map_map]
  rfl

/-! ## Plain values -/

/-- The text that a value is. -/
def Value.text? : Value → Option String
  | .text units => (textOfUnits? units).map String.ofList
  | _ => none

theorem text?_unitsOf (s : String) : Value.text? (.text (unitsOf s.toList)) = some s := by
  rw [Value.text?, textOfUnits?_unitsOf, Option.map_some, String.ofList_toList]

/-- The truth value that a value is. -/
def Value.flag? : Value → Option Bool
  | .flag b => some b
  | _ => none

/-- What a value means where `null` stands for nothing. -/
def Value.optional? (meaning : Value → Option α) : Value → Option (Option α)
  | .null => some none
  | v => (meaning v).map some

/-- The list of what the elements of a list mean. -/
def Value.list? (meaning : Value → Option α) : Value → Option (List α)
  | .list vs => vs.mapM meaning
  | _ => none

theorem reads_text (expected : String) : (Reader.text expected).Reads Value.text? := by
  intro v ws cs rest hw hv _
  obtain ⟨c, tail, hc, hcs, hs⟩ := skipSpace_of_spells hw hv rest
  simp only [Reader.text, hs]
  split
  · rename_i heq
    simp only [List.cons.injEq] at heq
    obtain ⟨rfl, rfl⟩ := heq
    obtain ⟨units, rfl⟩ := hc.eq_text
    cases hv with
    | text h =>
      simp only [List.cons_append, List.cons.injEq, true_and] at hcs
      rw [← hcs, List.append_assoc, List.singleton_append, readText_of_spells h]
      simp [Value.text?, Function.comp_def]
  · -- Nothing but a text starts with a quote, and nothing else is one.
    rename_i hne
    cases v with
    | text units => exact absurd (congrArg (· :: _) hc) (hne _)
    | null | flag | number | list | object => rfl

theorem readWord_append {α : Type} (value : α) (word rest : List Char) :
    readWord value word (word ++ rest) = .ok (value, rest) := by
  have hs : scanWord word (word ++ rest) = .ok rest := by
    induction word with
    | nil => rfl
    | cons w word ih => rw [List.cons_append, scanWord, if_pos rfl, ih]
  rw [readWord, hs]

theorem reads_flag : Reader.flag.Reads Value.flag? := by
  intro v ws cs rest hw hv _
  obtain ⟨c, tail, hc, hcs, hs⟩ := skipSpace_of_spells hw hv rest
  simp only [Reader.flag, hs]
  split
  · rename_i heq
    simp only [List.cons.injEq] at heq
    obtain ⟨rfl, rfl⟩ := heq
    obtain rfl := hc.eq_true
    cases hv
    simp only [flagText, List.cons.injEq, true_and] at hcs
    rw [← hcs, readWord_append]
    rfl
  · rename_i heq
    simp only [List.cons.injEq] at heq
    obtain ⟨rfl, rfl⟩ := heq
    obtain rfl := hc.eq_false
    cases hv
    simp only [flagText, List.cons.injEq, true_and] at hcs
    rw [← hcs, readWord_append]
    rfl
  · rename_i ht hf
    cases v with
    | flag b =>
      cases b with
      | true => exact absurd (congrArg (· :: _) hc) (ht _)
      | false => exact absurd (congrArg (· :: _) hc) (hf _)
    | null | text | number | list | object => rfl

theorem Reader.Reads.optional {r : Reader α} {meaning : Value → Option α} (h : r.Reads meaning) :
    r.optional.Reads (Value.optional? meaning) := by
  intro v ws cs rest hw hv hr
  obtain ⟨c, tail, hc, hcs, hs⟩ := skipSpace_of_spells hw hv rest
  simp only [Reader.optional, hs]
  split
  · rename_i heq
    simp only [List.cons.injEq] at heq
    obtain ⟨rfl, rfl⟩ := heq
    obtain rfl := hc.eq_null
    cases hv
    simp only [nullText, List.cons.injEq, true_and] at hcs
    rw [← hcs, readWord_append]
    rfl
  · rename_i hne
    rw [toOption_mapValue, h hw hv hr]
    cases v with
    | null => exact absurd (congrArg (· :: _) hc) (hne _)
    | flag | text | number | list | object =>
      simp [Value.optional?, Function.comp_def]

/-! ## Lists -/

theorem readElements_end {r : Reader α} {done : List α} {cs : List Char}
    (h : nextElement done.isEmpty cs = .ok none) :
    readElements r done cs = .ok (done.reverse, cs) := by
  rw [readElements]
  split <;> simp_all

theorem readElements_more {r : Reader α} {done : List α} {cs start : List Char}
    (h : nextElement done.isEmpty cs = .ok (some start)) :
    readElements r done cs = match r.run start with
      | .error f => .error f
      | .ok (a, rest) => readElements r (a :: done) rest := by
  rw [readElements]
  split
  · simp_all
  · simp_all
  · rename_i hs
    rw [h, Except.ok.injEq, Option.some.injEq] at hs
    subst hs
    split <;> simp_all

theorem leave_of_spaces (b : Bracket) (a : α) {ws : List Char} (h : IsSpaces ws)
    (rest : List Char) : leave b (.ok (a, ws ++ b.closer :: rest)) = .ok (a, rest) := by
  simp only [leave, close_of_spaces b h]

/-- The elements that are left of a list are read one by one up to its end. -/
theorem readElements_of_spells {r : Reader α} {meaning : Value → Option α} (h : r.Reads meaning)
    {vs : List Value} : ∀ (done : List α) {cs : List Char},
      Spells (.elements done.isEmpty vs) cs → ∀ rest : List Char,
        (leave .list (readElements r done (cs ++ rest))).toOption =
          (vs.mapM meaning).map fun as => (done.reverse ++ as, rest) := by
  induction vs with
  | nil =>
    intro done cs hs rest
    cases hs with
    | listEnd hw =>
      rw [List.append_assoc, List.singleton_append, readElements_end (nextElement_of_end _ hw _),
        show ']' = Bracket.list.closer from rfl, leave_of_spaces .list _ hw]
      simp [Except.toOption]
  | cons v vs ih =>
    intro done cs hs rest
    cases hs with
    | @element _ _ _ lead cs tail hl hv hr =>
      obtain ⟨c, cs', rfl, hc⟩ := spells_startsWith hv
      obtain ⟨hspace, -, hclose, -⟩ := hc.notSeparator
      have hrun := h isSpaces_nil hv (delimited_elements hr rest)
      simp only [List.append_assoc, List.cons_append, List.nil_append] at hrun ⊢
      rw [readElements_more (nextElement_of_lead hl hspace hclose), List.mapM_cons]
      cases hm : meaning v with
      | none =>
        -- An element that fails fails the list, wherever the fault is placed.
        rw [hm] at hrun
        obtain ⟨f, hf⟩ := toOption_eq_none hrun
        rw [hf]
        cases f <;> rfl
      | some a =>
        rw [hm] at hrun
        rw [toOption_eq_some hrun]
        have := ih (a :: done) hr rest
        simp only [this]
        cases vs.mapM meaning <;> simp

theorem Reader.Reads.list {r : Reader α} {meaning : Value → Option α} (h : r.Reads meaning) :
    r.list.Reads (Value.list? meaning) := by
  intro v ws cs rest hw hv _
  obtain ⟨c, tail, hc, hcs, hs⟩ := skipSpace_of_spells hw hv rest
  simp only [Reader.list, hs]
  split
  · rename_i heq
    simp only [List.cons.injEq] at heq
    obtain ⟨rfl, rfl⟩ := heq
    obtain ⟨vs, rfl⟩ := hc.eq_list
    cases hv with
    | list hvs =>
      simp only [List.cons.injEq, true_and] at hcs
      subst hcs
      exact readElements_of_spells h [] hvs rest
  · rename_i hne
    cases v with
    | list vs => exact absurd (congrArg (· :: _) hc) (hne _)
    | null | flag | number | text | object => rfl

/-! ## Whole texts -/

/-- A reader makes of a whole text what the value means that the text is a way to write. -/
theorem Reader.Reads.whole {r : Reader α} {meaning : Value → Option α} (h : r.Reads meaning)
    {v : Value} {text : String} (hv : v.WrittenAs text) :
    (r.whole text).toOption = meaning v := by
  obtain ⟨hw, hs, hw', ht⟩ := hv
  have hrun := h hw hs (delimited_spaces hw')
  rw [← ht] at hrun
  unfold Reader.whole
  cases hm : meaning v with
  | none =>
    rw [hm] at hrun
    obtain ⟨f, hf⟩ := toOption_eq_none hrun
    rw [hf]
    rfl
  | some a =>
    rw [hm] at hrun
    rw [toOption_eq_some hrun]
    simp only [skipSpace_spaces hw']
    rfl

theorem Reader.Reads.whole_eq_ok_iff {r : Reader α} {meaning : Value → Option α}
    (h : r.Reads meaning) {v : Value} {text : String} (hv : v.WrittenAs text) {a : α} :
    r.whole text = .ok a ↔ meaning v = some a := by
  rw [← h.whole hv]
  cases r.whole text <;> simp [Except.toOption]

theorem Reader.Reads.whole_eq_error {r : Reader α} {meaning : Value → Option α}
    (h : r.Reads meaning) {v : Value} {text : String} (hv : v.WrittenAs text)
    (hm : meaning v = none) : ∃ e, r.whole text = .error e := by
  cases hr : r.whole text with
  | error e => exact ⟨e, rfl⟩
  | ok a =>
    rw [h.whole_eq_ok_iff hv, hm] at hr
    exact absurd hr (by simp)

end FrontendPolicy.Json
