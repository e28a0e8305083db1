import FrontendPolicy.Json.Skip
import FrontendPolicy.Proofs.Json.Token

/-!
# Passing over a value

A value that nobody asked for is passed over with a stack of open brackets. Whatever is on the
stack, a value of the grammar is taken off the text exactly, however deep it is, and the work goes
on after it with the same stack. The induction is on the grammar, for all stacks at once.
-/

namespace FrontendPolicy.Json

/-! ## Going on after a value -/

/-- What is left to do inside the open brackets of `stack`, right after a value or, where `opened`
is set, right after the innermost bracket. -/
def resume (opened : Bool) (stack : List Bracket) (cs : List Char) :
    Except Failure (List Char) :=
  match settle opened cs stack with
  | .error f => .error f
  | .ok ([], rest) => .ok rest
  | .ok (b :: outer, rest) => skipFrom (b :: outer) rest

theorem skipFrom_of_scanStart {stack : List Bracket} {cs inner : List Char}
    {opened : Option Bracket} (h : scanStart cs = .ok (opened, inner)) :
    skipFrom stack cs = resume opened.isSome (opened.toList ++ stack) inner := by
  rw [skipFrom, resume]
  split
  · rename_i hs
    rw [h] at hs
    exact absurd hs (by simp)
  · rename_i hs
    rw [h] at hs
    simp only [Except.ok.injEq, Prod.mk.injEq] at hs
    obtain ⟨rfl, rfl⟩ := hs
    split <;> simp_all

theorem resume_of_end {bracket : Bracket} {ws : List Char} (opened : Bool) (h : IsSpaces ws)
    (stack : List Bracket) (rest : List Char) :
    resume opened (bracket :: stack) (ws ++ bracket.closer :: rest) = resume false stack rest := by
  have hb : isSpace bracket.closer = false := by cases bracket <;> decide
  simp only [resume, settle, skipSpace_cons h hb, if_true]

/-- Inside a bracket, what comes next is entered once its lead is taken. -/
theorem resume_of_lead {first : Bool} {lead cs inner : List Char} {c : Char} (bracket : Bracket)
    (hl : Lead first lead) (hc : isSpace c = false) (hb : c ≠ bracket.closer)
    (he : ∀ ws, IsSpaces ws →
      ∃ ws', IsSpaces ws' ∧ enter bracket (ws ++ c :: cs) = .ok (ws' ++ inner))
    (stack : List Bracket) :
    ∃ ws', IsSpaces ws' ∧ resume first (bracket :: stack) (lead ++ c :: cs) =
      skipFrom (bracket :: stack) (ws' ++ inner) := by
  cases hl with
  | first h =>
    obtain ⟨ws', hws', he'⟩ := he [] isSpaces_nil
    rw [List.nil_append] at he'
    refine ⟨ws', hws', ?_⟩
    simp only [resume, settle, skipSpace_cons h hc, if_neg hb, if_true, he', Except.map]
  | @next ws ws₁ h h₁ =>
    obtain ⟨ws', hws', he'⟩ := he ws₁ h₁
    have hcomma : isSpace ',' = false := by decide
    have hne : ¬ ',' = bracket.closer := by cases bracket <;> decide
    refine ⟨ws', hws', ?_⟩
    rw [List.append_assoc, List.cons_append]
    simp only [resume, settle, skipSpace_cons h hcomma, if_neg hne, Bool.false_eq_true, if_false,
      if_true, he', Except.map]

/-- The key of a member is passed over together with its colon. -/
theorem enter_object {key : List Nat} {name ws ws' : List Char} (hk : SpellsText key name)
    (hw : IsSpaces ws) (hw' : IsSpaces ws') (rest : List Char) :
    enter .object (ws ++ '"' :: (name ++ '"' :: (ws' ++ ':' :: rest))) = .ok rest := by
  simp only [enter, skipSpace_cons hw (show isSpace '"' = false by decide), if_true,
    skipText_of_spells hk, scanColon_of_spaces hw']

/-! ## Plain values -/

theorem scanStart_word {ws : List Char} (h : IsSpaces ws) {v : Value}
    (hv : v = .null ∨ ∃ b, v = .flag b) {cs : List Char} (hs : Spells (.value v) cs)
    (rest : List Char) : scanStart (ws ++ (cs ++ rest)) = .ok (none, rest) := by
  rcases hv with rfl | ⟨b, rfl⟩
  · cases hs
    rw [nullText, List.cons_append, scanStart, skipSpace_cons h (by decide)]
    rfl
  · cases hs
    cases b with
    | true =>
      rw [flagText, List.cons_append, scanStart, skipSpace_cons h (by decide)]
      rfl
    | false =>
      rw [flagText, List.cons_append, scanStart, skipSpace_cons h (by decide)]
      rfl

theorem scanStart_number {ws cs rest : List Char} (h : IsSpaces ws) (hn : IsNumeral cs)
    (hr : Delimited rest) : scanStart (ws ++ (cs ++ rest)) = .ok (none, rest) := by
  obtain ⟨c, tail, rfl, hc⟩ := spells_startsWith (Spells.number hn)
  obtain ⟨n, hscan⟩ := scanNumeral_of_numeral .badNumber hn hr
  have hsign : (decide (c = '-') || c.isDigit) = true := by simpa [Value.StartsWith] using hc
  have hword : c ≠ 'n' ∧ c ≠ 't' ∧ c ≠ 'f' := by
    rcases hc with rfl | hd
    · decide
    · exact ⟨ne_of_isDigit hd (by decide), ne_of_isDigit hd (by decide),
        ne_of_isDigit hd (by decide)⟩
  rw [List.cons_append] at hscan ⊢
  simp only [scanStart, skipSpace_cons h hc.notSeparator.1, if_neg hword.1, if_neg hword.2.1,
    if_neg hword.2.2, hsign, if_true, hscan, mapValue]

theorem scanStart_text {units : List Nat} {ws cs : List Char} (h : IsSpaces ws)
    (ht : SpellsText units cs) (rest : List Char) :
    scanStart (ws ++ ('"' :: cs ++ ['"'] ++ rest)) = .ok (none, rest) := by
  rw [List.append_assoc, List.cons_append, List.singleton_append, scanStart,
    skipSpace_cons h (by decide)]
  simp [Char.isDigit, skipText_of_spells ht]

theorem scanStart_bracket {ws : List Char} (h : IsSpaces ws) (rest : List Char) :
    scanStart (ws ++ '[' :: rest) = .ok (some .list, rest) ∧
      scanStart (ws ++ '\x7b' :: rest) = .ok (some .object, rest) := by
  constructor
  · rw [scanStart, skipSpace_cons h (by decide)]
    rfl
  · rw [scanStart, skipSpace_cons h (by decide)]
    rfl

/-! ## Values of any depth -/

/-- A part of a document leads back to the brackets that were open before it. -/
def Skipped : Part → List Char → Prop
  | .value _, cs => ∀ stack ws rest, IsSpaces ws → Delimited rest →
      skipFrom stack (ws ++ (cs ++ rest)) = resume false stack rest
  | .elements first _, cs => ∀ stack rest,
      resume first (.list :: stack) (cs ++ rest) = resume false stack rest
  | .members first _, cs => ∀ stack rest,
      resume first (.object :: stack) (cs ++ rest) = resume false stack rest

/-- Every part of the grammar is passed over, whatever brackets are open around it. -/
theorem skipped_of_spells {p : Part} {cs : List Char} (h : Spells p cs) : Skipped p cs := by
  -- The stack grows in the cases of the brackets, so the induction is for all stacks at once.
  induction h with
  | null =>
    intro stack ws rest hw _
    exact skipFrom_of_scanStart (scanStart_word hw (Or.inl rfl) .null rest)
  | flag b =>
    intro stack ws rest hw _
    exact skipFrom_of_scanStart (scanStart_word hw (Or.inr ⟨b, rfl⟩) (.flag b) rest)
  | number hn =>
    intro stack ws rest hw hr
    exact skipFrom_of_scanStart (scanStart_number hw hn hr)
  | text ht =>
    intro stack ws rest hw _
    exact skipFrom_of_scanStart (scanStart_text hw ht rest)
  | list _ ih =>
    intro stack ws rest hw _
    exact (skipFrom_of_scanStart (scanStart_bracket hw _).1).trans (ih stack rest)
  | object _ ih =>
    intro stack ws rest hw _
    exact (skipFrom_of_scanStart (scanStart_bracket hw _).2).trans (ih stack rest)
  | listEnd hw =>
    intro stack rest
    rw [List.append_assoc]
    exact resume_of_end _ hw stack rest
  | @element first v vs lead cs tail hl hv hr ihv ihr =>
    intro stack rest
    obtain ⟨c, cs', rfl, hc⟩ := spells_startsWith hv
    obtain ⟨hspace, -, hclose, -⟩ := hc.notSeparator
    -- An element is entered as it is, while a key and a colon come before a member.
    obtain ⟨ws', hw', hlead⟩ : ∃ ws', IsSpaces ws' ∧
        resume first (.list :: stack) (lead ++ c :: (cs' ++ (tail ++ rest))) =
          skipFrom (.list :: stack) (ws' ++ c :: (cs' ++ (tail ++ rest))) :=
      resume_of_lead .list hl hspace hclose (fun ws hws => ⟨ws, hws, rfl⟩) stack
    have := ihv (.list :: stack) ws' (tail ++ rest) hw' (delimited_elements hr rest)
    simp only [List.append_assoc, List.cons_append] at this ⊢
    rw [hlead, this]
    exact ihr stack rest
  | objectEnd hw =>
    intro stack rest
    rw [List.append_assoc]
    exact resume_of_end _ hw stack rest
  | @member first key v ms lead name ws ws' cs tail hl hk hw hw' hv hr ihv ihr =>
    intro stack rest
    obtain ⟨ws'', hw'', hlead⟩ := resume_of_lead .object hl (show isSpace '"' = false by decide)
      (show '"' ≠ Bracket.object.closer by decide)
      (fun ws₁ hws₁ => ⟨ws', hw', enter_object hk hws₁ hw (ws' ++ (cs ++ (tail ++ rest)))⟩) stack
    have := ihv (.object :: stack) ws'' (tail ++ rest) hw'' (delimited_members hr rest)
    simp only [List.append_assoc, List.cons_append] at this ⊢
    rw [hlead, this]
    exact ihr stack rest

/-- A value is passed over up to its end. -/
theorem skip_of_spells {v : Value} {cs ws rest : List Char} (h : Spells (.value v) cs)
    (hw : IsSpaces ws) (hr : Delimited rest) :
    Reader.skip.run (ws ++ (cs ++ rest)) = .ok ((), rest) := by
  have hs : skipFrom [] (ws ++ (cs ++ rest)) = .ok rest :=
    skipped_of_spells h [] ws rest hw hr
  show (skipFrom [] (ws ++ (cs ++ rest))).map ((), ·) = .ok ((), rest)
  rw [hs]
  rfl

end FrontendPolicy.Json
