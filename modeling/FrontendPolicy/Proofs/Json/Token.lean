import FrontendPolicy.Json.Numeral
import FrontendPolicy.Proofs.Json.Literal

/-!
# Reading space, numbers and separators

The small steps between the values of a document, each taken on a text of the grammar followed by
more text. What follows matters for a number, which must be `Delimited`, as nothing in a number says
that it is over. Which value comes next is told by its first character, whichever way it is written
(`spells_startsWith`).
-/

namespace FrontendPolicy.Json

/-! ## Space -/

theorem isSpaces_nil : IsSpaces [] := fun _ h => by simp at h

/-- Space is skipped up to the next character that is none. -/
theorem skipSpace_append {ws cs : List Char} (h : IsSpaces ws)
    (hc : ∀ c ∈ cs.head?, isSpace c = false) : skipSpace (ws ++ cs) = cs := by
  unfold skipSpace
  induction ws with
  | nil =>
    cases cs with
    | nil => rfl
    | cons c cs => rw [List.nil_append, List.dropWhile_cons_of_neg (by simp [hc c rfl])]
  | cons w ws ih =>
    rw [List.cons_append, List.dropWhile_cons_of_pos (h w List.mem_cons_self)]
    exact ih fun c hc => h c (List.mem_cons_of_mem _ hc)

theorem skipSpace_cons {ws cs : List Char} {c : Char} (h : IsSpaces ws) (hc : isSpace c = false) :
    skipSpace (ws ++ c :: cs) = c :: cs :=
  skipSpace_append h fun d hd => by
    simp only [List.head?_cons, Option.mem_def, Option.some.injEq] at hd
    rw [← hd, hc]

theorem skipSpace_spaces {ws : List Char} (h : IsSpaces ws) : skipSpace ws = [] := by
  have := @skipSpace_append ws [] h (by simp)
  rwa [List.append_nil] at this

/-! ## First characters -/

/-- The characters that a value starts with. -/
def Value.StartsWith : Value → Char → Prop
  | .null, c => c = 'n'
  | .flag true, c => c = 't'
  | .flag false, c => c = 'f'
  | .number _, c => c = '-' ∨ c.isDigit = true
  | .text _, c => c = '"'
  | .list _, c => c = '['
  | .object _, c => c = '\x7b'

theorem isDigits_startsWith {cs : List Char} (h : IsDigits cs) :
    ∃ c tail, cs = c :: tail ∧ c.isDigit = true := by
  obtain ⟨hne, hd⟩ := h
  obtain ⟨c, tail, rfl⟩ := List.exists_cons_of_ne_nil hne
  exact ⟨c, tail, rfl, hd c List.mem_cons_self⟩

theorem isUnsigned_startsWith {cs : List Char} (h : IsUnsigned cs) :
    ∃ c tail, cs = c :: tail ∧ c.isDigit = true := by
  obtain ⟨whole, fraction, exponent, hw | hw, -, -, rfl⟩ := h
  · exact ⟨'0', fraction ++ exponent, by rw [hw]; rfl, by decide⟩
  · obtain ⟨c, tail, rfl, hc⟩ := isDigits_startsWith hw.1
    exact ⟨c, tail ++ (fraction ++ exponent), rfl, hc⟩

/-- The kind of a value shows in its first character. -/
theorem spells_startsWith {v : Value} {cs : List Char} (h : Spells (.value v) cs) :
    ∃ c tail, cs = c :: tail ∧ v.StartsWith c := by
  cases h with
  | null => exact ⟨'n', ['u', 'l', 'l'], rfl, rfl⟩
  | flag b =>
    cases b with
    | true => exact ⟨'t', ['r', 'u', 'e'], rfl, rfl⟩
    | false => exact ⟨'f', ['a', 'l', 's', 'e'], rfl, rfl⟩
  | number h =>
    rcases h with h | ⟨digits, h, rfl⟩
    · obtain ⟨c, tail, rfl, hc⟩ := isUnsigned_startsWith h
      exact ⟨c, tail, rfl, Or.inr hc⟩
    · exact ⟨'-', digits, rfl, Or.inl rfl⟩
  | @text units cs h => exact ⟨'"', cs ++ ['"'], rfl, rfl⟩
  | @list vs cs h => exact ⟨'[', cs, rfl, rfl⟩
  | @object ms cs h => exact ⟨'\x7b', cs, rfl, rfl⟩

/-- A digit is none of the characters with a meaning of their own. -/
theorem ne_of_isDigit {c d : Char} (hc : c.isDigit = true) (hd : d.isDigit = false) : c ≠ d := by
  rintro rfl
  rw [hc] at hd
  exact absurd hd (by simp)

theorem isSpace_of_isDigit {c : Char} (hc : c.isDigit = true) : isSpace c = false := by
  simp only [isSpace, Bool.or_eq_false_iff, decide_eq_false_iff_not]
  exact ⟨⟨⟨ne_of_isDigit hc (by decide), ne_of_isDigit hc (by decide)⟩,
    ne_of_isDigit hc (by decide)⟩, ne_of_isDigit hc (by decide)⟩

/-- A value starts with none of the characters that separate values. -/
theorem Value.StartsWith.notSeparator {v : Value} {c : Char} (h : v.StartsWith c) :
    isSpace c = false ∧ c ≠ ',' ∧ c ≠ ']' ∧ c ≠ '\x7d' := by
  match v, h with
  | .null, rfl | .flag true, rfl | .flag false, rfl | .text _, rfl | .list _, rfl
  | .object _, rfl => decide
  | .number _, .inl rfl => decide
  | .number _, .inr h =>
    exact ⟨isSpace_of_isDigit h, ne_of_isDigit h (by decide), ne_of_isDigit h (by decide),
      ne_of_isDigit h (by decide)⟩

theorem Value.StartsWith.eq_null {v : Value} (h : v.StartsWith 'n') : v = .null := by
  cases v with
  | null => rfl
  | flag b => cases b <;> simp [Value.StartsWith] at h
  | number | text | list | object => simp [Value.StartsWith] at h

theorem Value.StartsWith.eq_true {v : Value} (h : v.StartsWith 't') : v = .flag true := by
  cases v with
  | flag b => cases b <;> simp [Value.StartsWith] at h ⊢
  | null | number | text | list | object => simp [Value.StartsWith] at h

theorem Value.StartsWith.eq_false {v : Value} (h : v.StartsWith 'f') : v = .flag false := by
  cases v with
  | flag b => cases b <;> simp [Value.StartsWith] at h ⊢
  | null | number | text | list | object => simp [Value.StartsWith] at h

theorem Value.StartsWith.eq_text {v : Value} (h : v.StartsWith '"') : ∃ units, v = .text units := by
  cases v with
  | text units => exact ⟨units, rfl⟩
  | flag b => cases b <;> simp [Value.StartsWith] at h
  | null | number | list | object => simp [Value.StartsWith] at h

theorem Value.StartsWith.eq_list {v : Value} (h : v.StartsWith '[') : ∃ vs, v = .list vs := by
  cases v with
  | list vs => exact ⟨vs, rfl⟩
  | flag b => cases b <;> simp [Value.StartsWith] at h
  | null | number | text | object => simp [Value.StartsWith] at h

theorem Value.StartsWith.eq_object {v : Value} (h : v.StartsWith '\x7b') :
    ∃ ms, v = .object ms := by
  cases v with
  | object ms => exact ⟨ms, rfl⟩
  | flag b => cases b <;> simp [Value.StartsWith] at h
  | null | number | text | list => simp [Value.StartsWith] at h

/-! ## Numbers -/

/-- What may follow a value: space, a comma, a closing bracket, or nothing. -/
def Delimited (cs : List Char) : Prop :=
  ∀ c ∈ cs.head?, isSpace c = true ∨ c = ',' ∨ c = ']' ∨ c = '\x7d'

/-- A delimiter does not go on with a number. -/
theorem Delimited.notNumeral {cs : List Char} (h : Delimited cs) :
    startsWithDigit cs = false ∧ ∀ c ∈ cs.head?, c ≠ '.' ∧ c ≠ 'e' ∧ c ≠ 'E' := by
  cases cs with
  | nil => exact ⟨rfl, by simp⟩
  | cons c cs =>
    simp only [startsWithDigit, List.head?_cons, Option.mem_def, Option.some.injEq, forall_eq']
    rcases h c rfl with hs | rfl | rfl | rfl
    · simp only [isSpace, Bool.or_eq_true, decide_eq_true_eq] at hs
      rcases hs with ((rfl | rfl) | rfl) | rfl <;> decide
    · decide
    · decide
    · decide

theorem dropDigits_append {digits rest : List Char} (h : ∀ c ∈ digits, c.isDigit = true)
    (hr : startsWithDigit rest = false) : dropDigits (digits ++ rest) = rest := by
  unfold dropDigits
  induction digits with
  | nil =>
    cases rest with
    | nil => rfl
    | cons c rest =>
      have hc : c.isDigit = false := hr
      rw [List.nil_append, List.dropWhile_cons_of_neg (by simp [hc])]
  | cons c digits ih =>
    rw [List.cons_append, List.dropWhile_cons_of_pos (h c List.mem_cons_self)]
    exact ih fun c hc => h c (List.mem_cons_of_mem _ hc)

theorem scanDigits_of_digits {cs rest : List Char} (e : Cause) (h : IsDigits cs)
    (hr : startsWithDigit rest = false) : ∃ n, scanDigits e (cs ++ rest) = .ok (n, rest) := by
  obtain ⟨c, tail, rfl, hc⟩ := isDigits_startsWith h
  refine ⟨leadingDigits (c :: (tail ++ rest)), ?_⟩
  rw [List.cons_append, scanDigits]
  simp only [hc, if_true]
  rw [dropDigits_append (fun d hd => h.2 d (List.mem_cons_of_mem _ hd)) hr]

theorem scanWhole_of_whole {cs rest : List Char} (e : Cause) (h : IsWhole cs)
    (hr : startsWithDigit rest = false) : ∃ n, scanWhole e (cs ++ rest) = .ok (n, rest) := by
  rcases h with rfl | ⟨hd, hz⟩
  · exact ⟨[0], by simp [scanWhole, hr]⟩
  · obtain ⟨c, tail, rfl, -⟩ := isDigits_startsWith hd
    obtain ⟨n, hn⟩ := scanDigits_of_digits e hd hr
    refine ⟨n, ?_⟩
    rw [← hn, List.cons_append]
    unfold scanWhole
    split
    · -- A zero would have to stand alone.
      rename_i heq
      simp only [List.cons.injEq] at heq
      exact absurd (congrArg some heq.1) hz
    · rfl

theorem scanFraction_of_fraction {cs rest : List Char} (e : Cause) (h : IsFraction cs)
    (hr : startsWithDigit rest = false) (hp : ∀ c ∈ rest.head?, c ≠ '.') :
    ∃ n, scanFraction e (cs ++ rest) = .ok (n, rest) := by
  rcases h with rfl | ⟨digits, hd, rfl⟩
  · refine ⟨[], ?_⟩
    unfold scanFraction
    split
    · rename_i heq
      exact absurd rfl (hp '.' (by rw [← List.nil_append rest, heq]; rfl))
    · rfl
  · exact scanDigits_of_digits e hd hr

theorem splitSign_append {sign digits rest : List Char}
    (hs : sign = [] ∨ sign = ['+'] ∨ sign = ['-']) (hd : IsDigits digits) :
    (splitSign (sign ++ digits ++ rest)).2 = digits ++ rest := by
  rcases hs with rfl | rfl | rfl
  · obtain ⟨c, tail, rfl, hc⟩ := isDigits_startsWith hd
    have hm := ne_of_isDigit hc (d := '-') (by decide)
    have hp := ne_of_isDigit hc (d := '+') (by decide)
    simp [splitSign, hm, hp]
  · rfl
  · rfl

theorem scanExponent_of_exponent {cs rest : List Char} (e : Cause) (h : IsExponent cs)
    (hr : startsWithDigit rest = false) (he : ∀ c ∈ rest.head?, c ≠ 'e' ∧ c ≠ 'E') :
    ∃ x, scanExponent e (cs ++ rest) = .ok (x, rest) := by
  rcases h with rfl | ⟨mark, sign, digits, hm, hs, hd, rfl⟩
  · refine ⟨none, ?_⟩
    cases rest with
    | nil => rfl
    | cons c rest =>
      have hc := he c rfl
      simp [scanExponent, hc.1, hc.2]
  · obtain ⟨n, hn⟩ := scanDigits_of_digits e hd hr
    refine ⟨some ((splitSign (sign ++ digits ++ rest)).1, n), ?_⟩
    have hmark : (decide (mark = 'e') || decide (mark = 'E')) = true := by simpa using hm
    rw [List.cons_append, scanExponent]
    simp only [hmark, if_true, splitSign_append hs hd, hn]

/-- An unsigned number ends where its surroundings go on. -/
theorem scanUnsigned_of_unsigned {cs rest : List Char} (e : Cause) (b : Bool) (h : IsUnsigned cs)
    (hr : Delimited rest) : ∃ n, scanUnsigned e b (cs ++ rest) = .ok (n, rest) := by
  obtain ⟨whole, fraction, exponent, hw, hf, hx, rfl⟩ := h
  obtain ⟨hdigit, hpoint⟩ := hr.notNumeral
  -- Nothing that may come after one of the three parts could belong to it.
  have hexp : startsWithDigit (exponent ++ rest) = false ∧
      ∀ c ∈ (exponent ++ rest).head?, c ≠ '.' := by
    rcases hx with rfl | ⟨mark, sign, digits, rfl | rfl, -, -, rfl⟩
    · exact ⟨hdigit, fun c hc => (hpoint c hc).1⟩
    · exact ⟨rfl, by simp⟩
    · exact ⟨rfl, by simp⟩
  have hfrac : startsWithDigit (fraction ++ (exponent ++ rest)) = false := by
    rcases hf with rfl | ⟨digits, -, rfl⟩
    · exact hexp.1
    · rfl
  obtain ⟨n₁, h₁⟩ := scanWhole_of_whole e hw hfrac
  obtain ⟨n₂, h₂⟩ := scanFraction_of_fraction e hf hexp.1 hexp.2
  obtain ⟨n₃, h₃⟩ := scanExponent_of_exponent e hx hdigit fun c hc => (hpoint c hc).2
  refine ⟨⟨b, n₁, n₂, n₃⟩, ?_⟩
  rw [List.append_assoc, List.append_assoc]
  simp only [scanUnsigned, h₁, h₂, h₃]

/-- A number ends where its surroundings go on. -/
theorem scanNumeral_of_numeral {cs rest : List Char} (e : Cause) (h : IsNumeral cs)
    (hr : Delimited rest) : ∃ n, scanNumeral e (cs ++ rest) = .ok (n, rest) := by
  rcases h with h | ⟨digits, h, rfl⟩
  · obtain ⟨c, tail, rfl, hc⟩ := isUnsigned_startsWith h
    obtain ⟨n, hn⟩ := scanUnsigned_of_unsigned e false h hr
    refine ⟨n, ?_⟩
    rw [← hn, List.cons_append]
    unfold scanNumeral
    split
    · -- The first character is a digit, so it is no sign.
      rename_i heq
      simp only [List.cons.injEq] at heq
      exact absurd heq.1 (ne_of_isDigit hc (by decide))
    · rfl
  · exact scanUnsigned_of_unsigned e true h hr

/-! ## Separators -/

theorem delimited_nil : Delimited [] := fun _ h => by simp at h

theorem delimited_append {ws cs : List Char} (h : IsSpaces ws) (hc : Delimited cs) :
    Delimited (ws ++ cs) := by
  cases ws with
  | nil => exact hc
  | cons w ws =>
    intro c hw
    simp only [List.cons_append, List.head?_cons, Option.mem_def, Option.some.injEq] at hw
    exact Or.inl (hw ▸ h w List.mem_cons_self)

theorem delimited_spaces {ws : List Char} (h : IsSpaces ws) : Delimited ws := by
  rw [← List.append_nil ws]
  exact delimited_append h delimited_nil

/-- The elements after the first one are set off from the one before them. -/
theorem delimited_elements {vs : List Value} {cs : List Char}
    (h : Spells (.elements false vs) cs) (rest : List Char) : Delimited (cs ++ rest) := by
  cases h with
  | listEnd h =>
    rw [List.append_assoc]
    exact delimited_append h (by simp [Delimited])
  | element hl =>
    cases hl with
    | next h =>
      simp only [List.append_assoc]
      exact delimited_append h (by simp [Delimited])

/-- The members after the first one are set off from the one before them. -/
theorem delimited_members {ms : List (List Nat × Value)} {cs : List Char}
    (h : Spells (.members false ms) cs) (rest : List Char) : Delimited (cs ++ rest) := by
  cases h with
  | objectEnd h =>
    rw [List.append_assoc]
    exact delimited_append h (by simp [Delimited])
  | member hl =>
    cases hl with
    | next h =>
      simp only [List.append_assoc]
      exact delimited_append h (by simp [Delimited])

theorem nextElement_of_lead {first : Bool} {lead cs : List Char} {c : Char}
    (hl : Lead first lead) (hc : isSpace c = false) (hb : c ≠ ']') :
    nextElement first (lead ++ c :: cs) = .ok (some (c :: cs)) := by
  cases hl with
  | first h => simp only [nextElement, skipSpace_cons h hc, if_neg hb, if_true]
  | @next ws ws' h h' =>
    rw [List.append_assoc, List.cons_append, nextElement,
      skipSpace_cons h (show isSpace ',' = false by decide)]
    simp only [show ¬ ',' = ']' by decide, Bool.false_eq_true, if_false, if_true,
      skipSpace_cons h' hc, if_neg hb]

theorem nextElement_of_end {ws : List Char} (first : Bool) (h : IsSpaces ws) (rest : List Char) :
    nextElement first (ws ++ ']' :: rest) = .ok none := by
  simp only [nextElement, skipSpace_cons h (show isSpace ']' = false by decide), if_true]

theorem nextKey_of_lead {first : Bool} {lead : List Char} (hl : Lead first lead)
    (cs : List Char) : nextKey first (lead ++ '"' :: cs) = .ok (some cs) := by
  have hq : isSpace '"' = false := by decide
  cases hl with
  | first h =>
    simp only [nextKey, skipSpace_cons h hq, show ¬ '"' = '\x7d' by decide, if_false, if_true]
  | @next ws ws' h h' =>
    rw [List.append_assoc, List.cons_append, nextKey,
      skipSpace_cons h (show isSpace ',' = false by decide)]
    simp only [show ¬ ',' = '\x7d' by decide, Bool.false_eq_true, if_false, if_true,
      skipSpace_cons h' hq]

theorem nextKey_of_end {ws : List Char} (first : Bool) (h : IsSpaces ws) (rest : List Char) :
    nextKey first (ws ++ '\x7d' :: rest) = .ok none := by
  simp only [nextKey, skipSpace_cons h (show isSpace '\x7d' = false by decide), if_true]

theorem scanColon_of_spaces {ws : List Char} (h : IsSpaces ws) (rest : List Char) :
    scanColon (ws ++ ':' :: rest) = .ok rest := by
  simp only [scanColon, skipSpace_cons h (show isSpace ':' = false by decide), if_true]

theorem close_of_spaces {ws : List Char} (b : Bracket) (h : IsSpaces ws) (rest : List Char) :
    close b (ws ++ b.closer :: rest) = (rest, none) := by
  have hb : isSpace b.closer = false := by cases b <;> decide
  simp only [close, skipSpace_cons h hb, if_true]

/-- A list that has more elements does not end here. -/
theorem close_of_lead {lead cs : List Char} (first : Bool) (b : Bracket) {c : Char}
    (hl : Lead first lead) (hc : isSpace c = false) (hb : c ≠ b.closer) :
    (close b (lead ++ c :: cs)).2 ≠ none := by
  cases hl with
  | first h =>
    simp only [close, skipSpace_cons h hc, if_neg hb]
    split
    · cases b with
      | object => simp
      | list => dsimp only; split <;> simp
    · simp
  | @next ws ws' h h' =>
    have hcomma : ¬ ',' = b.closer := by cases b <;> decide
    rw [List.append_assoc, List.cons_append]
    simp only [close, skipSpace_cons h (show isSpace ',' = false by decide), if_neg hcomma, if_true]
    cases b with
    | object => simp
    | list => dsimp only; split <;> simp

end FrontendPolicy.Json
