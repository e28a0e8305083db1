import FrontendPolicy.Proofs.Json.Value

/-!
# Reading string literals

A literal is read as the text of the code units that it spells, whichever spelling each of them
takes, and it is refused if a surrogate among them has no partner. A literal that is passed over
(`skipText_of_spells`) may have surrogates of either sort.
-/

namespace FrontendPolicy.Json

/-! ## Code units of characters -/

theorem isLowSurrogate_iff {n : Nat} :
    isLowSurrogate n = true ↔ 0xDC00 ≤ n ∧ n ≤ 0xDFFF := by
  simp only [isLowSurrogate, Bool.and_eq_true, decide_eq_true_eq]

theorem isHighSurrogate_iff {n : Nat} :
    isHighSurrogate n = true ↔ 0xD800 ≤ n ∧ n ≤ 0xDBFF := by
  simp only [isHighSurrogate, Bool.and_eq_true, decide_eq_true_eq]

/-- No code point of a character is a surrogate. -/
theorem toNat_range (c : Char) : c.toNat < 0xD800 ∨ (0xDFFF < c.toNat ∧ c.toNat < 0x110000) :=
  c.valid

theorem textOfUnits?_low {n : Nat} (h : isLowSurrogate n = true) (units : List Nat) :
    textOfUnits? (n :: units) = none := by
  cases units with
  | nil => simp [textOfUnits?, h]
  | cons m units => simp [textOfUnits?, h]

theorem textOfUnits?_single {n : Nat} (hl : isLowSurrogate n = false)
    (hh : isHighSurrogate n = false) (units : List Nat) :
    textOfUnits? (n :: units) = (textOfUnits? units).map (Char.ofNat n :: ·) := by
  cases units with
  | nil => simp [textOfUnits?, hl, hh]
  | cons m units => simp [textOfUnits?, hl, hh]

theorem textOfUnits?_pair {n m : Nat} (hh : isHighSurrogate n = true)
    (hl : isLowSurrogate m = true) (units : List Nat) :
    textOfUnits? (n :: m :: units) = (textOfUnits? units).map (pairChar n m :: ·) := by
  have hn : isLowSurrogate n = false := by
    rw [isHighSurrogate_iff] at hh
    rw [← Bool.not_eq_true, isLowSurrogate_iff]
    omega
  simp [textOfUnits?, hn, hh, hl]

/-- A first half needs a second half right after it. -/
theorem textOfUnits?_unpaired {n : Nat} (hh : isHighSurrogate n = true) {units : List Nat}
    (h : ∀ m ∈ units.head?, isLowSurrogate m = false) : textOfUnits? (n :: units) = none := by
  cases units with
  | nil => simp [textOfUnits?, hh]
  | cons m units =>
    have hm : isLowSurrogate m = false := h m rfl
    simp [textOfUnits?, hh, hm]

/-- A character starts with a code unit that is no second half. -/
theorem head_unitsOfChar_append (c : Char) (units : List Nat) :
    ∀ m ∈ (unitsOfChar c ++ units).head?, isLowSurrogate m = false := by
  intro m hm
  have hc := toNat_range c
  rw [← Bool.not_eq_true, isLowSurrogate_iff]
  unfold unitsOfChar at hm
  split at hm
  · simp only [List.cons_append, List.head?_cons, Option.mem_def, Option.some.injEq] at hm
    omega
  · simp only [List.cons_append, List.head?_cons, Option.mem_def, Option.some.injEq] at hm
    omega

/-- The code units of a character are read as that character. -/
theorem textOfUnits?_unitsOfChar_append (c : Char) (units : List Nat) :
    textOfUnits? (unitsOfChar c ++ units) = (textOfUnits? units).map (c :: ·) := by
  have hc := toNat_range c
  unfold unitsOfChar
  split
  · have hl : isLowSurrogate c.toNat = false := by
      rw [← Bool.not_eq_true, isLowSurrogate_iff]; omega
    have hh : isHighSurrogate c.toNat = false := by
      rw [← Bool.not_eq_true, isHighSurrogate_iff]; omega
    rw [List.singleton_append, textOfUnits?_single hl hh, Char.ofNat_toNat]
  · rename_i hlarge
    have hh : isHighSurrogate (0xD800 + (c.toNat - 0x10000) / 0x400) = true := by
      rw [isHighSurrogate_iff]; omega
    have hl : isLowSurrogate (0xDC00 + (c.toNat - 0x10000) % 0x400) = true := by
      rw [isLowSurrogate_iff]; omega
    have hpair : pairChar (0xD800 + (c.toNat - 0x10000) / 0x400)
        (0xDC00 + (c.toNat - 0x10000) % 0x400) = c := by
      unfold pairChar
      rw [show 0x10000 + (0xD800 + (c.toNat - 0x10000) / 0x400 - 0xD800) * 0x400
        + (0xDC00 + (c.toNat - 0x10000) % 0x400 - 0xDC00) = c.toNat by omega, Char.ofNat_toNat]
    rw [List.cons_append, List.singleton_append, textOfUnits?_pair hh hl, hpair]

/-- A text is read back from its code units. -/
theorem textOfUnits?_unitsOf (cs : List Char) : textOfUnits? (unitsOf cs) = some cs := by
  induction cs with
  | nil => rfl
  | cons c cs ih =>
    show textOfUnits? (unitsOfChar c ++ unitsOf cs) = some (c :: cs)
    rw [textOfUnits?_unitsOfChar_append, ih]
    rfl

/-! ## Escapes -/

theorem readUnit_of_hexUnit {a b c d : Char} {n : Nat} (h : hexUnit? a b c d = some n)
    (rest : List Char) : readUnit (a :: b :: c :: d :: rest) = .ok (n, rest) := by
  simp only [readUnit, h]

theorem letterEscape_ne_u {c d : Char} (h : letterEscape? c = some d) : c ≠ 'u' := by
  rintro rfl
  rw [show letterEscape? 'u' = none by decide] at h
  exact absurd h (by simp)

theorem readEscape_letter {c d : Char} (h : letterEscape? c = some d) (rest : List Char) :
    readEscape (c :: rest) = .ok (d, rest) := by
  simp only [readEscape, if_neg (letterEscape_ne_u h), h]

theorem skipEscape_letter {c d : Char} (h : letterEscape? c = some d) (rest : List Char) :
    skipEscape (c :: rest) = .ok rest := by
  simp only [skipEscape, if_neg (letterEscape_ne_u h), h]

theorem skipEscape_code {a b c d : Char} {n : Nat} (h : hexUnit? a b c d = some n)
    (rest : List Char) : skipEscape ('u' :: a :: b :: c :: d :: rest) = .ok rest := by
  simp only [skipEscape, if_true, readUnit_of_hexUnit h]

/-- An escaped code unit that is no surrogate spells a character on its own. -/
theorem readEscape_single {a b c d : Char} {n : Nat} (h : hexUnit? a b c d = some n)
    (hl : isLowSurrogate n = false) (hh : isHighSurrogate n = false) (rest : List Char) :
    readEscape ('u' :: a :: b :: c :: d :: rest) = .ok (Char.ofNat n, rest) := by
  simp only [readEscape, if_true, readUnit_of_hexUnit h, hl, hh, Bool.false_eq_true, if_false]

theorem readEscape_low {a b c d : Char} {n : Nat} (h : hexUnit? a b c d = some n)
    (hl : isLowSurrogate n = true) (rest : List Char) :
    (readEscape ('u' :: a :: b :: c :: d :: rest)).toOption = none := by
  simp only [readEscape, if_true, readUnit_of_hexUnit h, hl, Except.toOption]

theorem readEscape_high {a b c d : Char} {n : Nat} (h : hexUnit? a b c d = some n)
    (hh : isHighSurrogate n = true) (rest : List Char) :
    readEscape ('u' :: a :: b :: c :: d :: rest) = readPair n rest := by
  have hl : isLowSurrogate n = false := by
    rw [isHighSurrogate_iff] at hh
    rw [← Bool.not_eq_true, isLowSurrogate_iff]
    omega
  simp only [readEscape, if_true, readUnit_of_hexUnit h, hl, hh, Bool.false_eq_true, if_false]

theorem readPair_pair {high low : Nat} {a b c d : Char} (h : hexUnit? a b c d = some low)
    (hl : isLowSurrogate low = true) (rest : List Char) :
    readPair high ('\\' :: 'u' :: a :: b :: c :: d :: rest) = .ok (pairChar high low, rest) := by
  simp only [readPair, readUnit_of_hexUnit h, hl, if_true]

/-- Where no second half is spelled next, a first half is refused. -/
theorem readPair_unpaired {high : Nat} {units : List Nat} {cs : List Char}
    (h : SpellsText units cs) (hu : ∀ m ∈ units.head?, isLowSurrogate m = false)
    (rest : List Char) : (readPair high (cs ++ '"' :: rest)).toOption = none := by
  cases h with
  | nil => rfl
  | @plain c units cs _ hb =>
    rw [List.cons_append]
    unfold readPair
    split <;> simp_all [Except.toOption]
  | @letter c d units cs he =>
    have hc := letterEscape_ne_u he
    rw [List.cons_append, List.cons_append]
    unfold readPair
    split <;> simp_all [Except.toOption]
  | @code a b c d n units cs he =>
    -- The only spelling that `readPair` would go on with, but not of a second half.
    have hn : isLowSurrogate n = false := hu n rfl
    show (readPair high ('\\' :: 'u' :: a :: b :: c :: d :: (cs ++ '"' :: rest))).toOption = none
    simp only [readPair, readUnit_of_hexUnit he, hn, Bool.false_eq_true, if_false, Except.toOption]

/-- What follows a first half starts with a second half only if it is spelled as one. -/
theorem spells_high_cases {units : List Nat} {cs : List Char} (h : SpellsText units cs) :
    (∀ m ∈ units.head?, isLowSurrogate m = false) ∨
      ∃ a b c d m units' cs', isLowSurrogate m = true ∧ hexUnit? a b c d = some m ∧
        SpellsText units' cs' ∧ units = m :: units' ∧
        cs = '\\' :: 'u' :: a :: b :: c :: d :: cs' := by
  cases h with
  | nil => exact Or.inl (by simp)
  -- Characters and letters spell no second half, only four digits can.
  | plain => exact Or.inl (head_unitsOfChar_append _ _)
  | letter => exact Or.inl (head_unitsOfChar_append _ _)
  | @code a b c d n units' cs' he hr =>
    by_cases hl : isLowSurrogate n = true
    · exact Or.inr ⟨a, b, c, d, n, units', cs', hl, he, hr, rfl, rfl⟩
    · rw [Bool.not_eq_true] at hl
      exact Or.inl (by simpa using hl)

/-! ## Literals -/

theorem readText_quote (done rest : List Char) :
    readText done ('"' :: rest) = .ok (String.ofList done.reverse, rest) := by
  rw [readText]
  rfl

theorem readText_plain {c : Char} (hq : c ≠ '"') (hb : c ≠ '\\') (hc : isControl c = false)
    (done rest : List Char) : readText done (c :: rest) = readText (c :: done) rest := by
  rw [readText, if_neg hq, if_neg hb, if_neg (by simp [hc])]

theorem readText_escape {done cs rest : List Char} {d : Char} (h : readEscape cs = .ok (d, rest)) :
    readText done ('\\' :: cs) = readText (d :: done) rest := by
  rw [readText, if_neg (by decide), if_pos rfl]
  split
  · rename_i he
    rw [h] at he
    exact absurd he (by simp)
  · rename_i he
    rw [h] at he
    simp only [Except.ok.injEq, Prod.mk.injEq] at he
    rw [he.1, he.2]

theorem readText_escape_error {done cs : List Char} (h : (readEscape cs).toOption = none) :
    (readText done ('\\' :: cs)).toOption = none := by
  rw [readText, if_neg (by decide), if_pos rfl]
  split
  · rfl
  · rename_i he
    rw [he] at h
    exact absurd h (by simp [Except.toOption])

/-- A literal is read as the text of its code units, and refused if they are not a text. -/
theorem readText_of_spells {units : List Nat} {cs : List Char} (h : SpellsText units cs)
    (done rest : List Char) : (readText done (cs ++ '"' :: rest)).toOption =
      (textOfUnits? units).map fun t => (String.ofList (done.reverse ++ t), rest) := by
  -- A pair of surrogates is read in one step, so the induction is on the length of the spelling.
  induction hn : cs.length using Nat.strongRecOn generalizing units cs done with
  | _ n ih =>
    subst hn
    have step : ∀ {units' : List Nat} {cs' : List Char} (c : Char), SpellsText units' cs' →
        cs'.length < cs.length → (readText (c :: done) (cs' ++ '"' :: rest)).toOption =
          ((textOfUnits? units').map (c :: ·)).map
            fun t => (String.ofList (done.reverse ++ t), rest) := by
      intro units' cs' c h' hlt
      rw [ih _ hlt h' _ rfl, Option.map_map]
      simp [Function.comp_def]
    cases h with
    | nil => simp [readText_quote, textOfUnits?, Except.toOption]
    | plain hq hb hc hr =>
      rw [List.cons_append, readText_plain hq hb hc, textOfUnits?_unitsOfChar_append]
      exact step _ hr (by simp only [List.length_cons]; omega)
    | letter he hr =>
      rw [List.cons_append, List.cons_append, readText_escape (readEscape_letter he _),
        textOfUnits?_unitsOfChar_append]
      exact step _ hr (by simp only [List.length_cons]; omega)
    | @code _ _ _ _ n _ cs he hr =>
      simp only [List.cons_append]
      by_cases hl : isLowSurrogate n = true
      · rw [readText_escape_error (readEscape_low he hl _), textOfUnits?_low hl]
        rfl
      · rw [Bool.not_eq_true] at hl
        by_cases hh : isHighSurrogate n = true
        · -- A first half takes the unit after it along, if that is a second half.
          rcases spells_high_cases hr with
            hu | ⟨a', b', c', d', m, us, cs', hm, he', hr', rfl, rfl⟩
          · rw [textOfUnits?_unpaired hh hu, readText_escape_error]
            · rfl
            · rw [readEscape_high he hh]
              exact readPair_unpaired hr hu rest
          · have hp := (readEscape_high he hh _).trans (readPair_pair he' hm (cs' ++ '"' :: rest))
            simp only [List.cons_append]
            rw [readText_escape hp, textOfUnits?_pair hh hm]
            exact step _ hr' (by simp only [List.length_cons]; omega)
        · rw [Bool.not_eq_true] at hh
          rw [readText_escape (readEscape_single he hl hh _), textOfUnits?_single hl hh]
          exact step _ hr (by simp only [List.length_cons]; omega)

/-- A literal is passed over whatever it spells. -/
theorem skipText_of_spells {units : List Nat} {cs : List Char} (h : SpellsText units cs)
    (rest : List Char) : skipText (cs ++ '"' :: rest) = .ok rest := by
  have escaped : ∀ {cs cs' : List Char}, skipEscape cs = .ok cs' →
      skipText ('\\' :: cs) = skipText cs' := by
    intro cs cs' he
    rw [skipText, if_neg (by decide), if_pos rfl]
    split
    · rename_i he'
      rw [he] at he'
      exact absurd he' (by simp)
    · rename_i he'
      rw [he, Except.ok.injEq] at he'
      rw [he']
  induction h with
  | nil =>
    rw [List.nil_append, skipText]
    rfl
  | plain hq hb hc _ ih =>
    rw [List.cons_append, skipText, if_neg hq, if_neg hb, if_neg (by simp [hc]), ih]
  | letter he _ ih =>
    rw [List.cons_append, List.cons_append, escaped (skipEscape_letter he _), ih]
  | code he _ ih =>
    simp only [List.cons_append]
    rw [escaped (skipEscape_code he _), ih]

end FrontendPolicy.Json
