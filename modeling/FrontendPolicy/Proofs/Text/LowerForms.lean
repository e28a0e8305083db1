import FrontendPolicy.Proofs.Text.Lowercase
import FrontendPolicy.Proofs.Text.Trim
import FrontendPolicy.Proofs.Text.Utf8

/-!
# Lower-case forms

What can be in a text that was lower-cased. The table of mappings decides it: none of its runs leads
to a character that another run maps on, to a blank, or to one of the two characters with a rule of
their own. These are checks of the table, run against run (`lowerSpans_miss`,
`lowerSpans_unreached`). All else here takes them to characters, and from characters to texts.
-/

namespace FrontendPolicy.Text

/-! ## The runs of the table -/

/-- Whether no form of a run is a code point of another run. The forms lie before the other run,
after it, or in the gaps that its stride leaves. -/
def LowerSpan.misses (s t : LowerSpan) : Bool :=
  Nat.blt (s.target + (s.last - s.first)) t.first || Nat.blt t.last s.target ||
    (Nat.ble t.first s.target && (s.last == s.first || s.stride % t.stride == 0) &&
      (s.target - t.first) % t.stride != 0)

theorem lowerSpans_miss : (lowerSpans.all fun s => lowerSpans.all s.misses) = true := by
  decide +kernel

/-- The code points that no run leads to: the blanks, the capital I with dot, the capital sigma and
the surrogates. -/
def unreachedRanges : Ranges :=
  [(0x9, 0xD), (0x20, 0x20), (0x85, 0x85), (0xA0, 0xA0), (0x130, 0x130), (0x3A3, 0x3A3),
    (0x1680, 0x1680), (0x2000, 0x200A), (0x2028, 0x2029), (0x202F, 0x202F), (0x205F, 0x205F),
    (0x3000, 0x3000), (0xD800, 0xDFFF)]

theorem lowerSpans_unreached : ∀ s ∈ lowerSpans, s.target + (s.last - s.first) < 0x110000 ∧
    ∀ r ∈ unreachedRanges, s.target + (s.last - s.first) < r.1 ∨ r.2 < s.target := by
  decide +kernel

theorem LowerSpan.Holds.not_of_misses {s t : LowerSpan} (h : s.misses t = true) {n : Nat}
    (hn : s.Holds n) : ¬t.Holds (s.target + (n - s.first)) := by
  intro ht
  have hfirst := hn.first
  have hlast := hn.last
  have hstart := ht.first
  have hend := ht.last
  simp only [misses, Nat.blt_eq, Nat.ble_eq, Bool.or_eq_true, Bool.and_eq_true, beq_iff_eq,
    bne_iff_ne] at h
  rcases h with (hbefore | hafter) | ⟨⟨hle, hstep⟩, hgap⟩
  · omega
  · omega
  · -- The form keeps the distance of the target to the other run, up to whole strides.
    have hmultiple : (n - s.first) % t.stride = 0 := by
      rcases hstep with hsingle | hstep
      · have hzero : n - s.first = 0 := by omega
        rw [hzero, Nat.zero_mod]
      · have hdvd : t.stride ∣ s.stride := Nat.dvd_of_mod_eq_zero hstep
        exact Nat.mod_eq_zero_of_dvd (Nat.dvd_trans hdvd (Nat.dvd_of_mod_eq_zero hn.stride))
    have hdistance : s.target + (n - s.first) - t.first =
        (s.target - t.first) + (n - s.first) := by omega
    have hstride := ht.stride
    rw [hdistance, Nat.add_mod, hmultiple, Nat.add_zero, Nat.mod_mod] at hstride
    exact hgap hstride

/-- A form is mapped no further. -/
theorem lowerCode_lowerCode (n : Nat) :
    lowerCode lowerSpans (lowerCode lowerSpans n) = lowerCode lowerSpans n := by
  rcases lowerCode_cases lowerSpans n with h | ⟨s, hs, hn, h⟩
  · rw [h, h]
  · rw [h]
    rcases lowerCode_cases lowerSpans (s.target + (n - s.first)) with hm | ⟨t, ht, hm, -⟩
    · exact hm
    · have hmisses : s.misses t = true :=
        List.all_eq_true.mp (List.all_eq_true.mp lowerSpans_miss s hs) t ht
      exact absurd hm (hn.not_of_misses hmisses)

/-! ## Characters -/

/-- A code point stays as it is or is mapped to one that some run leads to. -/
theorem lowerCode_reached (n : Nat) : lowerCode lowerSpans n = n ∨
    lowerCode lowerSpans n < 0x110000 ∧
      ∀ r ∈ unreachedRanges, lowerCode lowerSpans n < r.1 ∨ r.2 < lowerCode lowerSpans n := by
  rcases lowerCode_cases lowerSpans n with h | ⟨s, hs, hn, h⟩
  · exact Or.inl h
  · have hlast := hn.last
    obtain ⟨hbound, hranges⟩ := lowerSpans_unreached s hs
    right
    constructor
    · omega
    · intro r hr
      have := hranges r hr
      omega

/-- The form of a character is a character. -/
theorem toNat_lowerChar (c : Char) : (lowerChar c).toNat = lowerCode lowerSpans c.toNat := by
  rcases lowerCode_reached c.toNat with h | ⟨hbound, hout⟩
  · rw [lowerChar, h, Char.ofNat_toNat]
  · have hsurrogates := hout (0xD800, 0xDFFF) (by decide)
    rw [lowerChar]
    apply toNat_charOfNat
    omega

/-- A character stays as it is or has a form that some run leads to. -/
theorem lowerChar_cases (c : Char) : lowerChar c = c ∨
    ∀ r ∈ unreachedRanges, (lowerChar c).toNat < r.1 ∨ r.2 < (lowerChar c).toNat := by
  rcases lowerCode_reached c.toNat with h | ⟨-, hout⟩
  · left
    rw [lowerChar, h, Char.ofNat_toNat]
  · right
    rw [toNat_lowerChar]
    exact hout

theorem lowerChar_lowerChar (c : Char) : lowerChar (lowerChar c) = lowerChar c := by
  rw [← Char.toNat_inj, toNat_lowerChar, toNat_lowerChar, lowerCode_lowerCode]

/-- The form of a character that is not blank is not blank. -/
theorem isBlank_lowerChar {c : Char} (h : isBlank c = false) : isBlank (lowerChar c) = false := by
  rcases lowerChar_cases c with hc | hout
  · rw [hc, h]
  · simp only [unreachedRanges, List.forall_mem_cons, List.not_mem_nil, false_implies, implies_true,
      and_true] at hout
    rw [← Bool.not_eq_true]
    intro hblank
    simp only [isBlank, Bool.or_eq_true, Bool.and_eq_true, decide_eq_true_eq, beq_iff_eq]
      at hblank
    omega

/-- No other character has a form with a rule of its own. -/
theorem lowerChar_ne {c : Char} (hsigma : c ≠ 'Σ') (hdotted : c ≠ 'İ') :
    lowerChar c ≠ 'Σ' ∧ lowerChar c ≠ 'İ' := by
  rcases lowerChar_cases c with h | hout
  · rw [h]
    exact ⟨hsigma, hdotted⟩
  · constructor
    · intro h
      have := hout (0x3A3, 0x3A3) (by decide)
      rw [h, show 'Σ'.toNat = 0x3A3 from rfl] at this
      omega
    · intro h
      have := hout (0x130, 0x130) (by decide)
      rw [h, show 'İ'.toNat = 0x130 from rfl] at this
      omega

/-! ## Texts -/

/-- A character that lower-casing leaves alone, wherever it stands. -/
structure IsLowered (c : Char) : Prop where
  form : lowerChar c = c
  notSigma : c ≠ 'Σ'
  notDotted : c ≠ 'İ'

/-- The characters that come of the two rules for single characters. -/
theorem isLowered_special {c : Char} (h : c ∈ ['ς', 'σ', 'i', '\u0307']) :
    IsLowered c ∧ isBlank c = false := by
  have hall : ['ς', 'σ', 'i', '\u0307'].all (fun c =>
      (lowerChar c = c ∧ c ≠ 'Σ' ∧ c ≠ 'İ') ∧ isBlank c = false) = true := by
    decide +kernel
  obtain ⟨⟨hform, hsigma, hdotted⟩, hblank⟩ := of_decide_eq_true (List.all_eq_true.mp hall c h)
  exact ⟨⟨hform, hsigma, hdotted⟩, hblank⟩

/-- A character becomes one character or more, which are lower-cased, and which are not blank unless
it is. -/
theorem lowerFrom_cons (afterCased : Bool) (c : Char) (rest : List Char) :
    ∃ first more after, lowerFrom afterCased (c :: rest) = (first :: more) ++ lowerFrom after rest ∧
      ∀ d ∈ first :: more, IsLowered d ∧ (isBlank c = false → isBlank d = false) := by
  rw [lowerFrom]
  split
  · -- A capital sigma becomes one of the two small ones.
    refine ⟨_, [], _, rfl, ?_⟩
    intro d hd
    rw [List.mem_singleton] at hd
    have hmem : d ∈ ['ς', 'σ', 'i', '\u0307'] := by
      rw [hd]
      split <;> decide
    exact ⟨(isLowered_special hmem).1, fun _ => (isLowered_special hmem).2⟩
  · rename_i hsigma
    split
    · refine ⟨'i', ['\u0307'], _, rfl, ?_⟩
      intro d hd
      have hmem : d ∈ ['ς', 'σ', 'i', '\u0307'] :=
        List.mem_cons_of_mem _ (List.mem_cons_of_mem _ hd)
      exact ⟨(isLowered_special hmem).1, fun _ => (isLowered_special hmem).2⟩
    · rename_i hdotted
      refine ⟨lowerChar c, [], _, rfl, ?_⟩
      intro d hd
      rw [List.mem_singleton] at hd
      obtain ⟨hne, hne'⟩ := lowerChar_ne hsigma hdotted
      rw [hd]
      exact ⟨⟨lowerChar_lowerChar c, hne, hne'⟩, isBlank_lowerChar⟩

theorem isLowered_of_mem_lowerFrom {cs : List Char} : ∀ {afterCased : Bool} {d : Char},
    d ∈ lowerFrom afterCased cs → IsLowered d := by
  induction cs with
  | nil =>
    intro afterCased d hd
    rw [lowerFrom] at hd
    exact absurd hd List.not_mem_nil
  | cons c cs ih =>
    intro afterCased d hd
    obtain ⟨first, more, after, heq, hall⟩ := lowerFrom_cons afterCased c cs
    rw [heq, List.mem_append] at hd
    rcases hd with hd | hd
    · exact (hall d hd).1
    · exact ih hd

/-- A text of lower-cased characters stays as it is. -/
theorem lowerFrom_of_isLowered {cs : List Char} (h : ∀ c ∈ cs, IsLowered c) :
    ∀ afterCased : Bool, lowerFrom afterCased cs = cs := by
  induction cs with
  | nil =>
    intro afterCased
    rfl
  | cons c cs ih =>
    intro afterCased
    have hc := h c List.mem_cons_self
    rw [lowerFrom, if_neg hc.notSigma, if_neg hc.notDotted, hc.form,
      ih fun d hd => h d (List.mem_cons_of_mem c hd)]

/-- Lower-casing brings no blank to an end. -/
theorem isTrimmed_lowerFrom {cs : List Char} (afterCased : Bool) (h : IsTrimmed cs) :
    IsTrimmed (lowerFrom afterCased cs) where
  starts := by
    cases cs with
    | nil => exact h.starts
    | cons c cs =>
      obtain ⟨first, more, after, heq, hall⟩ := lowerFrom_cons afterCased c cs
      rw [heq]
      intro d hd
      obtain rfl : first = d := Option.some.inj hd
      exact (hall first List.mem_cons_self).2 (h.starts c rfl)
  ends := by
    have hends := h.ends
    clear h
    induction cs generalizing afterCased with
    | nil => exact hends
    | cons c cs ih =>
      obtain ⟨first, more, after, heq, hall⟩ := lowerFrom_cons afterCased c cs
      intro d hd
      rw [heq, List.getLast?_append] at hd
      cases cs with
      | nil =>
        rw [lowerFrom, List.getLast?_nil, Option.none_or] at hd
        exact (hall d (List.mem_of_getLast? hd)).2 (hends c rfl)
      | cons c' cs =>
        -- The last character comes of the characters after the first one.
        apply ih after
        · rw [List.getLast?_cons_cons] at hends
          exact hends
        · obtain ⟨first', more', after', heq', -⟩ := lowerFrom_cons after c' cs
          rw [heq', List.cons_append, List.getLast?_cons, Option.some_or] at hd
          rw [heq', List.cons_append, List.getLast?_cons]
          exact hd

end FrontendPolicy.Text
