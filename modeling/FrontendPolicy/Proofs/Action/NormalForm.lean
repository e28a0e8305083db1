import FrontendPolicy.Proofs.Action.Spelling

/-!
# The normal form of a spelling

The normal form is what all spellings of one word share, whether or not the word is an action.

## Idea

Characters that may be exchanged for each other in a spelling are `Interchangeable`, and `foldChar`
picks one to stand for all of them. The normal form sees no more of a text than its folded
characters. That is plain for each character on its own. It has to be proved together with the
letters around it because of the sigmas, whose forms hang on the letters next to them
(`map_hyphenate_lowerFrom_map_foldChar`).
-/

namespace FrontendPolicy

open Text

/-! ## Normal forms of normal forms -/

theorem toList_normalize (s : String) :
    (normalize s).toList = (lower (trim s.toList)).map hyphenate := by
  rw [normalize, String.toList_ofList]

theorem hyphenate_ne (c : Char) : hyphenate c ≠ '_' := by
  rw [hyphenate]
  split
  · decide
  · assumption

theorem hyphenate_of_ne {c : Char} (h : c ≠ '_') : hyphenate c = c := by
  rw [hyphenate, if_neg h]

theorem isBlank_hyphenate (c : Char) : isBlank (hyphenate c) = isBlank c := by
  by_cases h : c = '_'
  · rw [h]
    decide
  · rw [hyphenate_of_ne h]

theorem isLowered_hyphenate {c : Char} (h : IsLowered c) : IsLowered (hyphenate c) := by
  by_cases hc : c = '_'
  · rw [hc]
    exact ⟨by decide, by decide, by decide⟩
  · rw [hyphenate_of_ne hc]
    exact h

theorem isLowered_of_mem_normalize {s : String} {c : Char} (h : c ∈ (normalize s).toList) :
    IsLowered c := by
  rw [toList_normalize, List.mem_map] at h
  obtain ⟨d, hd, rfl⟩ := h
  exact isLowered_hyphenate (isLowered_of_mem_lowerFrom hd)

theorem ne_of_mem_normalize {s : String} {c : Char} (h : c ∈ (normalize s).toList) : c ≠ '_' := by
  rw [toList_normalize, List.mem_map] at h
  obtain ⟨d, -, rfl⟩ := h
  exact hyphenate_ne d

/-- A normal form neither starts nor ends with a blank. -/
theorem isTrimmed_normalize (s : String) : IsTrimmed (normalize s).toList := by
  have h := isTrimmed_lowerFrom false (isTrimmed_trim s.toList)
  rw [toList_normalize]
  constructor
  · intro c hc
    rw [List.head?_map, Option.mem_def, Option.map_eq_some_iff] at hc
    obtain ⟨d, hd, rfl⟩ := hc
    rw [isBlank_hyphenate]
    exact h.starts d hd
  · intro c hc
    rw [List.getLast?_map, Option.mem_def, Option.map_eq_some_iff] at hc
    obtain ⟨d, hd, rfl⟩ := hc
    rw [isBlank_hyphenate]
    exact h.ends d hd

/-- A normal form is its own normal form. -/
theorem normalize_normalize (s : String) : normalize (normalize s) = normalize s := by
  have hlower : lower (normalize s).toList = (normalize s).toList :=
    lowerFrom_of_isLowered (fun c hc => isLowered_of_mem_normalize hc) false
  have hhyphens : (normalize s).toList.map hyphenate = (normalize s).toList :=
    (List.map_congr_left fun c hc => hyphenate_of_ne (ne_of_mem_normalize hc)).trans
      (List.map_id' _)
  rw [← String.toList_inj, toList_normalize, trim_of_isTrimmed (isTrimmed_normalize s), hlower,
    hhyphens]

/-! ## Characters that may be exchanged -/

/-- The characters that may be exchanged in a spelling: the two cases of an ASCII letter, and the
underscore and the hyphen. -/
def Interchangeable (c d : Char) : Prop :=
  c.toLower = d.toLower ∨ (c ∈ ['_', '-'] ∧ d ∈ ['_', '-'])

instance (c d : Char) : Decidable (Interchangeable c d) :=
  inferInstanceAs (Decidable (c.toLower = d.toLower ∨ (c ∈ ['_', '-'] ∧ d ∈ ['_', '-'])))

/-- The one of the interchangeable characters that is small or a hyphen. -/
def foldChar (c : Char) : Char := hyphenate c.toLower

/-- What holds of the first code points holds of the ASCII characters. -/
theorem of_ascii {P : Char → Prop} (h : ∀ n < 0x80, P (Char.ofNat n)) {c : Char}
    (hc : c.toNat < 0x80) : P c := by
  have hP := h c.toNat hc
  rwa [Char.ofNat_toNat] at hP

/-- Past ASCII no character is exchanged. -/
theorem foldChar_of_ge {c : Char} (h : 0x80 ≤ c.toNat) : foldChar c = c ∧ c.toLower = c := by
  have hne : c ≠ '_' := by
    rintro rfl
    exact absurd h (by decide)
  have hlower : c.toLower = c := by
    delta Char.toLower
    rw [dif_neg]
    rintro ⟨-, hle⟩
    have : c.toNat ≤ 0x5A := hle
    omega
  rw [foldChar, hlower, hyphenate_of_ne hne]
  exact ⟨rfl, rfl⟩

/-- All that trimming, lower-casing and hyphenating ask of a character. -/
structure Alike (c d : Char) : Prop where
  blank : isBlank c = isBlank d
  cased : isCased c = isCased d
  ignorable : isCaseIgnorable c = isCaseIgnorable d
  sigma : c = 'Σ' ↔ d = 'Σ'
  dotted : c = 'İ' ↔ d = 'İ'
  form : hyphenate (lowerChar c) = hyphenate (lowerChar d)

theorem alike_foldChar (c : Char) : Alike (foldChar c) c := by
  by_cases hc : c.toNat < 0x80
  · have hall := of_ascii (P := fun c => isBlank (foldChar c) = isBlank c ∧
      isCased (foldChar c) = isCased c ∧ isCaseIgnorable (foldChar c) = isCaseIgnorable c ∧
      (foldChar c = 'Σ' ↔ c = 'Σ') ∧ (foldChar c = 'İ' ↔ c = 'İ') ∧
      hyphenate (lowerChar (foldChar c)) = hyphenate (lowerChar c)) (by decide +kernel) hc
    obtain ⟨hblank, hcased, hignorable, hsigma, hdotted, hform⟩ := hall
    exact ⟨hblank, hcased, hignorable, hsigma, hdotted, hform⟩
  · rw [(foldChar_of_ge (Nat.le_of_not_lt hc)).1]
    exact ⟨rfl, rfl, rfl, Iff.rfl, Iff.rfl, rfl⟩

/-- No letter becomes an underscore or a hyphen. -/
theorem mem_of_toLower_mem {c : Char} (h : c.toLower ∈ ['_', '-']) : c ∈ ['_', '-'] := by
  by_cases hc : c.toNat < 0x80
  · exact of_ascii (P := fun c => c.toLower ∈ ['_', '-'] → c ∈ ['_', '-']) (by decide +kernel) hc h
  · rw [(foldChar_of_ge (Nat.le_of_not_lt hc)).2] at h
    exact h

/-- The characters that may be exchanged are those with the same one standing for them. -/
theorem foldChar_eq_iff {c d : Char} : foldChar c = foldChar d ↔ Interchangeable c d := by
  have hhyphen : ∀ a b : Char, a ≠ b → hyphenate a = hyphenate b → a ∈ ['_', '-'] := by
    intro a b hne h
    by_cases ha : a = '_'
    · rw [ha]
      decide
    · rw [hyphenate_of_ne ha] at h
      by_cases hb : b = '_'
      · rw [h, hb]
        decide
      · rw [hyphenate_of_ne hb] at h
        exact absurd h hne
  have hfold : ∀ a ∈ ['_', '-'], foldChar a = '-' := by
    intro a ha
    simp only [List.mem_cons, List.not_mem_nil, or_false] at ha
    rcases ha with rfl | rfl <;> decide
  constructor
  · intro h
    by_cases hlower : c.toLower = d.toLower
    · exact Or.inl hlower
    · exact Or.inr ⟨mem_of_toLower_mem (hhyphen _ _ hlower h),
        mem_of_toLower_mem (hhyphen _ _ (Ne.symm hlower) h.symm)⟩
  · intro h
    rcases h with h | ⟨hc, hd⟩
    · rw [foldChar, h, foldChar]
    · rw [hfold c hc, hfold d hd]

/-! ## Texts of interchangeable characters -/

/-- A sigma that is followed by a cased letter stays so. -/
theorem leadsToCased_map_foldChar (cs : List Char) :
    leadsToCased (cs.map foldChar) = leadsToCased cs := by
  have hcomp : isCaseIgnorable ∘ foldChar = isCaseIgnorable :=
    funext fun c => (alike_foldChar c).ignorable
  rw [leadsToCased, leadsToCased, List.dropWhile_map, hcomp]
  cases cs.dropWhile isCaseIgnorable with
  | nil => rfl
  | cons c cs => exact (alike_foldChar c).cased

/-- What comes of a text does not change with its interchangeable characters, whatever came before
the text. -/
theorem map_hyphenate_lowerFrom_map_foldChar (cs : List Char) : ∀ afterCased : Bool,
    (lowerFrom afterCased (cs.map foldChar)).map hyphenate =
      (lowerFrom afterCased cs).map hyphenate := by
  induction cs with
  | nil =>
    intro afterCased
    rfl
  | cons c cs ih =>
    intro afterCased
    have hc := alike_foldChar c
    rw [List.map_cons, lowerFrom, lowerFrom]
    simp only [hc.sigma, hc.dotted, hc.ignorable, hc.cased, leadsToCased_map_foldChar]
    split
    · rw [List.map_cons, List.map_cons, ih]
    · split
      · rw [List.map_cons, List.map_cons, List.map_cons, List.map_cons, ih]
      · rw [List.map_cons, List.map_cons, ih, hc.form]

theorem normalize_eq_of_map_foldChar {s t : String}
    (h : s.toList.map foldChar = t.toList.map foldChar) : normalize s = normalize t := by
  have hfold : ∀ u : String, (normalize u).toList =
      (lower (trim (u.toList.map foldChar))).map hyphenate := by
    intro u
    rw [toList_normalize, trim_map (fun c => (alike_foldChar c).blank), lower, lower,
      map_hyphenate_lowerFrom_map_foldChar]
  rw [← String.toList_inj, hfold s, hfold t, h]

theorem map_foldChar_eq_iff {cs ds : List Char} :
    cs.map foldChar = ds.map foldChar ↔ List.Forall₂ Interchangeable cs ds := by
  rw [← List.forall₂_eq_eq_eq, List.forall₂_map_left_iff, List.forall₂_map_right_iff]
  simp only [foldChar_eq_iff]

/-- Of an ASCII text everything is kept but the exchanges. -/
theorem map_hyphenate_lowerFrom_of_ascii {cs : List Char} (h : ∀ c ∈ cs, c.toNat < 0x80) :
    ∀ afterCased : Bool, (lowerFrom afterCased cs).map hyphenate = cs.map foldChar := by
  induction cs with
  | nil =>
    intro afterCased
    rfl
  | cons c cs ih =>
    intro afterCased
    obtain ⟨hsigma, hdotted, hform⟩ := of_ascii
      (P := fun c => c ≠ 'Σ' ∧ c ≠ 'İ' ∧ hyphenate (lowerChar c) = foldChar c)
      (by decide +kernel) (h c List.mem_cons_self)
    rw [lowerFrom, if_neg hsigma, if_neg hdotted, List.map_cons, hform, List.map_cons,
      ih fun d hd => h d (List.mem_cons_of_mem c hd)]

theorem normalize_eq_iff_of_ascii {s t : String} (hs : ∀ c ∈ s.toList, c.toNat < 0x80)
    (ht : ∀ c ∈ t.toList, c.toNat < 0x80) : normalize s = normalize t ↔
      List.Forall₂ Interchangeable (trim s.toList) (trim t.toList) := by
  have hfold : ∀ u : String, (∀ c ∈ u.toList, c.toNat < 0x80) →
      (normalize u).toList = (trim u.toList).map foldChar := by
    intro u hu
    rw [toList_normalize, lower,
      map_hyphenate_lowerFrom_of_ascii fun c hc => hu c (mem_of_mem_trim hc)]
  rw [← String.toList_inj, hfold s hs, hfold t ht, map_foldChar_eq_iff]

/-! ## The normal form -/

/-- The normal form of a text is its own normal form. It has no underscore and no blank at an end,
and it does not change with blanks around the text, the case of ASCII letters, or underscores and
hyphens for each other, be there sigmas in the text or not. Texts in ASCII that differ in anything
else have different normal forms. -/
theorem normalize_normal (s : String) :
    -- What a normal form looks like.
    normalize (normalize s) = normalize s ∧
    '_' ∉ (normalize s).toList ∧
    (∀ c ∈ (normalize s).toList.head?, isBlank c = false) ∧
    (∀ c ∈ (normalize s).toList.getLast?, isBlank c = false) ∧
    -- What it does not depend on.
    (∀ front back : String, (∀ c ∈ front.toList, isBlank c = true) →
      (∀ c ∈ back.toList, isBlank c = true) → normalize (front ++ s ++ back) = normalize s) ∧
    (∀ t : String, List.Forall₂ Interchangeable t.toList s.toList →
      normalize t = normalize s) ∧
    -- What it does depend on.
    ∀ t : String, (∀ c ∈ s.toList, c.toNat < 0x80) → (∀ c ∈ t.toList, c.toNat < 0x80) →
      (normalize t = normalize s ↔
        List.Forall₂ Interchangeable (trim t.toList) (trim s.toList)) := by
  refine ⟨normalize_normalize s, fun h => ne_of_mem_normalize h rfl,
    (isTrimmed_normalize s).starts, (isTrimmed_normalize s).ends, ?_, ?_, ?_⟩
  · intro front back hfront hback
    rw [← String.toList_inj, toList_normalize, toList_normalize, String.toList_append,
      String.toList_append, List.append_assoc, trim_padded hfront hback]
  · intro t ht
    exact normalize_eq_of_map_foldChar (map_foldChar_eq_iff.mpr ht)
  · intro t hs ht
    exact normalize_eq_iff_of_ascii ht hs

/-- A capital sigma before an underscore is final, and one before a capital letter is not, with the
hyphen and the small letter as well. Letters are not exchanged for each other. -/
theorem normalize_normal_sample :
    normalize "ΟΣ_aΣB" = "ος-aσb" ∧
    normalize ("\u2003" ++ "ΟΣ_aΣB" ++ " \u00A0") = "ος-aσb" ∧
    normalize "ΟΣ-AΣb" = "ος-aσb" ∧ normalize " emit_sil" ≠ normalize "emit_sib" := by
  have hform : normalize "ΟΣ_aΣB" = "ος-aσb" := by decide +kernel
  obtain ⟨-, -, -, -, hpadded, hexchanged, -⟩ := normalize_normal "ΟΣ_aΣB"
  refine ⟨hform, ?_, ?_, ?_⟩
  · have hfront : "\u2003".toList.all isBlank = true := by decide
    have hback : " \u00A0".toList.all isBlank = true := by decide
    exact (hpadded _ _ (List.all_eq_true.mp hfront) (List.all_eq_true.mp hback)).trans hform
  · exact (hexchanged "ΟΣ-AΣb" (by decide)).trans hform
  · obtain ⟨-, -, -, -, -, -, hascii⟩ := normalize_normal "emit_sib"
    rw [Ne, hascii " emit_sil" (by simp) (by simp)]
    decide

end FrontendPolicy
