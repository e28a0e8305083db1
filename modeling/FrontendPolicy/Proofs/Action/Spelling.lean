import FrontendPolicy.Proofs.Text.LowerForms
import FrontendPolicy.Session
import Mathlib.Data.List.Forall2

/-!
# The spellings of actions, character by character

A spelling is lower-cased, hyphenated and looked up, but which texts that accepts can be told from
their characters: `StandsFor` says which of them may stand for a character of a token, and a text is
accepted if all of its characters do, up to blanks at the ends (`Action.SpelledBy`). Everything else
is an error that names the text.
-/

namespace FrontendPolicy

/-! ## Characters of tokens -/

/-- The characters that tokens are made of. -/
def IsTokenChar (t : Char) : Prop := ('a' ≤ t ∧ t ≤ 'z') ∨ t = '-'

instance (t : Char) : Decidable (IsTokenChar t) := by
  unfold IsTokenChar
  infer_instance

/-- The characters that may stand for a character of a token: itself, its capital, the underscore
for a hyphen, and the Kelvin sign for a `k`. -/
def StandsFor (c t : Char) : Prop :=
  c = t ∨ c = t.toUpper ∨ (t = '-' ∧ c = '_') ∨ (t = 'k' ∧ c = '\u212A')

instance (c t : Char) : Decidable (StandsFor c t) := by
  unfold StandsFor
  infer_instance

/-- A text without the blanks around it stands for the token of an action, character by
character. -/
def Action.SpelledBy (a : Action) (raw : String) : Prop :=
  List.Forall₂ StandsFor (Text.trim raw.toList) a.token.toList

theorem isTokenChar_of_mem {a : Action} {t : Char} (h : t ∈ a.token.toList) : IsTokenChar t := by
  have hall : ∀ a ∈ Action.all, a.token.toList.all (IsTokenChar ·) = true := by decide +kernel
  exact of_decide_eq_true (List.all_eq_true.mp (hall a (Action.mem_all a)) t h)

/-- The code points of token characters and of their capitals. -/
theorem IsTokenChar.toNat {t : Char} (h : IsTokenChar t) :
    (0x61 ≤ t.toNat ∧ t.toNat ≤ 0x7A ∧ t.toUpper.toNat = t.toNat - 0x20) ∨
      (t.toNat = 0x2D ∧ t.toUpper.toNat = 0x2D) := by
  rcases h with ⟨hl, hu⟩ | rfl
  · have hl : 0x61 ≤ t.toNat := hl
    have hu : t.toNat ≤ 0x7A := hu
    have hupper : ∀ n < 0x80, 0x61 ≤ n ∧ n ≤ 0x7A → (Char.ofNat n).toUpper.toNat = n - 0x20 := by
      decide
    have := hupper t.toNat (by omega) ⟨hl, hu⟩
    rw [Char.ofNat_toNat] at this
    exact Or.inl ⟨hl, hu, this⟩
  · exact Or.inr ⟨rfl, by decide⟩

theorem standsFor_iff_toNat {c t : Char} : StandsFor c t ↔
    c.toNat = t.toNat ∨ c.toNat = t.toUpper.toNat ∨ (t.toNat = 0x2D ∧ c.toNat = 0x5F) ∨
      (t.toNat = 0x6B ∧ c.toNat = 0x212A) := by
  simp only [StandsFor, ← Char.toNat_inj]
  rfl

theorem toNat_hyphenate (c : Char) :
    (hyphenate c).toNat = if c.toNat = 0x5F then 0x2D else c.toNat := by
  have hc : c = '_' ↔ c.toNat = 0x5F := Char.toNat_inj.symm
  rw [hyphenate, apply_ite Char.toNat]
  simp only [hc]
  rfl

/-- The characters whose normal form is a character of a token are those that stand for it. -/
theorem hyphenate_lowerChar_eq_iff {t : Char} (ht : IsTokenChar t) (c : Char) :
    hyphenate (Text.lowerChar c) = t ↔ StandsFor c t := by
  have hrange := ht.toNat
  rw [← Char.toNat_inj, toNat_hyphenate, Text.toNat_lowerChar, standsFor_iff_toNat]
  constructor
  · intro h
    have hlt : Text.lowerCode Text.lowerSpans c.toNat < 0x80 := by
      split at h <;> omega
    -- So the form is in ASCII, and only two kinds of characters have such a form.
    rcases Text.lowerCode_lt hlt with hc | hc
    · rw [Text.lowerCode_ascii _ hc] at h
      split at h <;> split at h <;> omega
    · rw [hc, Text.lowerCode_kelvin, if_neg (by decide)] at h
      omega
  · intro h
    by_cases hc : c.toNat = 0x212A
    · rw [hc, Text.lowerCode_kelvin, if_neg (by decide)]
      omega
    · rw [Text.lowerCode_ascii c.toNat (by omega)]
      split <;> split <;> omega

/-! ## Texts -/

/-- Neither a small sigma nor a combining dot is a character of a token. -/
theorem not_isTokenChar_special :
    ¬IsTokenChar 'ς' ∧ ¬IsTokenChar 'σ' ∧ ¬IsTokenChar '\u0307' := by
  decide

/-- The characters with a lower-case form of their own rule, and the small sigmas. -/
def specialCased : List Char := ['İ', 'Σ', 'σ', 'ς']

theorem not_standsFor_special {c t : Char} (hc : c ∈ specialCased) (ht : IsTokenChar t) :
    ¬StandsFor c t := by
  have hrange := ht.toNat
  have hcode : c.toNat = 0x130 ∨ c.toNat = 0x3A3 ∨ c.toNat = 0x3C3 ∨ c.toNat = 0x3C2 := by
    simp only [specialCased, List.mem_cons, List.not_mem_nil, or_false] at hc
    rcases hc with rfl | rfl | rfl | rfl <;> decide
  rw [standsFor_iff_toNat]
  omega

/-- The normal form of a text is made of token characters just where each character of the text
stands for one of them, whatever came before the text. -/
theorem map_hyphenate_lowerFrom_eq_iff (cs : List Char) : ∀ (afterCased : Bool) {ts : List Char},
    (∀ t ∈ ts, IsTokenChar t) →
      ((Text.lowerFrom afterCased cs).map hyphenate = ts ↔ List.Forall₂ StandsFor cs ts) := by
  induction cs with
  | nil =>
    intro afterCased ts _
    rw [Text.lowerFrom, List.map_nil, List.forall₂_nil_left_iff]
    exact eq_comm
  | cons c cs ih =>
    intro afterCased ts hts
    obtain ⟨hfinal, hsmall, hdot⟩ := not_isTokenChar_special
    rw [Text.lowerFrom]
    cases ts with
    | nil =>
      rw [List.forall₂_nil_right_iff]
      split
      · simp
      · split <;> simp
    | cons t ts =>
      have ht := hts t List.mem_cons_self
      have htail := fun u hu => hts u (List.mem_cons_of_mem t hu)
      rw [List.forall₂_cons]
      split
      · -- A capital sigma becomes one of the two small ones.
        rename_i hc
        refine iff_of_false ?_ fun h => not_standsFor_special (by rw [hc]; decide) ht h.1
        rw [List.map_cons, List.cons.injEq]
        rintro ⟨rfl, -⟩
        split at ht
        · exact hfinal ht
        · exact hsmall ht
      · split
        · -- A dotted capital I becomes two characters, and the second one is the dot.
          rename_i hc
          refine iff_of_false ?_ fun h => not_standsFor_special (by rw [hc]; decide) ht h.1
          rw [List.map_cons, List.map_cons, List.cons.injEq]
          rintro ⟨-, rfl⟩
          exact hdot (htail _ List.mem_cons_self)
        · rw [List.map_cons, List.cons.injEq, hyphenate_lowerChar_eq_iff ht, ih _ htail]

/-- An action is spelled by the texts whose normal form is its token. -/
theorem token_eq_normalize_iff (a : Action) (raw : String) :
    a.token = normalize raw ↔ a.SpelledBy raw := by
  have h := map_hyphenate_lowerFrom_eq_iff (Text.trim raw.toList) false
    fun _ => isTokenChar_of_mem (a := a)
  rw [Action.SpelledBy, ← h, normalize, Text.lower]
  constructor
  · intro ht
    rw [ht, String.toList_ofList]
  · intro ht
    rw [ht, String.ofList_toList]

/-- No two actions have the same token. -/
theorem token_injective {a b : Action} (h : a.token = b.token) : a = b :=
  (show ∀ a ∈ Action.all, ∀ b ∈ Action.all, a.token = b.token → a = b by decide +kernel)
    a (Action.mem_all a) b (Action.mem_all b) h

/-- The lookup finds the action that a text spells. -/
theorem ofText?_eq_some_iff (raw : String) (a : Action) :
    Action.ofText? raw = some a ↔ a.SpelledBy raw := by
  rw [← token_eq_normalize_iff, Action.ofText?]
  constructor
  · intro h
    have := List.find?_some h
    simpa using this
  · intro h
    cases hf : Action.all.find? fun b => b.token = normalize raw with
    | none =>
      rw [List.find?_eq_none] at hf
      exact absurd h (by simpa using hf a (Action.mem_all a))
    | some b =>
      have hb := List.find?_some hf
      simp only [decide_eq_true_eq] at hb
      rw [token_injective (hb.trans h.symm)]

/-- An action is spelled by its token. -/
theorem ofText?_token (a : Action) : Action.ofText? a.token = some a := by
  have htrim : Text.trim a.token.toList = a.token.toList :=
    (show ∀ a ∈ Action.all, Text.trim a.token.toList = a.token.toList by decide +kernel)
      a (Action.mem_all a)
  rw [ofText?_eq_some_iff, Action.SpelledBy, htrim, List.forall₂_same]
  intro t _
  exact Or.inl rfl

/-- Every character of a spelling stands for one of the token. -/
theorem exists_standsFor_of_mem {cs ts : List Char} (h : List.Forall₂ StandsFor cs ts) {c : Char}
    (hc : c ∈ cs) : ∃ t ∈ ts, StandsFor c t := by
  induction h with
  | nil => simp at hc
  | cons hct _ ih =>
    rcases List.mem_cons.mp hc with rfl | hc
    · exact ⟨_, List.mem_cons_self, hct⟩
    · obtain ⟨t, ht, hct⟩ := ih hc
      exact ⟨t, List.mem_cons_of_mem _ ht, hct⟩

theorem not_spelledBy_special {raw : String} {c : Char} (h : c ∈ raw.toList)
    (hc : c ∈ specialCased) (a : Action) : ¬a.SpelledBy raw := by
  intro hs
  have hall : specialCased.all (!Text.isBlank ·) = true := by decide
  have hblank : Text.isBlank c = false := by simpa using List.all_eq_true.mp hall c hc
  obtain ⟨t, ht, hct⟩ := exists_standsFor_of_mem hs (Text.mem_trim h hblank)
  exact not_standsFor_special hc (isTokenChar_of_mem ht) hct

instance (a : Action) (raw : String) : Decidable (a.SpelledBy raw) := by
  unfold Action.SpelledBy
  infer_instance

/-- The texts that name an action are its spellings, and no text is a spelling of two actions. Any
other text is rejected and reported as it was given, among them every text with a sigma or with a
dotted capital I. -/
theorem action_of_spelling (raw : String) :
    (∀ a : Action, Session.action raw = .ok a ↔ a.SpelledBy raw) ∧
      (∀ a b : Action, a.SpelledBy raw → b.SpelledBy raw → a = b) ∧
      ((∀ a : Action, ¬a.SpelledBy raw) → Session.action raw = .error (.unknownAction raw)) ∧
      (∀ c ∈ raw.toList, c ∈ specialCased →
        Session.action raw = .error (.unknownAction raw)) := by
  have hok : ∀ a, Session.action raw = .ok a ↔ a.SpelledBy raw := by
    intro a
    rw [← ofText?_eq_some_iff, Session.action]
    cases Action.ofText? raw <;> simp
  have herror : (∀ a : Action, ¬a.SpelledBy raw) →
      Session.action raw = .error (.unknownAction raw) := by
    intro h
    rw [Session.action]
    cases hf : Action.ofText? raw with
    | none => rfl
    | some a => exact absurd ((ofText?_eq_some_iff raw a).mp hf) (h a)
  refine ⟨hok, ?_, herror, ?_⟩
  · intro a b ha hb
    rw [← ofText?_eq_some_iff] at ha hb
    exact Option.some.inj (ha.symm.trans hb)
  · intro c hc hs
    exact herror (not_spelledBy_special hc hs)

/-- Blanks, capitals, an underscore and a Kelvin sign are taken. A dotted capital I is not, nor is
a small sigma, and the report has the text as it was given. -/
theorem action_of_mixed_spelling :
    Session.action "\t Dump_Parse\u00A0" = .ok .dumpParse ∧
      Session.action "TYPEchec\u212A" = .ok .typecheck ∧
      Session.action " emİt-sil" = .error (.unknownAction " emİt-sil") ∧
      Session.action "parσe" = .error (.unknownAction "parσe") :=
  ⟨((action_of_spelling _).1 .dumpParse).mpr (by decide),
    ((action_of_spelling _).1 .typecheck).mpr (by decide),
    (action_of_spelling _).2.2.2 'İ' (by decide) (by decide),
    (action_of_spelling _).2.2.2 'σ' (by decide) (by decide)⟩

end FrontendPolicy
