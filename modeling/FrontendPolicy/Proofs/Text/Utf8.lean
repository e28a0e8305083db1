import FrontendPolicy.Text.Utf8

/-!
# Characters are decoded as they were encoded

Decoding and encoding are inverse to each other. The characters of an encoded text are found again
whatever follows it, and the bytes of a decoded text are those that its characters are encoded as.
So bytes are no text just if no text is encoded as them (`decode?_eq_none_iff`).
-/

namespace FrontendPolicy.Text

/-! ## Bytes -/

theorem toNat_ofNat_of_lt {n : Nat} (h : n < 0x100) : (UInt8.ofNat n).toNat = n := by
  rw [UInt8.toNat_ofNat']
  omega

/-- A byte that continues a character, with the six bits that it contributes. -/
def tailByte (n : Nat) : UInt8 := UInt8.ofNat (n % 64 + 0x80)

theorem toNat_tailByte (n : Nat) : (tailByte n).toNat = n % 64 + 0x80 :=
  toNat_ofNat_of_lt (by omega)

theorem isContinuation_iff {b : UInt8} :
    isContinuation b = true ↔ 0x80 ≤ b.toNat ∧ b.toNat ≤ 0xBF := by
  simp [isContinuation, UInt8.le_iff_toNat_le]

theorem tailByte_congr {n k : Nat} (h : n % 64 = k % 64) : tailByte n = tailByte k := by
  rw [tailByte, tailByte, h]

/-- A byte that continues a character is the one with its six bits. -/
theorem eq_tailByte {b : UInt8} (h : 0x80 ≤ b.toNat ∧ b.toNat ≤ 0xBF) {n : Nat}
    (hn : n % 64 = b.toNat % 64) : b = tailByte n := by
  rw [← UInt8.toNat_inj, toNat_tailByte]
  omega

/-! ## First bytes -/

/-- The least second byte after a first one. -/
def secondLow (b : UInt8) : UInt8 := if b = 0xE0 then 0xA0 else if b = 0xF0 then 0x90 else 0x80

/-- The greatest second byte after a first one. -/
def secondHigh (b : UInt8) : UInt8 := if b = 0xED then 0x9F else if b = 0xF4 then 0x8F else 0xBF

/-- The first bytes of characters of two, three and four bytes. -/
theorem lead?_eq_some_iff {b : UInt8} {l : Lead} : lead? b = some l ↔
    (0xC2 ≤ b.toNat ∧ b.toNat < 0xE0 ∧ l = ⟨b.toNat - 0xC0, secondLow b, secondHigh b, 0⟩) ∨
    (0xE0 ≤ b.toNat ∧ b.toNat < 0xF0 ∧ l = ⟨b.toNat - 0xE0, secondLow b, secondHigh b, 1⟩) ∨
    (0xF0 ≤ b.toNat ∧ b.toNat < 0xF5 ∧ l = ⟨b.toNat - 0xF0, secondLow b, secondHigh b, 2⟩) := by
  have hall : ∀ n < 0x100, lead? (UInt8.ofNat n) =
      if 0xC2 ≤ n ∧ n < 0xE0 then
        some ⟨n - 0xC0, secondLow (UInt8.ofNat n), secondHigh (UInt8.ofNat n), 0⟩
      else if 0xE0 ≤ n ∧ n < 0xF0 then
        some ⟨n - 0xE0, secondLow (UInt8.ofNat n), secondHigh (UInt8.ofNat n), 1⟩
      else if 0xF0 ≤ n ∧ n < 0xF5 then
        some ⟨n - 0xF0, secondLow (UInt8.ofNat n), secondHigh (UInt8.ofNat n), 2⟩
      else none := by
    intro n hn
    have hb := toNat_ofNat_of_lt hn
    simp only [lead?, secondLow, secondHigh, UInt8.lt_iff_toNat_lt, ← UInt8.toNat_inj, hb,
      UInt8.toNat_ofNat]
    grind
  -- As a number the byte falls into one of the three ranges or into none.
  have hb := hall b.toNat b.toNat_lt
  rw [UInt8.ofNat_toNat] at hb
  rw [hb]
  grind

/-- The second bytes that may follow a first one, as numbers. -/
theorem second_iff {b s : UInt8} : (secondLow b ≤ s && s ≤ secondHigh b) = true ↔
    (0x80 ≤ s.toNat ∧ s.toNat ≤ 0xBF) ∧ (b.toNat = 0xE0 → 0xA0 ≤ s.toNat) ∧
      (b.toNat = 0xED → s.toNat ≤ 0x9F) ∧ (b.toNat = 0xF0 → 0x90 ≤ s.toNat) ∧
      (b.toNat = 0xF4 → s.toNat ≤ 0x8F) := by
  simp only [secondLow, secondHigh, Bool.and_eq_true, decide_eq_true_eq, UInt8.le_iff_toNat_le,
    ← UInt8.toNat_inj, UInt8.toNat_ofNat, apply_ite UInt8.toNat]
  grind

/-! ## Encoded characters -/

theorem finishChar_tailByte (bits : Nat) (seen : List UInt8) (n k : Nat) (rest : List UInt8) :
    finishChar bits seen (n + 1) (tailByte k :: rest) =
      finishChar (bits * 64 + k % 64) (seen ++ [tailByte k]) n rest := by
  have hc : isContinuation (tailByte k) = true := by
    rw [isContinuation_iff, toNat_tailByte]
    omega
  rw [finishChar, if_pos hc, toNat_tailByte]
  congr 2
  omega

theorem firstPiece_of_ascii {b : UInt8} (h : b.toNat < 0x80) (rest : List UInt8) :
    firstPiece b rest = (.char (Char.ofNat b.toNat), rest) := by
  have hb : b < 0x80 := UInt8.lt_iff_toNat_lt.mpr h
  unfold firstPiece
  rw [if_pos hb]

/-- The piece that a first and a second byte begin. -/
theorem firstPiece_of_lead {b s : UInt8} {l : Lead} (hl : lead? b = some l)
    (hs : (l.low ≤ s && s ≤ l.high) = true) (rest : List UInt8) :
    firstPiece b (s :: rest) = finishChar (l.bits * 64 + s.toNat % 64) [b, s] l.more rest := by
  have hb : ¬b < 0x80 := by
    rw [UInt8.lt_iff_toNat_lt]
    rcases lead?_eq_some_iff.mp hl with h | h | h
    all_goals
      have := h.1
      simp only [UInt8.toNat_ofNat]
      omega
  simp only [firstPiece, if_neg hb, hl, if_pos hs]

/-- The forms of an encoded character. -/
theorem utf8EncodeChar_eq (c : Char) : String.utf8EncodeChar c =
    if c.toNat < 0x80 then [UInt8.ofNat c.toNat]
    else if c.toNat < 0x800 then [UInt8.ofNat (c.toNat / 64 + 0xC0), tailByte c.toNat]
    else if c.toNat < 0x10000 then
      [UInt8.ofNat (c.toNat / 0x1000 + 0xE0), tailByte (c.toNat / 64), tailByte c.toNat]
    else [UInt8.ofNat (c.toNat / 0x40000 + 0xF0), tailByte (c.toNat / 0x1000),
      tailByte (c.toNat / 64), tailByte c.toNat] := by
  have hc : c.toNat < 0xD800 ∨ 0xDFFF < c.toNat ∧ c.toNat < 0x110000 := c.valid
  have hv : c.val.toNat = c.toNat := rfl
  unfold String.utf8EncodeChar
  simp only [hv, tailByte]
  grind

/-- The piece at the front of an encoded character is that character. -/
theorem firstPiece_of_encoded (c : Char) (rest : List UInt8) :
    ∃ b tail, String.utf8EncodeChar c = b :: tail ∧
      firstPiece b (tail ++ rest) = (.char c, rest) := by
  have hc : c.toNat < 0xD800 ∨ 0xDFFF < c.toNat ∧ c.toNat < 0x110000 := c.valid
  rw [utf8EncodeChar_eq]
  split
  · have hb := @toNat_ofNat_of_lt c.toNat (by omega)
    refine ⟨_, [], rfl, ?_⟩
    rw [firstPiece_of_ascii (by omega), hb, Char.ofNat_toNat]
    rfl
  · split
    · have hb := @toNat_ofNat_of_lt (c.toNat / 64 + 0xC0) (by omega)
      refine ⟨_, _, rfl, ?_⟩
      rw [List.cons_append, List.nil_append, firstPiece_of_lead
        (lead?_eq_some_iff.mpr (.inl ⟨by omega, by omega, rfl⟩))
        (second_iff.mpr (by rw [toNat_tailByte, hb]; omega)), hb, toNat_tailByte, finishChar,
        show (c.toNat / 64 + 0xC0 - 0xC0) * 64 + (c.toNat % 64 + 0x80) % 64 = c.toNat by omega,
        Char.ofNat_toNat]
    · split
      · have hb := @toNat_ofNat_of_lt (c.toNat / 0x1000 + 0xE0) (by omega)
        refine ⟨_, _, rfl, ?_⟩
        rw [List.cons_append, firstPiece_of_lead
          (lead?_eq_some_iff.mpr (.inr (.inl ⟨by omega, by omega, rfl⟩)))
          (second_iff.mpr (by rw [toNat_tailByte, hb]; omega)), hb, toNat_tailByte,
          List.singleton_append, finishChar_tailByte, finishChar,
          show ((c.toNat / 0x1000 + 0xE0 - 0xE0) * 64 + (c.toNat / 64 % 64 + 0x80) % 64) * 64 +
            c.toNat % 64 = c.toNat by omega, Char.ofNat_toNat]
      · have hb := @toNat_ofNat_of_lt (c.toNat / 0x40000 + 0xF0) (by omega)
        refine ⟨_, _, rfl, ?_⟩
        rw [List.cons_append, firstPiece_of_lead
          (lead?_eq_some_iff.mpr (.inr (.inr ⟨by omega, by omega, rfl⟩)))
          (second_iff.mpr (by rw [toNat_tailByte, hb]; omega)), hb, toNat_tailByte,
          List.cons_append, List.singleton_append, finishChar_tailByte, finishChar_tailByte,
          finishChar,
          show (((c.toNat / 0x40000 + 0xF0 - 0xF0) * 64 + (c.toNat / 0x1000 % 64 + 0x80) % 64) *
            64 + c.toNat / 64 % 64) * 64 + c.toNat % 64 = c.toNat by omega, Char.ofNat_toNat]

theorem pieces_of_encoded (c : Char) (rest : List UInt8) :
    pieces (String.utf8EncodeChar c ++ rest) = .char c :: pieces rest := by
  obtain ⟨b, tail, hc, hp⟩ := firstPiece_of_encoded c rest
  rw [hc, List.cons_append, pieces, hp]

/-- An encoded text is decoded as itself, whatever follows it. -/
theorem decode?_encode_append (cs : List Char) (rest : List UInt8) :
    decode? (encode cs ++ rest) = (decode? rest).map (cs ++ ·) := by
  induction cs with
  | nil => cases h : decode? rest <;> simp [encode, h]
  | cons c cs ih =>
    show (pieces (String.utf8EncodeChar c ++ encode cs ++ rest)).mapM Piece.char? = _
    rw [List.append_assoc, pieces_of_encoded, List.mapM_cons]
    unfold decode? at ih ⊢
    rw [ih]
    cases (pieces rest).mapM Piece.char? <;> rfl

theorem decode?_encode (cs : List Char) : decode? (encode cs) = some cs := by
  have h := decode?_encode_append cs []
  have hnil : decode? [] = some [] := by
    rw [decode?, pieces]
    rfl
  rwa [List.append_nil, hnil, Option.map_some, List.append_nil] at h

/-! ## Decoded characters -/

/-- What finishes a character of which bytes are missing. -/
theorem finishChar_eq_char {bits n : Nat} {seen rest rest' : List UInt8} {c : Char}
    (h : finishChar bits seen (n + 1) rest = (.char c, rest')) :
    ∃ k tail, k < 64 ∧ rest = tailByte k :: tail ∧
      finishChar (bits * 64 + k) (seen ++ [tailByte k]) n tail = (.char c, rest') := by
  cases rest with
  | nil => simp [finishChar] at h
  | cons b tail =>
    rw [finishChar] at h
    split at h
    · rename_i hb
      have hb' := eq_tailByte (isContinuation_iff.mp hb) (Nat.mod_mod b.toNat 64)
      refine ⟨b.toNat % 64, tail, Nat.mod_lt _ (by decide), by rw [← hb'], ?_⟩
      rw [← hb']
      exact h
    · simp at h

theorem toNat_charOfNat {n : Nat} (h : n < 0xD800 ∨ 0xDFFF < n ∧ n < 0x110000) :
    (Char.ofNat n).toNat = n := by
  rw [Char.ofNat, dif_pos h]
  rfl

/-- A byte is the one of its number. -/
theorem eq_ofNat {b : UInt8} {n : Nat} (h : n = b.toNat) : b = UInt8.ofNat n := by
  rw [h, UInt8.ofNat_toNat]

/-- Two bytes encode the character of their bits. -/
theorem utf8EncodeChar_two {b s : UInt8} {n : Nat} (hb : 0xC2 ≤ b.toNat ∧ b.toNat < 0xE0)
    (hs : 0x80 ≤ s.toNat ∧ s.toNat ≤ 0xBF) (hn : n = (b.toNat - 0xC0) * 64 + s.toNat % 64) :
    String.utf8EncodeChar (Char.ofNat n) = [b, s] := by
  have hfirst : b = UInt8.ofNat (n / 64 + 0xC0) := eq_ofNat (by omega)
  have hsecond : s = tailByte n := eq_tailByte hs (by omega)
  rw [utf8EncodeChar_eq, toNat_charOfNat (by omega), if_neg (by omega), if_pos (by omega),
    ← hfirst, ← hsecond]

/-- Three bytes encode the character of their bits. -/
theorem utf8EncodeChar_three {b s : UInt8} {k n : Nat} (hb : 0xE0 ≤ b.toNat ∧ b.toNat < 0xF0)
    (hs : (secondLow b ≤ s && s ≤ secondHigh b) = true) (hk : k < 64)
    (hn : n = ((b.toNat - 0xE0) * 64 + s.toNat % 64) * 64 + k) :
    String.utf8EncodeChar (Char.ofNat n) = [b, s, tailByte k] := by
  rw [second_iff] at hs
  have hfirst : b = UInt8.ofNat (n / 0x1000 + 0xE0) := eq_ofNat (by omega)
  have hsecond : s = tailByte (n / 64) := eq_tailByte hs.1 (by omega)
  have hthird : tailByte k = tailByte n := tailByte_congr (by omega)
  rw [utf8EncodeChar_eq, toNat_charOfNat (by omega), if_neg (by omega), if_neg (by omega),
    if_pos (by omega), ← hfirst, ← hsecond, ← hthird]

/-- Four bytes encode the character of their bits. -/
theorem utf8EncodeChar_four {b s : UInt8} {j k n : Nat} (hb : 0xF0 ≤ b.toNat ∧ b.toNat < 0xF5)
    (hs : (secondLow b ≤ s && s ≤ secondHigh b) = true) (hj : j < 64) (hk : k < 64)
    (hn : n = (((b.toNat - 0xF0) * 64 + s.toNat % 64) * 64 + j) * 64 + k) :
    String.utf8EncodeChar (Char.ofNat n) = [b, s, tailByte j, tailByte k] := by
  rw [second_iff] at hs
  have hfirst : b = UInt8.ofNat (n / 0x40000 + 0xF0) := eq_ofNat (by omega)
  have hsecond : s = tailByte (n / 0x1000) := eq_tailByte hs.1 (by omega)
  have hthird : tailByte j = tailByte (n / 64) := tailByte_congr (by omega)
  have hfourth : tailByte k = tailByte n := tailByte_congr (by omega)
  rw [utf8EncodeChar_eq, toNat_charOfNat (by omega), if_neg (by omega), if_neg (by omega),
    if_neg (by omega), ← hfirst, ← hsecond, ← hthird, ← hfourth]

/-- A character at the front of a byte text was encoded there. -/
theorem encoded_of_firstPiece {b : UInt8} {rest rest' : List UInt8} {c : Char}
    (h : firstPiece b rest = (.char c, rest')) :
    b :: rest = String.utf8EncodeChar c ++ rest' := by
  by_cases hb : b.toNat < 0x80
  · rw [firstPiece_of_ascii hb] at h
    simp only [Prod.mk.injEq, Piece.char.injEq] at h
    obtain ⟨rfl, rfl⟩ := h
    rw [utf8EncodeChar_eq, toNat_charOfNat (by omega), if_pos hb, UInt8.ofNat_toNat]
    rfl
  · unfold firstPiece at h
    rw [if_neg (by rwa [UInt8.lt_iff_toNat_lt])] at h
    split at h
    · rename_i l s tail hl
      split at h
      · rename_i hs
        -- One case for each number of bytes, two, three and four.
        rcases lead?_eq_some_iff.mp hl with ⟨hlo, hhi, rfl⟩ | ⟨hlo, hhi, rfl⟩ | ⟨hlo, hhi, rfl⟩
        · simp only [finishChar, Prod.mk.injEq, Piece.char.injEq] at h
          obtain ⟨rfl, rfl⟩ := h
          rw [utf8EncodeChar_two ⟨hlo, hhi⟩ (second_iff.mp hs).1 rfl]
          rfl
        · obtain ⟨k, tail, hk, rfl, hc⟩ := finishChar_eq_char h
          simp only [finishChar, Prod.mk.injEq, Piece.char.injEq] at hc
          obtain ⟨rfl, rfl⟩ := hc
          rw [utf8EncodeChar_three ⟨hlo, hhi⟩ hs hk rfl]
          rfl
        · obtain ⟨j, tail, hj, rfl, hc⟩ := finishChar_eq_char h
          obtain ⟨k, tail, hk, rfl, hc'⟩ := finishChar_eq_char hc
          simp only [finishChar, Prod.mk.injEq, Piece.char.injEq] at hc'
          obtain ⟨rfl, rfl⟩ := hc'
          rw [utf8EncodeChar_four ⟨hlo, hhi⟩ hs hj hk rfl]
          rfl
      · simp at h
    · simp at h

/-- The bytes of a decoded text are those that encode it. -/
theorem encode_of_decode? {bytes : List UInt8} {cs : List Char} (h : decode? bytes = some cs) :
    encode cs = bytes := by
  -- A piece takes up to four bytes, so the induction is on how many bytes there are.
  induction hn : bytes.length using Nat.strongRecOn generalizing bytes cs with
  | _ n ih =>
    subst hn
    cases bytes with
    | nil =>
      rw [decode?, pieces] at h
      rw [← Option.some.inj h]
      rfl
    | cons b rest =>
      rw [decode?, pieces, List.mapM_cons] at h
      cases hp : firstPiece b rest with
      | mk piece rest' =>
        rw [hp] at h
        cases piece with
        | stray bytes => simp [Piece.char?] at h
        | char c =>
          have hlength := length_firstPiece_le b rest
          rw [hp] at hlength
          cases hd : decode? rest' with
          | none =>
            rw [decode?] at hd
            simp [hd, Piece.char?] at h
          | some ds =>
            have hrest := ih rest'.length (Nat.lt_succ_of_le hlength) hd rfl
            rw [decode?] at hd
            simp only [Piece.char?, hd, Option.bind_eq_bind, Option.bind_some, Option.pure_def,
              Option.some.injEq] at h
            rw [← h, encoded_of_firstPiece hp, encode, List.flatMap_cons, ← hrest]
            rfl

/-! ## Bytes that are no text -/

theorem decode?_eq_some_iff {bytes : List UInt8} {cs : List Char} :
    decode? bytes = some cs ↔ bytes = encode cs := by
  constructor
  · exact fun h => (encode_of_decode? h).symm
  · rintro rfl
    exact decode?_encode cs

/-- Bytes are refused if they encode no text. -/
theorem decode?_eq_none_iff {bytes : List UInt8} :
    decode? bytes = none ↔ ∀ text : String, bytes ≠ encode text.toList := by
  rw [Option.eq_none_iff_forall_ne_some]
  constructor
  · exact fun h text hb => h text.toList (decode?_eq_some_iff.mpr hb)
  · intro h cs hcs
    refine h (String.ofList cs) ?_
    rw [String.toList_ofList]
    exact decode?_eq_some_iff.mp hcs

/-- A text at the front does not make bytes a text. -/
theorem encode_append_ne_iff (text : String) (rest : List UInt8) :
    (∀ text' : String, encode text.toList ++ rest ≠ encode text'.toList) ↔
      ∀ tail : String, rest ≠ encode tail.toList := by
  rw [← decode?_eq_none_iff, ← decode?_eq_none_iff, decode?_encode_append, Option.map_eq_none_iff]

end FrontendPolicy.Text
