import FrontendPolicy.Proofs.Text.Utf8

/-!
# What is shown of ill-formed bytes

Showing the stray runs of a byte text as replacement characters makes up no other characters. No
piece reaches over an ASCII byte (`pieces_append_ascii`), so these bytes stay where they are in
`shown`, the bytes of what is shown, and none are added.
-/

namespace FrontendPolicy.Text

/-! ## Pieces -/

theorem suffix_finishChar (bits : Nat) (seen : List UInt8) (n : Nat) (rest : List UInt8) :
    (finishChar bits seen n rest).2 <:+ rest := by
  fun_induction finishChar bits seen n rest with
  | case1 => exact List.suffix_refl _
  | case2 => exact List.suffix_refl _
  | case3 _ _ _ b rest _ ih => exact ih.trans (List.suffix_cons b rest)
  | case4 => exact List.suffix_refl _

/-- What follows a piece is a tail of the bytes. -/
theorem suffix_firstPiece (b : UInt8) (rest : List UInt8) : (firstPiece b rest).2 <:+ rest := by
  unfold firstPiece
  split
  · exact List.suffix_refl _
  · split
    · split
      · exact (suffix_finishChar ..).trans (List.suffix_cons _ _)
      · exact List.suffix_refl _
    · exact List.suffix_refl _

/-- The bytes of a character among the pieces are bytes of the text. -/
theorem mem_of_char_mem_pieces {c : Char} {b : UInt8} (hb : b ∈ String.utf8EncodeChar c)
    {bytes : List UInt8} : Piece.char c ∈ pieces bytes → b ∈ bytes := by
  induction bytes using pieces.induct with
  | case1 =>
    intro h
    rw [pieces] at h
    exact absurd h List.not_mem_nil
  | case2 first rest ih =>
    intro h
    rw [pieces] at h
    rcases List.mem_cons.mp h with h | h
    · have hencoded : first :: rest = String.utf8EncodeChar c ++ (firstPiece first rest).2 :=
        encoded_of_firstPiece (Prod.ext h.symm rfl)
      rw [hencoded]
      exact List.mem_append_left _ hb
    · exact List.mem_cons_of_mem first ((suffix_firstPiece first rest).subset (ih h))

/-! ## Shown texts -/

/-- An ASCII character that is shown was a byte of the text. -/
theorem byte_mem_of_mem_decodeLossy {c : Char} (hc : c.toNat < 0x80) {bytes : List UInt8}
    (h : c ∈ decodeLossy bytes) : UInt8.ofNat c.toNat ∈ bytes := by
  rw [decodeLossy, List.mem_map] at h
  obtain ⟨piece, hpiece, hshown⟩ := h
  cases piece with
  | char c' =>
    obtain rfl : c' = c := hshown
    refine mem_of_char_mem_pieces ?_ hpiece
    rw [utf8EncodeChar_eq, if_pos hc]
    exact List.mem_singleton_self _
  | stray bytes =>
    -- The replacement character is no ASCII character.
    obtain rfl : '\uFFFD' = c := hshown
    exact absurd hc (by decide)

theorem decodeLossy_eq_nil_iff {bytes : List UInt8} : decodeLossy bytes = [] ↔ bytes = [] := by
  cases bytes <;> simp [decodeLossy, pieces]

/-! ## ASCII bytes -/

section Ascii

variable {a : UInt8}

/-- No second byte of a character is an ASCII byte. -/
theorem ge_of_second {b s : UInt8} {l : Lead} (hl : lead? b = some l)
    (hs : (l.low ≤ s && s ≤ l.high) = true) : 0x80 ≤ s.toNat := by
  rcases lead?_eq_some_iff.mp hl with ⟨-, -, rfl⟩ | ⟨-, -, rfl⟩ | ⟨-, -, rfl⟩ <;>
    exact (second_iff.mp hs).1.1

/-- An ASCII byte finishes no character, so what comes before it is read as if the text ended
there. -/
theorem finishChar_append_ascii (ha : a.toNat < 0x80) (back : List UInt8) (bits : Nat)
    (seen : List UInt8) (n : Nat) (front : List UInt8) :
    finishChar bits seen n (front ++ a :: back) =
      ((finishChar bits seen n front).1, (finishChar bits seen n front).2 ++ a :: back) := by
  have hstray : isContinuation a = false := by
    rw [← Bool.not_eq_true, isContinuation_iff]
    omega
  fun_induction finishChar bits seen n front with
  | case1 => rw [finishChar]
  | case2 => simp [finishChar, hstray]
  | case3 bits seen n b front hb ih => rw [List.cons_append, finishChar, if_pos hb, ih]
  | case4 bits seen n b front hb => rw [List.cons_append, finishChar, if_neg hb]

theorem firstPiece_append_ascii (ha : a.toNat < 0x80) (b : UInt8) (front back : List UInt8) :
    firstPiece b (front ++ a :: back) =
      ((firstPiece b front).1, (firstPiece b front).2 ++ a :: back) := by
  unfold firstPiece
  split
  · rfl
  · cases hl : lead? b with
    | none => simp
    | some l =>
      cases front with
      | nil =>
        have hno : (l.low ≤ a && a ≤ l.high) = false := by
          rw [← Bool.not_eq_true]
          intro hsecond
          have hge := ge_of_second hl hsecond
          omega
        simp [hno]
      | cons s front =>
        simp only [List.cons_append]
        split
        · exact finishChar_append_ascii ha back _ _ _ _
        · rfl

/-- Pieces do not reach over an ASCII byte. -/
theorem pieces_append_ascii (ha : a.toNat < 0x80) (front back : List UInt8) :
    pieces (front ++ a :: back) = pieces front ++ .char (Char.ofNat a.toNat) :: pieces back := by
  induction front using pieces.induct with
  | case1 => rw [List.nil_append, pieces, List.nil_append, pieces, firstPiece_of_ascii ha]
  | case2 b front ih =>
    rw [List.cons_append, pieces, firstPiece_append_ascii ha, ih, ← List.cons_append, ← pieces]

theorem decodeLossy_append_ascii (ha : a.toNat < 0x80) (front back : List UInt8) :
    decodeLossy (front ++ a :: back) =
      decodeLossy front ++ Char.ofNat a.toNat :: decodeLossy back := by
  rw [decodeLossy, pieces_append_ascii ha, List.map_append, List.map_cons]
  rfl

end Ascii

/-! ## What is shown, in bytes -/

/-- The bytes of the text that is shown of some bytes. -/
def shown (bytes : List UInt8) : List UInt8 := encode (decodeLossy bytes)

theorem encode_append (cs ds : List Char) : encode (cs ++ ds) = encode cs ++ encode ds :=
  List.flatMap_append

/-- A text shows as itself. -/
theorem decodeLossy_encode (cs : List Char) : decodeLossy (encode cs) = cs := by
  induction cs with
  | nil => exact decodeLossy_eq_nil_iff.mpr rfl
  | cons c cs ih =>
    rw [encode, List.flatMap_cons, decodeLossy, pieces_of_encoded, List.map_cons]
    exact congrArg (c :: ·) ih

theorem decodeLossy_shown (bytes : List UInt8) : decodeLossy (shown bytes) = decodeLossy bytes :=
  decodeLossy_encode _

/-- What is shown of bytes around an ASCII byte is shown of each side, around the same byte. -/
theorem shown_append_ascii {a : UInt8} (ha : a.toNat < 0x80) (front back : List UInt8) :
    shown (front ++ a :: back) = shown front ++ a :: shown back := by
  have hself : String.utf8EncodeChar (Char.ofNat a.toNat) = [a] := by
    rw [utf8EncodeChar_eq, toNat_charOfNat (by omega), if_pos ha, UInt8.ofNat_toNat]
  rw [shown, decodeLossy_append_ascii ha, encode_append, encode, encode, List.flatMap_cons, hself]
  rfl

theorem shown_eq_nil_iff {bytes : List UInt8} : shown bytes = [] ↔ bytes = [] := by
  rw [← @decodeLossy_eq_nil_iff bytes, ← decodeLossy_shown, decodeLossy_eq_nil_iff]

/-- The ASCII bytes of what is shown are those of the bytes. -/
theorem mem_shown_ascii {a : UInt8} (ha : a.toNat < 0x80) {bytes : List UInt8} :
    a ∈ shown bytes ↔ a ∈ bytes := by
  constructor
  · intro h
    obtain ⟨front, back, hsplit⟩ := List.append_of_mem h
    have hchar : Char.ofNat a.toNat ∈ decodeLossy bytes := by
      rw [← decodeLossy_shown, hsplit, decodeLossy_append_ascii ha]
      exact List.mem_append_right _ List.mem_cons_self
    have hcode : (Char.ofNat a.toNat).toNat = a.toNat := toNat_charOfNat (by omega)
    have hbyte := byte_mem_of_mem_decodeLossy (by rw [hcode]; exact ha) hchar
    rwa [hcode, UInt8.ofNat_toNat] at hbyte
  · intro h
    obtain ⟨front, back, rfl⟩ := List.append_of_mem h
    rw [shown_append_ascii ha]
    exact List.mem_append_right _ List.mem_cons_self

/-- Only an ASCII text shows as that text. -/
theorem shown_eq_ascii_iff {text : List UInt8} (h : ∀ a ∈ text, a.toNat < 0x80) :
    ∀ {bytes : List UInt8}, shown bytes = text ↔ bytes = text := by
  induction text with
  | nil => exact shown_eq_nil_iff
  | cons a text ih =>
    intro bytes
    have ha : a.toNat < 0x80 := h a List.mem_cons_self
    have hrest : ∀ {back : List UInt8}, shown back = text ↔ back = text :=
      ih fun b hb => h b (List.mem_cons_of_mem a hb)
    constructor
    · intro hshown
      have hmem : a ∈ bytes := by
        rw [← mem_shown_ascii ha, hshown]
        exact List.mem_cons_self
      obtain ⟨front, back, rfl, hfirst⟩ := List.eq_append_cons_of_mem hmem
      rw [shown_append_ascii ha] at hshown
      -- Before the first such byte nothing is shown, since that would not be it.
      cases hfront : shown front with
      | nil =>
        rw [hfront, List.nil_append, List.cons.injEq, hrest] at hshown
        rw [shown_eq_nil_iff.mp hfront, List.nil_append, hshown.2]
      | cons b more =>
        rw [hfront, List.cons_append, List.cons.injEq] at hshown
        refine absurd ((mem_shown_ascii ha).mp ?_) hfirst
        rw [hfront, hshown.1]
        exact List.mem_cons_self
    · rintro rfl
      rw [← List.nil_append (a :: text), shown_append_ascii ha, shown_eq_nil_iff.mpr rfl,
        hrest.mpr rfl]

end FrontendPolicy.Text
