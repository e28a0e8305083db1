/-!
# Characters and bytes

A byte text splits into `pieces`, each a character or a stray run of bytes that begins no character.
A stray run is as long as it can be a beginning of some character. `decode?` refuses stray runs, and
`decodeLossy` shows each of them as one replacement character.
-/

namespace FrontendPolicy.Text

/-- The UTF-8 bytes of a text. -/
def encode (cs : List Char) : List UInt8 := cs.flatMap String.utf8EncodeChar

/-- A part of a byte text: a character, or bytes that begin a character without finishing it. -/
inductive Piece where
  | char (c : Char)
  | stray (bytes : List UInt8)
deriving DecidableEq, Repr

/-- What the first byte of a character of several bytes says about the rest: the bits it
contributes, the range of the second byte, and how many bytes follow the second. -/
structure Lead where
  bits : Nat
  low : UInt8
  high : UInt8
  more : Nat

/-- The first bytes of characters of several bytes. The narrower ranges keep out overlong forms,
surrogates and code points past the last one. -/
def lead? (b : UInt8) : Option Lead :=
  if b < 0xC2 then none
  else if b < 0xE0 then some ⟨b.toNat - 0xC0, 0x80, 0xBF, 0⟩
  else if b = 0xE0 then some ⟨0, 0xA0, 0xBF, 1⟩
  else if b = 0xED then some ⟨0xD, 0x80, 0x9F, 1⟩
  else if b < 0xF0 then some ⟨b.toNat - 0xE0, 0x80, 0xBF, 1⟩
  else if b = 0xF0 then some ⟨0, 0x90, 0xBF, 2⟩
  else if b < 0xF4 then some ⟨b.toNat - 0xF0, 0x80, 0xBF, 2⟩
  else if b = 0xF4 then some ⟨4, 0x80, 0x8F, 2⟩
  else none

/-- The bytes that continue a character. -/
def isContinuation (b : UInt8) : Bool := 0x80 ≤ b && b ≤ 0xBF

/-- Reads the bytes that are still missing from a character whose bytes so far are `seen`, with
value `bits`. -/
def finishChar (bits : Nat) (seen : List UInt8) : Nat → List UInt8 → Piece × List UInt8
  | 0, rest => (.char (Char.ofNat bits), rest)
  | _ + 1, [] => (.stray seen, [])
  | n + 1, b :: rest =>
    if isContinuation b then finishChar (bits * 64 + b.toNat % 64) (seen ++ [b]) n rest
    else (.stray seen, b :: rest)

/-- The piece that starts with the byte `b`, and the bytes after it. -/
def firstPiece (b : UInt8) (rest : List UInt8) : Piece × List UInt8 :=
  if b < 0x80 then (.char (Char.ofNat b.toNat), rest)
  else
    match lead? b, rest with
    | some l, s :: rest' =>
      if l.low ≤ s && s ≤ l.high then
        finishChar (l.bits * 64 + s.toNat % 64) [b, s] l.more rest'
      else (.stray [b], rest)
    | _, _ => (.stray [b], rest)

theorem length_finishChar_le (bits : Nat) (seen : List UInt8) (n : Nat) (rest : List UInt8) :
    (finishChar bits seen n rest).2.length ≤ rest.length := by
  fun_induction finishChar bits seen n rest with
  | case1 => exact Nat.le_refl _
  | case2 => exact Nat.le_refl _
  | case3 _ _ _ _ rest _ ih => exact Nat.le_trans ih (Nat.le_succ _)
  | case4 => exact Nat.le_refl _

/-- A piece takes at least its first byte. -/
theorem length_firstPiece_le (b : UInt8) (rest : List UInt8) :
    (firstPiece b rest).2.length ≤ rest.length := by
  unfold firstPiece
  split
  · exact Nat.le_refl _
  · split
    · split
      · exact Nat.le_trans (length_finishChar_le ..) (Nat.le_succ _)
      · exact Nat.le_refl _
    · exact Nat.le_refl _

/-- The pieces of a byte text, in order. -/
def pieces : List UInt8 → List Piece
  | [] => []
  | b :: rest => (firstPiece b rest).1 :: pieces (firstPiece b rest).2
termination_by bytes => bytes.length
decreasing_by exact Nat.lt_succ_of_le (length_firstPiece_le b rest)

/-- The character of a piece that is one. -/
def Piece.char? : Piece → Option Char
  | .char c => some c
  | .stray _ => none

/-- A piece as one character: a stray run shows as the replacement character. -/
def Piece.shown : Piece → Char
  | .char c => c
  | .stray _ => '\uFFFD'

/-- The text that the bytes encode, if they are well formed. -/
def decode? (bytes : List UInt8) : Option (List Char) :=
  (pieces bytes).mapM Piece.char?

/-- The text of the bytes, with each stray run replaced. -/
def decodeLossy (bytes : List UInt8) : List Char :=
  (pieces bytes).map Piece.shown

end FrontendPolicy.Text
