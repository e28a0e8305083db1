import FrontendPolicy.Text.HiddenTable
import FrontendPolicy.Text.Utf8

/-!
# Quoted text

How log lines and error texts quote a piece of text: between double quotes, on one line, with
every character visible. Quotes, backslashes and the common controls take a letter escape, other
characters without a visible form of their own their code point in braces, and all else stands
for itself. Stray bytes are spelled as two hexadecimal digits.
-/

namespace FrontendPolicy.Text

/-- Whether a character has no visible form of its own. -/
def isHidden (c : Char) : Bool := Ranges.covers hiddenRanges c.toNat

/-- The code point of a character in braces. -/
def bracedCode (c : Char) : List Char :=
  ['\\', 'u', '\x7b'] ++ Nat.toDigits 16 c.toNat ++ ['\x7d']

/-- A character as it stands between quotes. -/
def quoteChar (c : Char) : List Char :=
  if c = '\x00' then ['\\', '0']
  else if c = '\t' then ['\\', 't']
  else if c = '\r' then ['\\', 'r']
  else if c = '\n' then ['\\', 'n']
  else if c = '\\' then ['\\', '\\']
  else if c = '"' then ['\\', '"']
  else if isHidden c then bracedCode c
  else [c]

/-- A stray byte as it stands between quotes. -/
def quoteByte (b : UInt8) : List Char :=
  ['\\', 'x', (Nat.digitChar (b.toNat / 16)).toUpper, (Nat.digitChar (b.toNat % 16)).toUpper]

/-- A piece of a byte text as it stands between quotes. -/
def Piece.quoted : Piece → List Char
  | .char c => quoteChar c
  | .stray bytes => bytes.flatMap quoteByte

/-- A text in quotes. -/
def quote (s : String) : String :=
  String.ofList ('"' :: s.toList.flatMap quoteChar ++ ['"'])

/-- A byte text in quotes. -/
def quoteBytes (bytes : List UInt8) : String :=
  String.ofList ('"' :: (pieces bytes).flatMap Piece.quoted ++ ['"'])

end FrontendPolicy.Text
