import FrontendPolicy.Json.Document
import FrontendPolicy.Json.Literal
import FrontendPolicy.Json.Token

/-!
# JSON values and the ways to write them

A JSON value says nothing about how it is written: the same value may be spread over lines, and each
character of a string may stand for itself or be escaped. The grammar of this file, `Spells`, is
what the readers of this library are measured against.

A string in a `Value` is a sequence of UTF-16 code units, since that is what escapes spell.
`textOfUnits?` is the text of such a sequence, if its surrogates pair up.
-/

namespace FrontendPolicy.Json

/-! ## Code units -/

/-- The UTF-16 code units of a character: one, or a pair of surrogates past the first plane. -/
def unitsOfChar (c : Char) : List Nat :=
  if c.toNat < 0x10000 then [c.toNat]
  else [0xD800 + (c.toNat - 0x10000) / 0x400, 0xDC00 + (c.toNat - 0x10000) % 0x400]

/-- The UTF-16 code units of a text. -/
def unitsOf (cs : List Char) : List Nat := cs.flatMap unitsOfChar

/-- The text of a sequence of code units, if each of its surrogates is half of a pair. -/
def textOfUnits? : List Nat → Option (List Char)
  | [] => some []
  | [n] =>
    if isLowSurrogate n || isHighSurrogate n then none else some [Char.ofNat n]
  | n :: m :: rest =>
    if isLowSurrogate n then none
    else if isHighSurrogate n then
      if isLowSurrogate m then (textOfUnits? rest).map (pairChar n m :: ·) else none
    else (textOfUnits? (m :: rest)).map (Char.ofNat n :: ·)

/-! ## Values -/

/-- A JSON value. Surrogates in a string need not pair up, the members of an object have an order
and may repeat a key, and a number is the numeral that it is written as. -/
inductive Value where
  | null
  | flag (value : Bool)
  | number (numeral : List Char)
  | text (units : List Nat)
  | list (elements : List Value)
  | object (members : List (List Nat × Value))

/-! ## Tokens -/

/-- A text of nothing but space. -/
def IsSpaces (cs : List Char) : Prop := ∀ c ∈ cs, isSpace c = true

/-- The ways to write code units between the quotes of a literal. -/
inductive SpellsText : List Nat → List Char → Prop where
  | nil : SpellsText [] []
  /-- A character stands for itself, quotes, backslashes and controls excepted. -/
  | plain {c : Char} {units : List Nat} {cs : List Char} (notQuote : c ≠ '"')
      (notBackslash : c ≠ '\\') (notControl : isControl c = false) (rest : SpellsText units cs) :
      SpellsText (unitsOfChar c ++ units) (c :: cs)
  | letter {c d : Char} {units : List Nat} {cs : List Char} (escape : letterEscape? c = some d)
      (rest : SpellsText units cs) : SpellsText (unitsOfChar d ++ units) ('\\' :: c :: cs)
  /-- Four hexadecimal digits spell a code unit, be it a surrogate or not. -/
  | code {a b c d : Char} {unit : Nat} {units : List Nat} {cs : List Char}
      (escape : hexUnit? a b c d = some unit) (rest : SpellsText units cs) :
      SpellsText (unit :: units) ('\\' :: 'u' :: a :: b :: c :: d :: cs)

/-- One digit or more. -/
def IsDigits (cs : List Char) : Prop := cs ≠ [] ∧ ∀ c ∈ cs, c.isDigit = true

/-- The digits before the point. A zero stands alone. -/
def IsWhole (cs : List Char) : Prop := cs = ['0'] ∨ (IsDigits cs ∧ cs.head? ≠ some '0')

/-- The point and the digits after it, or nothing. -/
def IsFraction (cs : List Char) : Prop := cs = [] ∨ ∃ digits, IsDigits digits ∧ cs = '.' :: digits

/-- The exponent, or nothing. -/
def IsExponent (cs : List Char) : Prop :=
  cs = [] ∨ ∃ mark sign digits, (mark = 'e' ∨ mark = 'E') ∧
    (sign = [] ∨ sign = ['+'] ∨ sign = ['-']) ∧ IsDigits digits ∧ cs = mark :: (sign ++ digits)

/-- The ways to write a number without a sign. -/
def IsUnsigned (cs : List Char) : Prop :=
  ∃ whole fraction exponent, IsWhole whole ∧ IsFraction fraction ∧ IsExponent exponent ∧
    cs = whole ++ (fraction ++ exponent)

/-- The ways to write a number. -/
def IsNumeral (cs : List Char) : Prop :=
  IsUnsigned cs ∨ ∃ digits, IsUnsigned digits ∧ cs = '-' :: digits

/-! ## The grammar -/

/-- What stands before an element or a key: space, and a comma unless it is the first one. -/
inductive Lead : Bool → List Char → Prop where
  | first {ws : List Char} (h : IsSpaces ws) : Lead true ws
  | next {ws ws' : List Char} (h : IsSpaces ws) (h' : IsSpaces ws') : Lead false (ws ++ ',' :: ws')

/-- What the grammar describes: a value, or the elements or members that are left of a list or an
object. `first` tells whether none came before them. -/
inductive Part where
  | value (v : Value)
  | elements (first : Bool) (vs : List Value)
  | members (first : Bool) (ms : List (List Nat × Value))

/-- The ways to write a part of a document. A value starts and ends without space; elements and
members go up to the bracket that closes them. -/
inductive Spells : Part → List Char → Prop where
  | null : Spells (.value .null) nullText
  | flag (b : Bool) : Spells (.value (.flag b)) (flagText b)
  | number {cs : List Char} (h : IsNumeral cs) : Spells (.value (.number cs)) cs
  | text {units : List Nat} {cs : List Char} (h : SpellsText units cs) :
      Spells (.value (.text units)) ('"' :: cs ++ ['"'])
  | list {vs : List Value} {cs : List Char} (h : Spells (.elements true vs) cs) :
      Spells (.value (.list vs)) ('[' :: cs)
  | object {ms : List (List Nat × Value)} {cs : List Char} (h : Spells (.members true ms) cs) :
      Spells (.value (.object ms)) ('\x7b' :: cs)
  | listEnd {first : Bool} {ws : List Char} (h : IsSpaces ws) :
      Spells (.elements first []) (ws ++ [']'])
  | element {first : Bool} {v : Value} {vs : List Value} {lead cs rest : List Char}
      (hl : Lead first lead) (hv : Spells (.value v) cs) (hr : Spells (.elements false vs) rest) :
      Spells (.elements first (v :: vs)) (lead ++ (cs ++ rest))
  | objectEnd {first : Bool} {ws : List Char} (h : IsSpaces ws) :
      Spells (.members first []) (ws ++ ['\x7d'])
  | member {first : Bool} {key : List Nat} {v : Value} {ms : List (List Nat × Value)}
      {lead name ws ws' cs rest : List Char} (hl : Lead first lead) (hk : SpellsText key name)
      (hw : IsSpaces ws) (hw' : IsSpaces ws') (hv : Spells (.value v) cs)
      (hr : Spells (.members false ms) rest) :
      Spells (.members first ((key, v) :: ms))
        (lead ++ '"' :: (name ++ '"' :: (ws ++ ':' :: (ws' ++ (cs ++ rest)))))

/-- A text that is the value with space around it. -/
inductive Value.WrittenAs (v : Value) (text : String) : Prop where
  | intro {ws cs ws' : List Char} (hw : IsSpaces ws) (hv : Spells (.value v) cs)
      (hw' : IsSpaces ws') (h : text.toList = ws ++ (cs ++ ws'))

/-! ## Documents as values -/

mutual

/-- A document as a value. -/
def Document.value : Document → Value
  | .null => .null
  | .flag value => .flag value
  | .text value => .text (unitsOf value.toList)
  | .list elements => .list (valuesOf elements)
  | .object members => .object (memberValuesOf members)

/-- The elements of a list as values. -/
def valuesOf : List Document → List Value
  | [] => []
  | d :: rest => d.value :: valuesOf rest

/-- The members of an object as members of a value. -/
def memberValuesOf : List (String × Document) → List (List Nat × Value)
  | [] => []
  | (key, d) :: rest => (unitsOf key.toList, d.value) :: memberValuesOf rest

end

end FrontendPolicy.Json
