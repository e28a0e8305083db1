import FrontendPolicy.Text.Quoted

/-!
# Text for a terminal

A terminal shows most characters and acts on the rest: on controls, and on the sequences that an
escape character starts. How far such a sequence has come is its `Phase`.

`plain` and `plainStream` drop what a terminal acts on. They part ways at a layout character inside
of a sequence, which ends the sequence in one and only interrupts it in the other. `spellControls`
drops nothing and spells out the controls that steer a terminal.
-/

namespace FrontendPolicy.Text

/-! ## Sequences -/

/-- How far a sequence has come. -/
inductive Phase where
  /-- No sequence is open. -/
  | text
  /-- After the escape character. -/
  | escape
  /-- In a short sequence, after a character that does not end it. -/
  | escapeInfix
  /-- In a control sequence, before its last character. -/
  | control
  /-- At the start of a device string. -/
  | device
  /-- In the numbers of a device string. -/
  | deviceNumbers
  /-- Between the numbers of a device string and its name. -/
  | deviceInfix
  /-- In the contents of a device string or of a message. -/
  | contents
  /-- In a command to the terminal's system. -/
  | command
deriving DecidableEq, Repr

namespace Phase

/-- The phase after a character that stands at the start of an escape sequence. -/
def afterEscape (n : Nat) : Phase :=
  if n = 0x50 then device
  else if n = 0x58 || n = 0x5E || n = 0x5F then contents
  else if n = 0x5B then control
  else if n = 0x5D then command
  else if 0x30 ≤ n && n ≤ 0x7E then text
  else if 0x20 ≤ n && n ≤ 0x2F then escapeInfix
  else escape

/-- The phase after a character in the head of a device string. The head is a sign, numbers, infix
characters and a name, in this order, and a head that is out of order counts as contents. -/
def afterDevice (p : Phase) (n : Nat) : Phase :=
  if 0x40 ≤ n && n ≤ 0x7E then contents
  else if 0x3C ≤ n && n ≤ 0x3F then if p = device then deviceNumbers else contents
  else if 0x30 ≤ n && n ≤ 0x3B then if p = deviceInfix then contents else deviceNumbers
  else if 0x20 ≤ n && n ≤ 0x2F then deviceInfix
  else p

/-- The phase after an ASCII character. An escape character starts anew in every phase, and two
controls end every sequence. -/
def afterAscii (p : Phase) (n : Nat) : Phase :=
  if n = 0x1B then escape
  else if n = 0x18 || n = 0x1A then text
  else
    match p with
    | text => text
    | escape => afterEscape n
    | escapeInfix => if 0x30 ≤ n && n ≤ 0x7E then text else escapeInfix
    | control => if 0x40 ≤ n && n ≤ 0x7E then text else control
    | device | deviceNumbers | deviceInfix => p.afterDevice n
    | contents => contents
    | command => if n = 0x07 then text else command

/-- The byte that ends contents by itself. -/
def contentsEnd : UInt8 := 0x9C

/-- The phase after a character. Past ASCII a character ends contents if its bytes hold the one
that does, and otherwise changes nothing. -/
def after (p : Phase) (c : Char) : Phase :=
  if c.toNat < 0x80 then p.afterAscii c.toNat
  else if p = contents && (encode [c]).contains contentsEnd then text
  else p

/-- Whether a character is a control that moves on along the line or to another one. -/
def isLayout (c : Char) : Bool := c = '\t' || c = '\n' || c = '\x0c' || c = '\r'

/-- Whether a terminal shows a character. Layout is kept inside a short sequence or a control
sequence too. -/
def shows (p : Phase) (c : Char) : Bool :=
  match p with
  | text => isLayout c || (0x20 ≤ c.toNat && c ≠ '\x7f')
  | escape | escapeInfix | control => isLayout c
  | _ => false

end Phase

/-! ## Plain text -/

/-- What is shown of the rest of a text. A character that is shown closes a sequence that it
stands in. -/
def plainFrom (p : Phase) : List Char → List Char
  | [] => []
  | c :: rest => if p.shows c then c :: plainFrom .text rest else plainFrom (p.after c) rest

/-- A text without what a terminal acts on. -/
def plain (s : String) : String := String.ofList (plainFrom .text s.toList)

/-- What is shown of the rest of a stream. A layout character leaves the sequence that it stands
in open: a run of shown ASCII characters follows it, and what ends the run goes on with the
sequence. -/
def plainStreamFrom (p : Phase) (inRun : Bool) : List Char → List Char
  | [] => []
  | c :: rest =>
    if (if inRun then Phase.text else p).shows c then
      c :: plainStreamFrom (if c.toNat < 0x80 then p else .text) true rest
    else plainStreamFrom (p.after c) false rest

/-- A stream without what a terminal acts on. -/
def plainStream (s : String) : String := String.ofList (plainStreamFrom .text false s.toList)

/-! ## Emphasis and spelled controls -/

/-- A text set off from the text around it by control sequences. -/
def emphasized (s : String) : String := "\x1b[1m" ++ s ++ "\x1b[0m"

/-- A character, spelled out if it is a control that steers a terminal. -/
def spellControl (c : Char) : List Char :=
  if c = '\x07' || c = '\x08' || c = '\x0c' || c = '\x1b' || c = '\x7f' then
    ['\\', 'x', Nat.digitChar (c.toNat / 16), Nat.digitChar (c.toNat % 16)]
  else if 0x80 ≤ c.toNat && c.toNat ≤ 0x9F then bracedCode c
  else [c]

/-- A text in which the controls that steer a terminal are spelled out. -/
def spellControls (s : String) : String := String.ofList (s.toList.flatMap spellControl)

end FrontendPolicy.Text
