import FrontendPolicy.Decimal.Shortest
import FrontendPolicy.Text.Quoted

/-!
# What can be wrong with a JSON text

A failure does not always know its place when it is found. Some are at a spot of the text from the
start; others are loose and take their place when the enclosing list or object is left. `Failure`
keeps the two apart. What is wrong is a `Cause` in either case, and whoever asked for the text to be
read is told the cause with its line and column (`Rejection`).
-/

namespace FrontendPolicy.Json

/-! ## Causes -/

/-- The two kinds of brackets. -/
inductive Bracket where
  | list
  | object
deriving DecidableEq, Repr

/-- The character that ends what a bracket begins. -/
def Bracket.closer : Bracket → Char
  | .list => ']'
  | .object => '\x7d'

/-- A number as a reader takes it: an integer of at most 64 bits, or a decimal. -/
inductive Amount where
  | whole (value : Int)
  | real (value : Decimal)
deriving DecidableEq, Repr

/-- A value of another type than the expected one. -/
inductive Found where
  | null
  | flag (value : Bool)
  | number (value : Amount)
  | text (value : String)
  | list
  | object
deriving DecidableEq, Repr

/-- What can be wrong with a JSON text. -/
inductive Cause where
  | endInValue
  | endInText
  | endInBracket (bracket : Bracket)
  | expectedValue
  | expectedWord
  | expectedColon
  | expectedCommaOrEnd (bracket : Bracket)
  | expectedKey
  | trailingComma
  | trailingCharacters
  | badNumber
  | numberOutOfRange
  | controlCharacter
  | badEscape
  | unpairedSurrogate
  | missingSurrogate
  | wrongType (found : Found) (expected : String)
  | repeatedField (name : String)
  | missingField (name : String)
  | tooFewElements (count : Nat) (expected : String)
  | unknownToken (raw : String) (known : List String)
deriving DecidableEq, Repr

/-- How an error text names a number. -/
def Amount.description : Amount → String
  | .whole value => "integer `" ++ toString value ++ "`"
  | .real value => "floating point `" ++ value.text ++ "`"

/-- How an error text names a value of the wrong type. -/
def Found.description : Found → String
  | .null => "null"
  | .flag value => "boolean `" ++ (if value then "true" else "false") ++ "`"
  | .number value => value.description
  | .text value => "string " ++ Text.quote value
  | .list => "sequence"
  | .object => "map"

/-- The wording of a cause. -/
def Cause.message : Cause → String
  | .endInValue => "EOF while parsing a value"
  | .endInText => "EOF while parsing a string"
  | .endInBracket .list => "EOF while parsing a list"
  | .endInBracket .object => "EOF while parsing an object"
  | .expectedValue => "expected value"
  | .expectedWord => "expected ident"
  | .expectedColon => "expected `:`"
  | .expectedCommaOrEnd .list => "expected `,` or `]`"
  | .expectedCommaOrEnd .object => "expected `,` or `\x7d`"
  | .expectedKey => "key must be a string"
  | .trailingComma => "trailing comma"
  | .trailingCharacters => "trailing characters"
  | .badNumber => "invalid number"
  | .numberOutOfRange => "number out of range"
  | .controlCharacter => "control character (\\u0000-\\u001F) found while parsing a string"
  | .badEscape => "invalid escape"
  | .unpairedSurrogate => "lone leading surrogate in hex escape"
  | .missingSurrogate => "unexpected end of hex escape"
  | .wrongType found expected => "invalid type: " ++ found.description ++ ", expected " ++ expected
  | .repeatedField name => "duplicate field `" ++ name ++ "`"
  | .missingField name => "missing field `" ++ name ++ "`"
  | .tooFewElements count expected =>
    "invalid length " ++ toString count ++ ", expected " ++ expected
  | .unknownToken raw known =>
    "unknown variant '" ++ raw ++ "', expected one of: " ++ String.intercalate ", " known

/-! ## Places -/

/-- A spot of a text: some bytes past the point where only `rest` is left. -/
structure Spot where
  rest : List Char
  ahead : Nat
deriving DecidableEq, Repr

/-- Why a reader stopped. A loose failure keeps what was left of the text and takes its place
when the enclosing list or object has been left. -/
inductive Failure where
  | placed (cause : Cause) (spot : Spot)
  | loose (cause : Cause) (rest : List Char)
deriving DecidableEq, Repr

/-- A failure right after all that was read. -/
def failHere (cause : Cause) (rest : List Char) : Failure := .placed cause ⟨rest, 0⟩

/-- A failure at the next byte, or at the end of the text where there is none. -/
def failNext (cause : Cause) (rest : List Char) : Failure := .placed cause ⟨rest, 1⟩

/-- A place in a text. Lines count from one, columns in bytes from the start of the line. -/
structure Position where
  line : Nat
  column : Nat
deriving DecidableEq, Repr

/-- The place right after some bytes of a text. -/
def Position.after (bytes : List UInt8) : Position :=
  ⟨1 + bytes.count 10, (bytes.reverse.takeWhile (· ≠ 10)).length⟩

/-- The place of a spot of a text. A spot past the end is at the end. -/
def Spot.position (text : List Char) (spot : Spot) : Position :=
  let bytes := Text.encode text
  Position.after (bytes.take (bytes.length - (Text.encode spot.rest).length + spot.ahead))

/-- Why a text is rejected, and where. -/
structure Rejection where
  cause : Cause
  position : Option Position
deriving DecidableEq, Repr

/-- The rejection of a text by a failure. A failure that is still loose has no place. -/
def Failure.rejection (text : List Char) : Failure → Rejection
  | .placed cause spot => ⟨cause, some (spot.position text)⟩
  | .loose cause _ => ⟨cause, none⟩

/-- The wording of a rejection. -/
def Rejection.message (r : Rejection) : String :=
  match r.position with
  | some p => r.cause.message ++ " at line " ++ toString p.line ++ " column " ++ toString p.column
  | none => r.cause.message

end FrontendPolicy.Json
