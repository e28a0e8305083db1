/-!
# JSON documents

A `Document` is a JSON value as this library writes it, with the members of an object in their
order. `Document.compact` writes it without any space, and `Document.pretty` with a line per element
and member, indented by its depth. Inside of a literal both forms escape the same characters.
-/

namespace FrontendPolicy.Json

/-- A JSON value. The members of an object have an order. -/
inductive Document where
  | null
  | flag (value : Bool)
  | text (value : String)
  | list (elements : List Document)
  | object (members : List (String × Document))

/-! ## Literals -/

/-- A character inside a string literal. Quotes, backslashes and controls are escaped, and nothing
else. -/
def escape (c : Char) : List Char :=
  if c = '"' then ['\\', '"']
  else if c = '\\' then ['\\', '\\']
  else if c = '\x08' then ['\\', 'b']
  else if c = '\x0c' then ['\\', 'f']
  else if c = '\n' then ['\\', 'n']
  else if c = '\r' then ['\\', 'r']
  else if c = '\t' then ['\\', 't']
  else if c.toNat < 0x20 then
    ['\\', 'u', '0', '0', Nat.digitChar (c.toNat / 16), Nat.digitChar (c.toNat % 16)]
  else [c]

/-- A string literal. -/
def literal (s : String) : List Char := '"' :: s.toList.flatMap escape ++ ['"']

/-- A truth value. -/
def flagText : Bool → List Char
  | true => ['t', 'r', 'u', 'e']
  | false => ['f', 'a', 'l', 's', 'e']

/-- The word for no value. -/
def nullText : List Char := ['n', 'u', 'l', 'l']

/-! ## Written forms -/

namespace Document

mutual

/-- A document without any space. -/
def compact : Document → List Char
  | .null => nullText
  | .flag value => flagText value
  | .text value => literal value
  | .list elements => '[' :: compactElements elements
  | .object members => '\x7b' :: compactMembers members

/-- The elements of a list and its closing bracket. -/
def compactElements : List Document → List Char
  | [] => [']']
  | [d] => d.compact ++ [']']
  | d :: e :: rest => d.compact ++ ',' :: compactElements (e :: rest)

/-- The members of an object and its closing bracket. -/
def compactMembers : List (String × Document) → List Char
  | [] => ['\x7d']
  | [(key, d)] => literal key ++ ':' :: d.compact ++ ['\x7d']
  | (key, d) :: m :: rest => literal key ++ ':' :: d.compact ++ ',' :: compactMembers (m :: rest)

end

/-- A new line at the given depth, two blanks for each level. -/
def newline (depth : Nat) : List Char := '\n' :: List.replicate (2 * depth) ' '

mutual

/-- A document with a line per element and member, at the given depth. Empty lists and objects
stay closed. -/
def prettyAt (depth : Nat) : Document → List Char
  | .null => nullText
  | .flag value => flagText value
  | .text value => literal value
  | .list [] => ['[', ']']
  | .list (d :: rest) => '[' :: prettyElements depth (d :: rest)
  | .object [] => ['\x7b', '\x7d']
  | .object (m :: rest) => '\x7b' :: prettyMembers depth (m :: rest)

/-- The elements of a list at the given depth, each on a line of its own, and the closing
bracket. -/
def prettyElements (depth : Nat) : List Document → List Char
  | [] => newline depth ++ [']']
  | [d] => newline (depth + 1) ++ d.prettyAt (depth + 1) ++ newline depth ++ [']']
  | d :: e :: rest =>
    newline (depth + 1) ++ d.prettyAt (depth + 1) ++ ',' :: prettyElements depth (e :: rest)

/-- The members of an object at the given depth, each on a line of its own, and the closing
bracket. -/
def prettyMembers (depth : Nat) : List (String × Document) → List Char
  | [] => newline depth ++ ['\x7d']
  | [(key, d)] =>
    newline (depth + 1) ++ literal key ++ ':' :: ' ' :: d.prettyAt (depth + 1) ++
      newline depth ++ ['\x7d']
  | (key, d) :: m :: rest =>
    newline (depth + 1) ++ literal key ++ ':' :: ' ' :: d.prettyAt (depth + 1) ++
      ',' :: prettyMembers depth (m :: rest)

end

/-- The written form with a line per element and member. -/
def pretty (d : Document) : List Char := d.prettyAt 0

/-- The compact form as a text. -/
def compactText (d : Document) : String := String.ofList d.compact

/-- The pretty form as a text. -/
def prettyText (d : Document) : String := String.ofList d.pretty

end Document

end FrontendPolicy.Json
