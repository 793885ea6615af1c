/-!
# JSON values and their written form

Bombs are handed to the host as JSON text. A value has a compact form without any blanks and an
indented form for readers. Inside a string the quote, the backslash and the control characters are
escaped, and every other character is written as it is.
-/

namespace BombMission

/-- A JSON value. Numbers are natural numbers, and members keep their order. -/
inductive Json where
  | null
  | boolean (value : Bool)
  | number (value : Nat)
  | string (value : String)
  | list (items : List Json)
  | record (members : List (String × Json))

namespace Json

def escapeChar (c : Char) : List Char :=
  if c = '"' then ['\\', '"']
  else if c = '\\' then ['\\', '\\']
  else if c = '\x08' then ['\\', 'b']
  else if c = '\t' then ['\\', 't']
  else if c = '\n' then ['\\', 'n']
  else if c = '\x0c' then ['\\', 'f']
  else if c = '\r' then ['\\', 'r']
  else if c.toNat < 0x20 then
    ['\\', 'u', '0', '0', Nat.digitChar (c.toNat / 16), Nat.digitChar (c.toNat % 16)]
  else [c]

def escape (text : String) : List Char :=
  '"' :: text.toList.flatMap escapeChar ++ ['"']

def booleanName (value : Bool) : List Char :=
  (if value then "true" else "false").toList

mutual

/-- The form of a value without blanks. -/
def compactChars : Json → List Char
  | null => "null".toList
  | boolean value => booleanName value
  | number value => Nat.toDigits 10 value
  | string value => escape value
  | list items => '[' :: compactItems items ++ [']']
  | record members => '{' :: compactMembers members ++ ['}']

def compactItems : List Json → List Char
  | [] => []
  | [item] => compactChars item
  | item :: items => compactChars item ++ ',' :: compactItems items

def compactMembers : List (String × Json) → List Char
  | [] => []
  | [(key, value)] => escape key ++ ':' :: compactChars value
  | (key, value) :: members =>
    escape key ++ ':' :: compactChars value ++ ',' :: compactMembers members

end

/-- The form of a value without blanks. -/
def compact (value : Json) : String :=
  String.ofList (compactChars value)

/-- The start of a line at a depth: two spaces for each level. -/
def lineStart (depth : Nat) : List Char :=
  '\n' :: List.replicate (2 * depth) ' '

mutual

/-- The form of a value with every item and member on a line of its own. -/
def indentedChars (depth : Nat) : Json → List Char
  | null => "null".toList
  | boolean value => booleanName value
  | number value => Nat.toDigits 10 value
  | string value => escape value
  | list [] => ['[', ']']
  | list (item :: items) =>
    '[' :: lineStart (depth + 1) ++ indentedChars (depth + 1) item ++
      indentedItems (depth + 1) items ++ lineStart depth ++ [']']
  | record [] => ['{', '}']
  | record ((key, value) :: members) =>
    '{' :: lineStart (depth + 1) ++ escape key ++ ':' :: ' ' :: indentedChars (depth + 1) value ++
      indentedMembers (depth + 1) members ++ lineStart depth ++ ['}']

def indentedItems (depth : Nat) : List Json → List Char
  | [] => []
  | item :: items =>
    ',' :: lineStart depth ++ indentedChars depth item ++ indentedItems depth items

def indentedMembers (depth : Nat) : List (String × Json) → List Char
  | [] => []
  | (key, value) :: members =>
    ',' :: lineStart depth ++ escape key ++ ':' :: ' ' :: indentedChars depth value ++
      indentedMembers depth members

end

def indented (value : Json) : String :=
  String.ofList (indentedChars 0 value)

def optional {α : Type} (write : α → Json) : Option α → Json
  | none => null
  | some value => write value

end Json

end BombMission
