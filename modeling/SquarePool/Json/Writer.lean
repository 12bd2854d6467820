import SquarePool.Json.Basic

/-!
# Writing JSON

A document in its shortest form: no blanks, members in their order, and only those characters
escaped that must be.
-/

namespace SquarePool.Json

/-- A hexadecimal digit, in lower case. -/
def hexChar (n : Nat) : Char :=
  if n < 10 then Char.ofNat ('0'.toNat + n) else Char.ofNat ('a'.toNat + n - 10)

/-- A character inside a text. -/
def writeChar (c : Char) : List Char :=
  if c = '"' then ['\\', '"']
  else if c = '\\' then ['\\', '\\']
  else if c = '\n' then ['\\', 'n']
  else if c = '\r' then ['\\', 'r']
  else if c = '\t' then ['\\', 't']
  else if c.toNat < 0x20 then ['\\', 'u', '0', '0', hexChar (c.toNat / 16), hexChar (c.toNat % 16)]
  else [c]

/-- A text in quotes. One that is no text is written as the half of a surrogate pair. -/
def writeText : Option String → List Char
  | some s => '"' :: s.toList.flatMap writeChar ++ ['"']
  | none => "\"\\ud800\"".toList

/-- Digits as characters. -/
def writeDigits (ds : List Nat) : List Char := ds.map fun d => Char.ofNat ('0'.toNat + d)

/-- A number as it was given. -/
def Number.write (n : Number) : List Char :=
  (if n.negative then ['-'] else []) ++ writeDigits n.whole
    ++ (if n.fraction.isEmpty then [] else '.' :: writeDigits n.fraction)
    ++ match n.exponent with
      | none => []
      | some e => 'e' :: (if e < 0 then ['-'] else []) ++ Nat.toDigits 10 e.natAbs

mutual

/-- A document in its shortest form. -/
def write : Json → List Char
  | null => "null".toList
  | bool true => "true".toList
  | bool false => "false".toList
  | number n => n.write
  | string s => writeText s
  | array items => '[' :: writeItems items ++ [']']
  | object members => '{' :: writeMembers members ++ ['}']

/-- The items of an array, with commas between them. -/
def writeItems : List Json → List Char
  | [] => []
  | [item] => write item
  | item :: rest => write item ++ ',' :: writeItems rest

/-- The members of an object, with commas between them. -/
def writeMembers : List (Option String × Json) → List Char
  | [] => []
  | [(name, value)] => writeText name ++ ':' :: write value
  | (name, value) :: rest => writeText name ++ ':' :: write value ++ ',' :: writeMembers rest

end

/-- A document as text. -/
def render (json : Json) : String := String.ofList json.write

end SquarePool.Json
