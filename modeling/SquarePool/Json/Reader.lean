import SquarePool.Json.Basic
import SquarePool.Text.Decimal

/-!
# Reading JSON

A strict reader: one document, no comments, no commas before a closing bracket, no control
characters in texts, nothing after the document but blanks. Objects may repeat a name. Nesting is
as deep as the document: the reader's budget is the length of the text, and each step spends some
of it.
-/

namespace SquarePool.Json

/-- The blanks of the format. -/
def isBlank (c : Char) : Bool := c == ' ' || c == '\n' || c == '\t' || c == '\r'

/-- Drops the blanks at the front. -/
def skipBlanks (cs : List Char) : List Char := cs.dropWhile isBlank

/-- The value of a hexadecimal digit. -/
def hexDigit? (c : Char) : Option Nat :=
  if '0' ≤ c ∧ c ≤ '9' then some (c.toNat - '0'.toNat)
  else if 'a' ≤ c ∧ c ≤ 'f' then some (c.toNat - 'a'.toNat + 10)
  else if 'A' ≤ c ∧ c ≤ 'F' then some (c.toNat - 'A'.toNat + 10)
  else none

/-- The value of four hexadecimal digits. -/
def hex4? (a b c d : Char) : Option Nat := do
  let a ← hexDigit? a
  let b ← hexDigit? b
  let c ← hexDigit? c
  let d ← hexDigit? d
  some (((a * 16 + b) * 16 + c) * 16 + d)

/-- A piece of a text: a character, or half of a surrogate pair. -/
inductive Piece where
  | char (c : Char)
  | half (unit : Nat)
  deriving DecidableEq, Repr

/-- The piece that a unit of sixteen bits stands for. -/
def Piece.ofUnit (unit : Nat) : Piece :=
  if 0xD800 ≤ unit ∧ unit < 0xE000 then .half unit else .char (Char.ofNat unit)

/-- The character that a letter after a backslash stands for. -/
def shortEscape? : Char → Option Char
  | '"' => some '"'
  | '\\' => some '\\'
  | '/' => some '/'
  | 'b' => some '\x08'
  | 'f' => some '\x0c'
  | 'n' => some '\n'
  | 'r' => some '\r'
  | 't' => some '\t'
  | _ => none

/-- Reads a text after its opening quote, through its closing one. -/
def readPieces : List Char → Option (List Piece × List Char)
  | [] => none
  | '"' :: rest => some ([], rest)
  | '\\' :: 'u' :: a :: b :: c :: d :: rest =>
    match hex4? a b c d with
    | some unit => (readPieces rest).map fun (ps, r) => (Piece.ofUnit unit :: ps, r)
    | none => none
  | '\\' :: e :: rest =>
    match shortEscape? e with
    | some c => (readPieces rest).map fun (ps, r) => (.char c :: ps, r)
    | none => none
  | c :: rest =>
    if c.toNat < 0x20 ∨ c = '\\' then none
    else (readPieces rest).map fun (ps, r) => (.char c :: ps, r)

/-- Joins the halves of surrogate pairs. A half that stands alone leaves no text. -/
def joinPieces : List Piece → Option (List Char)
  | [] => some []
  | .char c :: rest => (joinPieces rest).map (c :: ·)
  | .half high :: .half low :: rest =>
    if high < 0xDC00 ∧ 0xDC00 ≤ low then
      (joinPieces rest).map
        (Char.ofNat (0x10000 + (high - 0xD800) * 0x400 + (low - 0xDC00)) :: ·)
    else
      none
  | .half _ :: _ => none

/-- Reads a text after its opening quote. -/
def readText (cs : List Char) : Option (Option String × List Char) :=
  (readPieces cs).map fun (ps, rest) => ((joinPieces ps).map String.ofList, rest)

/-- Reads one or more digits. -/
def readDigits (cs : List Char) : Option (List Nat × List Char) :=
  match Text.spanDigits cs with
  | ([], _) => none
  | (ds, rest) => some (ds, rest)

/-- Reads the digits before the point: a zero stands alone. -/
def readWhole (cs : List Char) : Option (List Nat × List Char) :=
  match readDigits cs with
  | some (0 :: _ :: _, _) => none
  | r => r

/-- Reads the digits after a point, if there is a point. -/
def readFraction : List Char → Option (List Nat × List Char)
  | '.' :: cs => readDigits cs
  | cs => some ([], cs)

/-- Reads an exponent, if there is one. -/
def readExponent (cs : List Char) : Option (Option Int × List Char) :=
  match cs with
  | [] => some (none, [])
  | e :: rest =>
    if e = 'e' ∨ e = 'E' then
      match rest with
      | '-' :: cs => (readDigits cs).map fun (ds, r) => (some (-(Text.ofDigits ds : Int)), r)
      | '+' :: cs => (readDigits cs).map fun (ds, r) => (some (Text.ofDigits ds : Int), r)
      | cs => (readDigits cs).map fun (ds, r) => (some (Text.ofDigits ds : Int), r)
    else
      some (none, cs)

/-- Reads a number. -/
def readNumber (cs : List Char) : Option (Number × List Char) := do
  let (negative, cs) := match cs with
    | '-' :: rest => (true, rest)
    | _ => (false, cs)
  let (whole, cs) ← readWhole cs
  let (fraction, cs) ← readFraction cs
  let (exponent, cs) ← readExponent cs
  some ({ negative, whole, fraction, exponent }, cs)

mutual

/-- Reads a document at the front of `cs`. -/
def readValue (fuel : Nat) (cs : List Char) : Option (Json × List Char) :=
  match fuel with
  | 0 => none
  | fuel + 1 =>
    match skipBlanks cs with
    | 'n' :: 'u' :: 'l' :: 'l' :: rest => some (null, rest)
    | 't' :: 'r' :: 'u' :: 'e' :: rest => some (bool true, rest)
    | 'f' :: 'a' :: 'l' :: 's' :: 'e' :: rest => some (bool false, rest)
    | '"' :: rest => (readText rest).map fun (s, r) => (string s, r)
    | '[' :: rest =>
      match skipBlanks rest with
      | ']' :: r => some (array [], r)
      | r => (readItems fuel r).map fun (items, r) => (array items, r)
    | '{' :: rest =>
      match skipBlanks rest with
      | '}' :: r => some (object [], r)
      | r => (readMembers fuel r).map fun (members, r) => (object members, r)
    | cs => (readNumber cs).map fun (n, r) => (number n, r)

/-- Reads the items of an array, of which there is at least one, through its closing bracket. -/
def readItems (fuel : Nat) (cs : List Char) : Option (List Json × List Char) :=
  match fuel with
  | 0 => none
  | fuel + 1 =>
    match readValue fuel cs with
    | none => none
    | some (item, rest) =>
      match skipBlanks rest with
      | ',' :: r => (readItems fuel r).map fun (items, r) => (item :: items, r)
      | ']' :: r => some ([item], r)
      | _ => none

/-- Reads the members of an object, of which there is at least one, through its closing brace. -/
def readMembers (fuel : Nat) (cs : List Char) :
    Option (List (Option String × Json) × List Char) :=
  match fuel with
  | 0 => none
  | fuel + 1 =>
    match skipBlanks cs with
    | '"' :: rest =>
      match readText rest with
      | none => none
      | some (name, rest) =>
        match skipBlanks rest with
        | ':' :: rest =>
          match readValue fuel rest with
          | none => none
          | some (value, rest) =>
            match skipBlanks rest with
            | ',' :: r =>
              (readMembers fuel r).map fun (members, r) => ((name, value) :: members, r)
            | '}' :: r => some ([(name, value)], r)
            | _ => none
        | _ => none
    | _ => none

end

/-- Reads a text that is one document. -/
def parse? (source : String) : Option Json :=
  let cs := source.toList
  match readValue (2 * cs.length + 2) cs with
  | some (json, rest) => if (skipBlanks rest).isEmpty then some json else none
  | none => none

end SquarePool.Json
