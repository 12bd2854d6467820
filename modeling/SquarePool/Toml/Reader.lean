import SquarePool.Json.Reader
import SquarePool.Toml.Scalar

/-!
# Reading TOML

A document is a list of lines: headers, and keys with their values. Strings are written in four
ways, between one or three quotes of either kind; those in double quotes know escapes, those in
three quotes may hold line breaks. Arrays may be spread over lines, inline tables may not. Nesting
is limited.
-/

namespace SquarePool.Toml

/-- How deep arrays and inline tables may be nested. -/
def maxDepth : Nat := 79

/-- How many names a key may join. -/
def maxNames : Nat := 79

/-- A character that may stand in a string or a comment. -/
def isPlain (c : Char) : Bool := c == '\t' || (0x20 ≤ c.toNat && c.toNat != 0x7F)

/-- A blank within a line. -/
def isBlank (c : Char) : Bool := c == ' ' || c == '\t'

/-- Drops the blanks at the front. -/
def skipBlanks (cs : List Char) : List Char := cs.dropWhile isBlank

/-- Splits off a line break. -/
def lineBreak? : List Char → Option (List Char)
  | '\n' :: cs => some cs
  | '\r' :: '\n' :: cs => some cs
  | _ => none

/-! ## Strings -/

/-- The character that a letter after a backslash stands for. -/
def shortEscape? : Char → Option Char
  | 'b' => some '\x08'
  | 't' => some '\t'
  | 'n' => some '\n'
  | 'f' => some '\x0c'
  | 'r' => some '\r'
  | '"' => some '"'
  | '\\' => some '\\'
  | _ => none

/-- The character with a number, if there is one. -/
def charOf? (n : Nat) : Option Char := if n.isValidChar then some (Char.ofNat n) else none

/-- The character that four hexadecimal digits stand for. -/
def escape4? (a b c d : Char) : Option Char := (Json.hex4? a b c d).bind charOf?

/-- The character that eight hexadecimal digits stand for. -/
def escape8? (a b c d e f g h : Char) : Option Char := do
  let high ← Json.hex4? a b c d
  let low ← Json.hex4? e f g h
  charOf? (high * 65536 + low)

/-- Puts a character before what was read. -/
def prepend (c : Char) (r : Option (List Char × List Char)) : Option (List Char × List Char) :=
  r.map fun (cs, rest) => (c :: cs, rest)

/-- Reads a string in single double quotes after its opening quote. -/
def readBasic : List Char → Option (List Char × List Char)
  | [] => none
  | '"' :: rest => some ([], rest)
  | '\\' :: 'u' :: a :: b :: c :: d :: rest =>
    (escape4? a b c d).bind fun x => prepend x (readBasic rest)
  | '\\' :: 'U' :: a :: b :: c :: d :: e :: f :: g :: h :: rest =>
    (escape8? a b c d e f g h).bind fun x => prepend x (readBasic rest)
  | '\\' :: e :: rest => (shortEscape? e).bind fun x => prepend x (readBasic rest)
  | c :: rest => if isPlain c && c != '\\' then prepend c (readBasic rest) else none

/-- Reads a string in single quotes after its opening quote. -/
def readLiteral : List Char → Option (List Char × List Char)
  | [] => none
  | '\'' :: rest => some ([], rest)
  | c :: rest => if isPlain c then prepend c (readLiteral rest) else none

/-- Ends a string in three quotes, after them: up to two quotes more belong to the string. -/
def endOfLong (quote : Char) : List Char → List Char × List Char
  | a :: b :: rest =>
    if a = quote then
      if b = quote then ([quote, quote], rest) else ([quote], b :: rest)
    else
      ([], a :: b :: rest)
  | [a] => if a = quote then ([quote], []) else ([], [a])
  | [] => ([], [])

/-- Only blanks stand before the end of the line. -/
def isLineEnd (cs : List Char) : Bool := (lineBreak? (skipBlanks cs)).isSome

/-- Reads a string in three double quotes. While `skipping`, after a backslash at the end of a
line, blanks and line breaks are dropped. -/
def readLongBasic (skipping : Bool) : List Char → Option (List Char × List Char)
  | [] => none
  | '"' :: '"' :: '"' :: rest => some (endOfLong '"' rest)
  | '\r' :: '\n' :: rest =>
    if skipping then readLongBasic true rest else prepend '\n' (readLongBasic false rest)
  | '\\' :: 'u' :: a :: b :: c :: d :: rest =>
    (escape4? a b c d).bind fun x => prepend x (readLongBasic false rest)
  | '\\' :: 'U' :: a :: b :: c :: d :: e :: f :: g :: h :: rest =>
    (escape8? a b c d e f g h).bind fun x => prepend x (readLongBasic false rest)
  | '\\' :: e :: rest =>
    if isLineEnd (e :: rest) then readLongBasic true (e :: rest)
    else (shortEscape? e).bind fun x => prepend x (readLongBasic false rest)
  | c :: rest =>
    if skipping && (isBlank c || c == '\n') then readLongBasic true rest
    else if (isPlain c && c != '\\') || c == '\n' then prepend c (readLongBasic false rest)
    else none

/-- Reads a string in three single quotes. -/
def readLongLiteral : List Char → Option (List Char × List Char)
  | [] => none
  | '\'' :: '\'' :: '\'' :: rest => some (endOfLong '\'' rest)
  | '\r' :: '\n' :: rest => prepend '\n' (readLongLiteral rest)
  | c :: rest => if isPlain c || c == '\n' then prepend c (readLongLiteral rest) else none

/-- Drops the line break that may follow the opening of a long string. -/
def afterOpening (cs : List Char) : List Char := (lineBreak? cs).getD cs

/-- Gives what was read as a text. -/
def asText (r : Option (List Char × List Char)) : Option (String × List Char) :=
  r.map fun (cs, rest) => (String.ofList cs, rest)

/-- Reads a string of any kind. -/
def readString : List Char → Option (String × List Char)
  | '"' :: '"' :: '"' :: rest => asText (readLongBasic false (afterOpening rest))
  | '"' :: rest => asText (readBasic rest)
  | '\'' :: '\'' :: '\'' :: rest => asText (readLongLiteral (afterOpening rest))
  | '\'' :: rest => asText (readLiteral rest)
  | _ => none

/-! ## Keys -/

/-- A character of a key without quotes. -/
def isKeyChar (c : Char) : Bool := c.isAlphanum || c == '_' || c == '-'

/-- Reads one name of a key. -/
def readName : List Char → Option (String × List Char)
  | '"' :: rest => asText (readBasic rest)
  | '\'' :: rest => asText (readLiteral rest)
  | cs =>
    match cs.span isKeyChar with
    | ([], _) => none
    | (name, rest) => some (String.ofList name, rest)

/-- Reads names joined by dots, at most `limit` of them, and the blanks around each. -/
def readNames : (limit : Nat) → List Char → Option (List String × List Char)
  | 0, _ => none
  | limit + 1, cs =>
    match readName (skipBlanks cs) with
    | none => none
    | some (name, rest) =>
      match skipBlanks rest with
      | '.' :: rest => (readNames limit rest).map fun (names, r) => (name :: names, r)
      | rest => some ([name], rest)

/-- A key: the names that lead to its table, and its own name. -/
abbrev Key : Type := List String × String

/-- Reads a key. -/
def readKey (cs : List Char) : Option (Key × List Char) := do
  let (names, rest) ← readNames maxNames cs
  let last ← names.getLast?
  some ((names.dropLast, last), rest)

/-! ## Values -/

/-- Drops blanks, line breaks and comments. -/
def skipGaps (inComment : Bool) : List Char → Option (List Char)
  | [] => some []
  | '\n' :: rest => skipGaps false rest
  | '\r' :: '\n' :: rest => skipGaps false rest
  | c :: rest =>
    if inComment then if isPlain c then skipGaps true rest else none
    else if isBlank c then skipGaps false rest
    else if c = '#' then skipGaps true rest
    else some (c :: rest)

/-- Reads the items of an array after its opening bracket. -/
def readItems (item : List Char → Option (Toml × List Char)) :
    (fuel : Nat) → List Char → Option (List Toml × List Char)
  | 0, _ => none
  | fuel + 1, cs =>
    match skipGaps false cs with
    | none => none
    | some (']' :: rest) => some ([], rest)
    | some cs => do
      let (value, rest) ← item cs
      match ← skipGaps false rest with
      | ',' :: rest => (readItems item fuel rest).map fun (values, r) => (value :: values, r)
      | ']' :: rest => some ([value], rest)
      | _ => none

/-- Reads a key with its value. -/
def readPair (item : List Char → Option (Toml × List Char)) (cs : List Char) :
    Option ((Key × Toml) × List Char) := do
  let (key, rest) ← readKey cs
  match rest with
  | '=' :: rest =>
    let (value, rest) ← item (skipBlanks rest)
    some ((key, value), rest)
  | _ => none

/-- Reads the pairs of an inline table, of which there is at least one, and sets their keys. -/
def readPairs (item : List Char → Option (Toml × List Char)) :
    (fuel : Nat) → Members → List Char → Option (Members × List Char)
  | 0, _, _ => none
  | fuel + 1, members, cs => do
    let ((key, value), rest) ← readPair item cs
    let members ← setKey key.2 value key.1 members
    match skipBlanks rest with
    | ',' :: rest => readPairs item fuel members rest
    | '}' :: rest => some (members, rest)
    | _ => none

/-- Reads a value in which arrays and tables may be nested `depth` deep. -/
def readValue : (depth : Nat) → List Char → Option (Toml × List Char)
  | 0, cs =>
    match cs with
    | '[' :: _ => none
    | '{' :: _ => none
    | cs => ((readString cs).map fun (s, r) => (string s, r)) <|> readScalar cs
  | depth + 1, cs =>
    match cs with
    | '[' :: rest =>
      (readItems (readValue depth) (rest.length + 1) rest).map fun (items, r) => (array items, r)
    | '{' :: rest =>
      match skipBlanks rest with
      | '}' :: r => some (table .inline [], r)
      | r =>
        (readPairs (readValue depth) (rest.length + 1) [] r).map fun (members, r) =>
          (table .inline members, r)
    | cs => ((readString cs).map fun (s, r) => (string s, r)) <|> readScalar cs

/-! ## Lines -/

/-- A line that says something. -/
inductive Line where
  | opensTable (key : Key)
  | opensElement (key : Key)
  | sets (key : Key) (value : Toml)
  deriving Repr

/-- Reads a line that says something, up to its end. -/
def readLine : List Char → Option (Line × List Char)
  | '[' :: '[' :: rest => do
    let (key, rest) ← readKey rest
    match rest with
    | ']' :: ']' :: r => some (.opensElement key, r)
    | _ => none
  | '[' :: rest => do
    let (key, rest) ← readKey rest
    match rest with
    | ']' :: r => some (.opensTable key, r)
    | _ => none
  | cs => (readPair (readValue maxDepth) cs).map fun ((key, value), r) => (.sets key value, r)

/-- Drops a comment, if there is one. -/
def skipComment : List Char → Option (List Char)
  | '#' :: rest =>
    let after := rest.dropWhile isPlain
    if after.isEmpty ∨ (lineBreak? after).isSome then some after else none
  | cs => some cs

/-- Reads the end of a line: blanks, a comment, and a line break or the end of the document. -/
def readLineEnd (cs : List Char) : Option (List Char) :=
  (skipComment (skipBlanks cs)).bind fun after =>
    if after.isEmpty then some [] else lineBreak? after

/-- A document on the way: its members, and the path of the table that is open. -/
structure Draft where
  members : Members := []
  header : List String := []
  deriving Repr

/-- What a line does to a document. -/
def Draft.push (draft : Draft) : Line → Option Draft
  | .opensTable key =>
    (openTable key.1 key.2 draft.members).map fun members =>
      { members, header := key.1 ++ [key.2] }
  | .opensElement key =>
    (openElement key.1 key.2 draft.members).map fun members =>
      { members, header := key.1 ++ [key.2] }
  | .sets key value =>
    (alterAt draft.header (setKey key.2 value key.1) draft.members).map fun members =>
      { draft with members }

/-- Reads lines until the document ends. -/
def readLines : (fuel : Nat) → Draft → List Char → Option Draft
  | 0, _, _ => none
  | fuel + 1, draft, cs =>
    match skipBlanks cs with
    | [] => some draft
    | c :: rest =>
      if c = '#' ∨ c = '\n' ∨ c = '\r' then
        (readLineEnd (c :: rest)).bind (readLines fuel draft)
      else do
        let (line, rest) ← readLine (c :: rest)
        let draft ← draft.push line
        let rest ← readLineEnd rest
        readLines fuel draft rest

/-- Reads a document. A byte order mark may stand before it. -/
def parse? (source : String) : Option Members :=
  let cs := match source.toList with
    | '\uFEFF' :: cs => cs
    | cs => cs
  (readLines (cs.length + 1) {} cs).map (·.members)

end SquarePool.Toml
