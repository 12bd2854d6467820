import SquarePool.Settings.Environment
import SquarePool.Text.Alphanumeric

/-!
# Environment files

A file of lines `NAME=value` that adds to an environment. A value may be quoted, may hold escapes,
and may refer to variables by a dollar sign; between single quotes every character stands for
itself. Reading ends at the first line that is malformed. Main statement: a file never changes a
variable that is already set.
-/

namespace SquarePool.EnvironmentFile

/-- The quotes that a place in a value lies between. -/
inductive Quotes where
  | none
  | single
  | double
  deriving DecidableEq, Repr

/-- How the name of a variable is being read. -/
inductive Naming where
  | none
  /-- After a dollar sign: letters and digits belong to the name. -/
  | bare
  /-- After a dollar sign and a brace: all up to the closing brace belongs to the name. -/
  | braced
  deriving DecidableEq, Repr

/-- A value in the middle of being read. -/
structure Draft where
  quotes : Quotes := .none
  naming : Naming := .none
  /-- The character before was a backslash. -/
  escaped : Bool := false
  /-- A blank ended the value; only a comment may follow. -/
  ended : Bool := false
  /-- The name that is being read, last character first. -/
  name : List Char := []
  /-- The value so far, last character first. -/
  done : List Char := []
  deriving DecidableEq, Repr

namespace Draft

/-- One more character of the value. -/
def push (d : Draft) (c : Char) : Draft := { d with done := c :: d.done }

/-- Puts the variable that was named into the value. -/
def insertNamed (d : Draft) (value : String → String) : Draft :=
  { d with
    naming := .none
    name := []
    done := (value (String.ofList d.name.reverse)).toList.reverse ++ d.done }

/-- A character after a backslash. -/
def escape (d : Draft) (c : Char) : Option Draft :=
  let d := { d with escaped := false }
  if c = 'n' then some (d.push '\n')
  else if c ∈ ['\\', '\'', '"', '$', ' '] then some (d.push c)
  else none

/-- A character of the name of a variable, or the one after it. -/
def inName (d : Draft) (value : String → String) (c : Char) : Draft :=
  if Text.isAlphanumeric c then { d with name := c :: d.name }
  else if d.naming = .braced then
    if c = '}' then d.insertNamed value else { d with name := c :: d.name }
  else if c = '{' ∧ d.name = [] then { d with naming := .braced }
  else
    let d := d.insertNamed value
    if c = '$' then { d with naming := .bare } else d.push c

/-- A character with no name or escape before it. -/
def plain (d : Draft) (c : Char) : Draft :=
  if c = '$' then { d with naming := .bare }
  else if c = '\\' then { d with escaped := true }
  else if d.quotes = .double then
    if c = '"' then { d with quotes := .none } else d.push c
  else if c = '\'' then { d with quotes := .single }
  else if c = '"' then { d with quotes := .double }
  else if c = ' ' ∨ c = '\t' then { d with ended := true }
  else d.push c

/-- The next character of a value that has not ended. -/
def step (d : Draft) (value : String → String) (c : Char) : Option Draft :=
  if d.escaped then d.escape c
  else if d.quotes = .single then
    some (if c = '\'' then { d with quotes := .none } else d.push c)
  else if d.naming ≠ .none then some (d.inName value c)
  else some (d.plain c)

/-- The value at its end. Quotes and braces must be closed. -/
def finish (d : Draft) (value : String → String) : Option String :=
  if d.quotes ≠ .none ∨ d.naming = .braced then none
  else some (String.ofList (d.insertNamed value).done.reverse)

end Draft

/-- Reads a value. -/
def readValue? (value : String → String) (d : Draft) : List Char → Option String
  | [] => d.finish value
  | c :: rest =>
    if d.ended then
      if c = ' ' ∨ c = '\t' then readValue? value d rest
      else if c = '#' then d.finish value
      else none
    else
      (d.step value c).bind fun d => readValue? value d rest

/-- The character may start a name. -/
def startsName (c : Char) : Bool := c.isAlpha || c == '_'

/-- The character may stand in a name. -/
def isNameChar (c : Char) : Bool := c.isAlphanum || c == '_' || c == '.'

/-- Reads a name and the blanks after it; the rest is given with it. -/
def readName? (cs : List Char) : Option (String × List Char) :=
  match cs with
  | c :: _ =>
    if startsName c then
      some (String.ofList (cs.takeWhile isNameChar), Text.trimLeft (cs.dropWhile isNameChar))
    else
      none
  | [] => none

/-- Reads an equals sign and the blanks after it. -/
def readEquals? : List Char → Option (List Char)
  | '=' :: rest => some (Text.trimLeft rest)
  | _ => none

/-- Reads a name and an equals sign. The word `export` may stand before the name, and may be the
name itself. -/
def readStart? (cs : List Char) : Option (String × List Char) := do
  let (name, rest) ← readName? cs
  match readEquals? rest with
  | some rest => some (name, rest)
  | none =>
    if name = "export" then
      let (name, rest) ← readName? rest
      some (name, ← readEquals? rest)
    else
      none

/-- Nothing but a comment. -/
def isIdle : List Char → Bool
  | [] => true
  | c :: _ => c == '#'

/-- A line: nothing, or a variable and its value. -/
def readLine? (value : String → String) (line : List Char) : Option (Option (String × String)) := do
  let cs := Text.trimChars line
  if isIdle cs then some none
  else
    let (name, rest) ← readStart? cs
    if isIdle rest then some (some (name, "")) else
    some (some (name, ← readValue? value {} rest))

/-- Adds the variables of lines to an environment, up to the first malformed line. -/
def addLines (env : Environment) : List (List Char) → Environment
  | [] => env
  | line :: rest =>
    match readLine? (fun name => (env name).getD "") line with
    | none => env
    | some none => addLines env rest
    | some (some (name, value)) =>
      addLines (fun n => (env n).or (if n = name then some value else none)) rest

/-- The lines of a text. -/
def linesOf (source : String) : List (List Char) :=
  (source.splitOn "\n").map String.toList

/-- The file that adds to the environment. -/
def fileName : String := ".env"

theorem addLines_of_some {env : Environment} {n v : String} (h : env n = some v)
    (lines : List (List Char)) : addLines env lines n = some v := by
  induction lines generalizing env with
  | nil => exact h
  | cons line rest ih =>
    rw [addLines]
    rcases readLine? (fun name => (env name).getD "") line with _ | _ | ⟨name, value⟩
    · exact h
    · exact ih h
    · exact ih (by simp [h])

end SquarePool.EnvironmentFile

namespace SquarePool

/-- The environment with the variables of the file that adds to it, if there is one. -/
def Environment.withFile (env : Environment) (files : Files) : Environment :=
  match files EnvironmentFile.fileName with
  | some source => EnvironmentFile.addLines env (EnvironmentFile.linesOf source)
  | none => env

end SquarePool
