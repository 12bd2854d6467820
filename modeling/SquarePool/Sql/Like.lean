/-!
# Patterns

Patterns of a text search: a percent sign stands for any run of characters, a low line for any one
character, and a backslash makes the character after it stand for itself.
-/

namespace SquarePool.Sql.Like

/-- Whether some end of a text passes a test. -/
def someEnd (test : List Char → Bool) : List Char → Bool
  | [] => test []
  | c :: rest => test (c :: rest) || someEnd test rest

/-- Whether a pattern accepts a text. A backslash at the end of a pattern accepts nothing. -/
def accepts : List Char → List Char → Bool
  | [], text => text.isEmpty
  | '%' :: pattern, text => someEnd (accepts pattern) text
  | '_' :: pattern, text =>
    match text with
    | [] => false
    | _ :: rest => accepts pattern rest
  | '\\' :: c :: pattern, text =>
    match text with
    | [] => false
    | d :: rest => c == d && accepts pattern rest
  | ['\\'], _ => false
  | c :: pattern, text =>
    match text with
    | [] => false
    | d :: rest => c == d && accepts pattern rest

/-- The character has a meaning of its own in a pattern. -/
def isSpecial (c : Char) : Bool := c == '\\' || c == '%' || c == '_'

/-- A text with a backslash before each special character. -/
def quote : List Char → List Char
  | [] => []
  | c :: rest => if isSpecial c then '\\' :: c :: quote rest else c :: quote rest

/-- The pattern of the texts that hold `text`. -/
def holding (text : String) : String := String.ofList ('%' :: quote text.toList ++ ['%'])

end SquarePool.Sql.Like
