import SquarePool.Json.Number

/-!
# JSON documents

A document as it was read: members keep their order and may repeat, numbers keep their digits. A
text whose escapes hold half of a surrogate pair is no text; it is kept as an absent one, so that a
document can be valid where nobody looks at it.
-/

namespace SquarePool

/-- A JSON document. -/
inductive Json where
  | null
  | bool (value : Bool)
  | number (value : Json.Number)
  | string (value : Option String)
  | array (items : List Json)
  | object (members : List (Option String × Json))
  deriving Inhabited, Repr

namespace Json

/-- A text. -/
def text (s : String) : Json := string (some s)

/-- An integer. -/
def int (i : Int) : Json := number (Number.ofInt i)

/-- A natural number. -/
def nat (n : Nat) : Json := int n

/-- An object with the given members, in order. -/
def ofMembers (members : List (String × Json)) : Json :=
  object (members.map fun (name, value) => (some name, value))

/-- A value, or null. -/
def orNull {α : Type} (encode : α → Json) : Option α → Json
  | some a => encode a
  | none => null

end Json

end SquarePool
