import SquarePool.Json.Basic
import SquarePool.Text.Decimal
import SquarePool.Keyed

/-!
# Decoding JSON

What a document means where a value of a known shape is expected. A record is written as an object,
whose unknown members are skipped and whose known members may stand once each in any order, or as
an array of its fields in their declared order. Fields that are missing take their default. Main
statement: skipping a member that is not known changes nothing.
-/

namespace SquarePool.Json

/-- A text. -/
def text? : Json → Option String
  | string s => s
  | _ => none

/-- A truth value. -/
def bool? : Json → Option Bool
  | bool b => some b
  | _ => none

/-- An integer of 32 bits. -/
def int32? : Json → Option Int
  | number n => n.integer?.filter Text.isInt32
  | _ => none

/-- The whole part of a quantity. -/
def whole? : Json → Option Int
  | number n => n.whole?
  | _ => none

/-- A value that may be null. -/
def nullable? {α : Type} (decode : Json → Option α) : Json → Option (Option α)
  | null => some none
  | json => (decode json).map some

/-- A list. -/
def list? {α : Type} (decode : Json → Option α) : Json → Option (List α)
  | array items => items.mapM decode
  | _ => none

/-- A member of a keyed enumeration: its key, or an object that maps its key to null. -/
def keyed? {α : Type} [Keyed α] : Json → Option α
  | string (some s) => ofKey? s
  | object [(some s, null)] => ofKey? s
  | _ => none

/-- The members of an object whose names are known, in their order. Every name must be a text, and
no known name may come twice. -/
def knownMembers (names : List String) :
    List (Option String × Json) → Option (List (String × Json))
  | [] => some []
  | (none, _) :: _ => none
  | (some name, value) :: rest => do
    let found ← knownMembers names rest
    if names.contains name then
      if (found.lookup name).isSome then none else some ((name, value) :: found)
    else
      some found

/-- The fields of a record that are present, by name. -/
def fields? (names : List String) : Json → Option (List (String × Json))
  | object members => knownMembers names members
  | array items => if items.length ≤ names.length then some (names.zip items) else none
  | _ => none

/-- A field of a record, or its default when it is missing. -/
def field {α : Type} (found : List (String × Json)) (name : String) (decode : Json → Option α)
    (default : α) : Option α :=
  match found.lookup name with
  | none => some default
  | some json => decode json

theorem knownMembers_skip {names : List String} {name : String} {value : Json}
    {rest : List (Option String × Json)} (h : name ∉ names) :
    knownMembers names ((some name, value) :: rest) = knownMembers names rest := by
  simp [knownMembers, h]

end SquarePool.Json
