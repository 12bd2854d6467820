import SquarePool.Instant.Reader
import SquarePool.Json.Decode

/-!
# Documents

Reading the fields of a document and building documents from fields. A field that is absent counts
as null, and most fields have a default for that.
-/

namespace SquarePool.Document

/-- A field of a request; null when it is absent. -/
def get (json : Json) (name : String) : Json :=
  match json with
  | .object members => (members.lookup (some name)).getD .null
  | _ => .null

/-- A whole number. -/
def int? : Json → Option Int
  | .number n => n.integer?
  | _ => none

/-- A natural number. -/
def nat? (json : Json) : Option Nat :=
  (int? json).bind fun i => if 0 ≤ i then some i.toNat else none

/-- A member of a keyed vocabulary. -/
def word? {α : Type} [Keyed α] (json : Json) : Option α := (Json.text? json).bind ofKey?

/-- A moment. -/
def instant? (json : Json) : Option Instant := (Json.text? json).bind Instant.ofText?

/-- A field with a default for its absence. -/
def orElse {α : Type} (json : Json) (name : String) (decode : Json → Option α) (default : α) :
    Option α :=
  match get json name with
  | .null => some default
  | value => decode value

/-- A field that may be absent. -/
def optional {α : Type} (json : Json) (name : String) (decode : Json → Option α) :
    Option (Option α) :=
  Json.nullable? decode (get json name)

/-- A field that must be there. -/
def required {α : Type} (json : Json) (name : String) (decode : Json → Option α) : Option α :=
  decode (get json name)

/-- A list of whole numbers. -/
def ints? : Json → Option (List Int) := Json.list? int?

/-- The moment at which a request is made. -/
def now? (json : Json) (name : String := "now") : Option Instant :=
  match get json name with
  | .null => Instant.ofText? "2024-01-01T00:00:00Z"
  | value => instant? value

/-- An object. -/
def obj (members : List (String × Json)) : Json := Json.ofMembers members

/-- A text that may be absent. -/
def optText : Option String → Json := Json.orNull Json.text

/-- A number that may be absent. -/
def optInt : Option Int → Json := Json.orNull Json.int

/-- A moment. -/
def instantJson (t : Instant) : Json := Json.text t.toText

/-- A member of a keyed vocabulary. -/
def wordJson {α : Type} [Keyed α] (a : α) : Json := Json.text (key a)

/-- A list. -/
def listJson {α : Type} (encode : α → Json) (items : List α) : Json := .array (items.map encode)

/-- A list of numbers that may be absent. -/
def optInts : Option (List Int) → Json := Json.orNull (listJson Json.int)

end SquarePool.Document
