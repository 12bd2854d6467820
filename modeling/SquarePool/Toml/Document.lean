/-!
# TOML documents

Tables and their members, with the rules that say when a table may be opened and a key may be set.
A table knows how it came to be: by a header of its own, by a header below it, by a dotted key, or
written inline. Main statement: setting a key never replaces a value that is there.
-/

namespace SquarePool

namespace Toml

/-- How a table came to be. -/
inductive Origin where
  /-- By a header of its own. -/
  | header
  /-- By the header of a table inside it. -/
  | implied
  /-- By a dotted key. -/
  | dotted
  /-- Written inline; it is closed. -/
  | inline
  deriving DecidableEq, Repr

end Toml

/-- A value. Of floats and moments only their form is known. -/
inductive Toml where
  | string (text : String)
  | integer (value : Int)
  | float
  | boolean (value : Bool)
  | moment
  | array (items : List Toml)
  | table (origin : Toml.Origin) (members : List (String × Toml))
  /-- Tables opened one by one by headers in double brackets, the newest first. -/
  | tables (items : List (List (String × Toml)))
  deriving Inhabited, Repr

namespace Toml

/-- The members of a table, in the order in which they were set. -/
abbrev Members : Type := List (String × Toml)

/-- Changes one member: `f` is given its value, if it is there. -/
def alter (name : String) (f : Option Toml → Option Toml) : Members → Option Members
  | [] => (f none).map fun value => [(name, value)]
  | (n, old) :: rest =>
    if n = name then (f (some old)).map fun value => (n, value) :: rest
    else (alter name f rest).map ((n, old) :: ·)

/-- A table that is being changed: its members, and how to put changed ones back. -/
abbrev Opened : Type := Members × (Members → Toml)

/-- Opens a table on the way to the table of a header. It is made if it is not there. -/
def openOnWay : Option Toml → Option Opened
  | none => some ([], table .implied)
  | some (table .inline _) => none
  | some (table origin members) => some (members, table origin)
  | some (tables (newest :: older)) => some (newest, fun members => tables (members :: older))
  | some _ => none

/-- Opens a table in the middle of a dotted key. Tables with a header of their own are closed to
dotted keys. -/
def openDotted : Option Toml → Option Opened
  | none => some ([], table .dotted)
  | some (table .implied members) => some (members, table .implied)
  | some (table .dotted members) => some (members, table .dotted)
  | some (tables (newest :: older)) => some (newest, fun members => tables (members :: older))
  | some _ => none

/-- Opens the last table of a dotted key, which must have come to be by dotted keys. -/
def openLast : Option Toml → Option Opened
  | none => some ([], table .dotted)
  | some (table .dotted members) => some (members, table .dotted)
  | some _ => none

/-- Changes the members of the table that a member is opened as. -/
def alterInside (opener : Option Toml → Option Opened) (name : String)
    (f : Members → Option Members) : Members → Option Members :=
  alter name fun old => do
    let (members, close) ← opener old
    (f members).map close

/-- Changes the members of the table at the end of a path of headers. -/
def alterAt : List String → (Members → Option Members) → Members → Option Members
  | [], f => f
  | name :: path, f => alterInside openOnWay name (alterAt path f)

/-- Sets a member that is not there yet. -/
def setNew (name : String) (value : Toml) : Members → Option Members :=
  alter name fun
    | none => some value
    | some _ => none

/-- Sets the key `name` in the table that the names before it lead to. -/
def setKey (name : String) (value : Toml) : List String → Members → Option Members
  | [] => setNew name value
  | [last] => alterInside openLast last (setNew name value)
  | first :: second :: path => alterInside openDotted first (setKey name value (second :: path))

/-- Opens a table by its header. A table can be opened once. -/
def openTable (path : List String) (name : String) : Members → Option Members :=
  alterAt path (alter name fun
    | none => some (table .header [])
    | some (table .implied members) => some (table .header members)
    | some _ => none)

/-- Opens one more of the tables with a name, by a header in double brackets. -/
def openElement (path : List String) (name : String) : Members → Option Members :=
  alterAt path (alter name fun
    | none => some (tables [[]])
    | some (tables items) => some (tables ([] :: items))
    | some _ => none)

theorem lookup_of_setNew {name : String} {value : Toml} {members changed : Members}
    (h : setNew name value members = some changed) : changed = members ++ [(name, value)] := by
  induction members generalizing changed with
  | nil => simpa [setNew, alter, eq_comm] using h
  | cons m rest ih =>
    obtain ⟨n, old⟩ := m
    by_cases hn : n = name
    · simp [setNew, alter, hn] at h
    · simp only [setNew, alter, hn, if_false, Option.map_eq_some_iff] at h ih
      obtain ⟨r, hr, rfl⟩ := h
      simp [ih hr]

end Toml

end SquarePool
