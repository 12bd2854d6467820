import SquarePool.Proofs.Json.Members

/-!
# Places in a document

A place is reached by names of members and by positions in lists. Main statements: a change at a
place is what stands there afterwards, and places and changes are put together alike.
-/

namespace SquarePool

namespace Json

/-- One step into a document. -/
inductive Step where
  | member (name : String)
  | item (index : Nat)
  deriving DecidableEq, Repr

/-- Changes a value if it is bound to a name. -/
def changeAt (name : String) (f : Json → Json) (key : Option String) (value : Json) : Json :=
  if key = some name then f value else value

/-- Changes what stands at a place of a document. -/
def modify : List Step → (Json → Json) → Json → Json
  | [], f, json => f json
  | .member name :: path, f, object members =>
    object (members.map fun m => (m.1, changeAt name (modify path f) m.1 m.2))
  | .item i :: path, f, array items => array (items.modify i (modify path f))
  | _ :: _, _, json => json

/-- What stands at a place of a document. -/
def get? : List Step → Json → Option Json
  | [], json => some json
  | .member name :: path, object members => (members.lookup (some name)).bind (get? path)
  | .item i :: path, array items => items[i]?.bind (get? path)
  | _ :: _, _ => none

/-- Puts a member into an object, before the `i`-th. -/
def insertMember (i : Nat) (name : String) (value : Json) : Json → Json
  | object members => object (members.insertIdx i (some name, value))
  | json => json

/-- Takes a member out of an object. -/
def eraseMember (name : String) : Json → Json
  | object members => object (members.filter fun m => m.1 != some name)
  | json => json

/-- The members of an object, anywhere in a document, are put in another order, once or again. -/
inductive Reordered : Json → Json → Prop where
  | object {members members' : Members} : members.Perm members' →
    Reordered (object members) (object members')
  | member {before after : Members} {name : Option String} {json json' : Json} :
    Reordered json json' →
      Reordered (object (before ++ (name, json) :: after))
        (object (before ++ (name, json') :: after))
  | item {before after : List Json} {json json' : Json} : Reordered json json' →
    Reordered (array (before ++ json :: after)) (array (before ++ json' :: after))
  | trans {json json' json'' : Json} : Reordered json json' → Reordered json' json'' →
    Reordered json json''

@[simp] theorem changeAt_self (name : String) (f : Json → Json) (value : Json) :
    changeAt name f (some name) value = f value := if_pos rfl

theorem changeAt_of_ne {name other : String} (h : other ≠ name) (f : Json → Json)
    (value : Json) : changeAt name f (some other) value = value :=
  if_neg fun e => h (Option.some.inj e)

@[simp] theorem changeAt_id (name : String) (key : Option String) (value : Json) :
    changeAt name id key value = value := ite_self value

theorem modify_append (path path' : List Step) (f : Json → Json) :
    modify (path ++ path') f = modify path (modify path' f) := by
  induction path with
  | nil => rfl
  | cons step rest ih =>
    funext json
    cases step <;> cases json <;> simp [modify, ih]

theorem modify_id (path : List Step) : modify path id = id := by
  induction path with
  | nil => rfl
  | cons step rest ih =>
    funext json
    cases step <;> cases json <;> simp [modify, ih, List.modify_id]

theorem get?_append (path path' : List Step) (json : Json) :
    json.get? (path ++ path') = (json.get? path).bind (get? path') := by
  induction path generalizing json with
  | nil => rfl
  | cons step rest ih =>
    have hrest : get? (rest ++ path') = fun json => (json.get? rest).bind (get? path') :=
      funext ih
    cases step <;> cases json <;> simp [get?, Option.bind_assoc, hrest]

/-- What is changed is what stands there afterwards. -/
theorem get?_modify (path : List Step) (f : Json → Json) (json : Json) :
    (json.modify path f).get? path = (json.get? path).map f := by
  induction path generalizing json with
  | nil => rfl
  | cons step rest ih =>
    cases step with
    | member name =>
      cases json with
      | object members =>
        rw [modify, get?, get?, lookup_map_values (changeAt name (modify rest f))]
        cases members.lookup (some name) <;> simp [ih]
      | _ => rfl
    | item i =>
      cases json with
      | array items =>
        rw [modify, get?, get?, List.getElem?_modify]
        cases items[i]? <;> simp [ih]
      | _ => rfl

theorem get?_member_ofMembers (name : String) (path : List Step)
    (members : List (String × Json)) :
    (ofMembers members).get? (.member name :: path) = (members.lookup name).bind (get? path) := by
  have hlookup : (members.map fun p => (some p.1, p.2)).lookup (some name) =
      members.lookup name := by
    induction members with
    | nil => rfl
    | cons first rest ih =>
      rw [List.map_cons, List.lookup_cons, List.lookup_cons, ih]
      rfl
  exact congrArg (Option.bind · (get? path)) hlookup

theorem modify_member_ofMembers (name : String) (path : List Step) (f : Json → Json)
    (members : List (String × Json)) :
    (ofMembers members).modify (.member name :: path) f =
      ofMembers (members.map fun p => (p.1, changeAt name (modify path f) (some p.1) p.2)) := by
  simp [modify, ofMembers]

end Json

end SquarePool
