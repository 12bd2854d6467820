/-!
# Keyed enumerations

A small closed vocabulary in which every word is written as a key: leagues, statuses, boards and
so on. A text is looked up by comparing it with each key. Main statement: a lawful vocabulary reads
back the keys it writes.
-/

namespace SquarePool

/-- A finite type whose members are written as texts. -/
class Keyed (α : Type) where
  /-- Every member, in its usual order. -/
  members : List α
  /-- The text a member is written as. -/
  key : α → String

export Keyed (members key)

/-- The member written as `text`, exactly. -/
def ofKey? {α : Type} [Keyed α] (text : String) : Option α :=
  members.find? fun a => key a == text

/-- Every member is listed, and no two share a key. -/
class LawfulKeyed (α : Type) [Keyed α] : Prop where
  mem_members : ∀ a : α, a ∈ (members : List α)
  key_injective : ∀ a b : α, key a = key b → a = b

theorem ofKey?_key {α : Type} [Keyed α] [LawfulKeyed α] (a : α) : ofKey? (key a) = some a := by
  unfold ofKey?
  cases h : (members : List α).find? fun b => key b == key a with
  | none => exact absurd (List.find?_eq_none.1 h a (LawfulKeyed.mem_members a)) (by simp)
  | some b =>
    have hb := List.find?_some h
    exact congrArg some (LawfulKeyed.key_injective b a (by simpa using hb))

end SquarePool
