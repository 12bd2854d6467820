import Mathlib.Data.List.Nodup
import SquarePool.Json.Decode

/-!
# The members of a record

A record that is written as an object keeps the members whose names it knows. Main statements: an
object can be read as a record if all its names are texts and none that is known comes twice, and
what each known name is bound to does not depend on the order of the members.
-/

namespace SquarePool

/-! ## Association lists -/

section Lookup

variable {κ α β : Type} [BEq κ] [LawfulBEq κ] {k k' : κ} {l l' : List (κ × α)}

theorem lookup_map_values (f : κ → α → β) (k : κ) (l : List (κ × α)) :
    (l.map fun p => (p.1, f p.1 p.2)).lookup k = (l.lookup k).map (f k) := by
  induction l with
  | nil => rfl
  | cons p rest ih =>
    rw [List.map_cons, List.lookup_cons, List.lookup_cons, ih]
    by_cases hk : k = p.1
    · simp [hk]
    · simp [beq_eq_false_iff_ne.2 hk]

theorem lookup_filter_self (k : κ) (l : List (κ × α)) :
    (l.filter fun p => p.1 != k).lookup k = none := by
  rw [List.lookup_eq_none_iff]
  intro p hp
  have hne : p.1 ≠ k := by simpa using (List.mem_filter.1 hp).2
  simpa using hne.symm

theorem lookup_filter_of_ne (h : k' ≠ k) (l : List (κ × α)) :
    (l.filter fun p => p.1 != k).lookup k' = l.lookup k' := by
  induction l with
  | nil => rfl
  | cons p rest ih =>
    by_cases hp : p.1 = k
    · have hother : (k' == p.1) = false := beq_eq_false_iff_ne.2 fun e => h (e.trans hp)
      rw [List.filter_cons_of_neg (by simp [hp]), ih, List.lookup_cons, hother]
    · rw [List.filter_cons_of_pos (by simpa using hp), List.lookup_cons, List.lookup_cons, ih]

/-- Where no key comes twice, each is bound to what it stands beside. -/
theorem lookup_eq_some_iff_mem (nodup : (l.map Prod.fst).Nodup) {a : α} :
    l.lookup k = some a ↔ (k, a) ∈ l := by
  induction l with
  | nil => simp
  | cons p rest ih =>
    rw [List.map_cons, List.nodup_cons] at nodup
    rw [List.lookup_cons, List.mem_cons]
    by_cases hk : k = p.1
    · subst hk
      have hrest : (p.1, a) ∉ rest := fun hmem =>
        nodup.1 (List.mem_map.2 ⟨(p.1, a), hmem, rfl⟩)
      simp [hrest, Prod.ext_iff, eq_comm]
    · have hother : (k == p.1) = false := beq_eq_false_iff_ne.2 hk
      have hfirst : (k, a) ≠ p := fun e => hk (congrArg Prod.fst e)
      simp [hother, hfirst, ih nodup.2]

theorem eq_of_mem_of_nodup (nodup : (l.map Prod.fst).Nodup) {a a' : α} (h : (k, a) ∈ l)
    (h' : (k, a') ∈ l) : a = a' := by
  have hlookup := (lookup_eq_some_iff_mem nodup).2 h
  rw [(lookup_eq_some_iff_mem nodup).2 h'] at hlookup
  exact (Option.some.inj hlookup).symm

theorem lookup_eq_of_perm (perm : l.Perm l') (nodup : (l.map Prod.fst).Nodup) (k : κ) :
    l.lookup k = l'.lookup k := by
  have nodup' : (l'.map Prod.fst).Nodup := (perm.map Prod.fst).nodup_iff.1 nodup
  refine Option.ext fun a => ?_
  rw [lookup_eq_some_iff_mem nodup, lookup_eq_some_iff_mem nodup', perm.mem_iff]

end Lookup

namespace Json

/-- The members of an object, in order. -/
abbrev Members : Type := List (Option String × Json)

variable {names : List String} {members members' : Members} {found : List (String × Json)}

/-- A member, if its name is one of those that are known. -/
def known? {α : Type} (names : List String) : Option String × α → Option (String × α)
  | (some name, value) => if name ∈ names then some (name, value) else none
  | (none, _) => none

/-- The members whose names are known, in their order. -/
def declared {α : Type} (names : List String) (members : List (Option String × α)) :
    List (String × α) :=
  members.filterMap (known? names)

theorem declared_map {α β : Type} (change : Option String → α → β)
    (members : List (Option String × α)) :
    declared names (members.map fun m => (m.1, change m.1 m.2)) =
      (declared names members).map fun p => (p.1, change (some p.1) p.2) := by
  rw [declared, declared, List.filterMap_map, List.map_filterMap]
  refine List.filterMap_congr fun m _ => ?_
  obtain ⟨_ | name, value⟩ := m
  · rfl
  · by_cases hname : name ∈ names <;> simp [known?, hname]

theorem lookup_isSome_iff_mem_keys {name : String} :
    (found.lookup name).isSome ↔ name ∈ found.map Prod.fst := by
  rw [List.lookup_isSome_iff, List.mem_map]
  exact exists_congr fun p => and_congr_right fun _ => beq_iff_eq.trans eq_comm

/-- **The members of a record** can be read if all names are texts and no known one comes twice. -/
theorem knownMembers_eq_some_iff :
    knownMembers names members = some found ↔
      (∀ m ∈ members, m.1.isSome) ∧ declared names members = found ∧
        (found.map Prod.fst).Nodup := by
  induction members generalizing found with
  | nil =>
    constructor
    · intro h
      cases h
      simp [declared]
    · rintro ⟨-, rfl, -⟩
      rfl
  | cons member rest ih =>
    obtain ⟨name | name, value⟩ := member
    · simp [knownMembers]
    · -- a member that is not known is passed over, whatever it holds
      by_cases hname : name ∈ names
      · have hdeclared : declared names ((some name, value) :: rest) =
            (name, value) :: declared names rest := by
          simp [declared, known?, hname]
        rw [hdeclared]
        simp only [knownMembers, List.contains_eq_mem, hname, decide_true, if_true]
        rw [Option.bind_eq_bind, Option.bind_eq_some_iff]
        constructor
        · rintro ⟨others, hothers, h⟩
          obtain ⟨htexts, rfl, nodup⟩ := ih.1 hothers
          by_cases hnew : name ∈ (declared names rest).map Prod.fst
          · rw [if_pos (lookup_isSome_iff_mem_keys.2 hnew)] at h
            cases h
          · rw [if_neg fun hsome => hnew (lookup_isSome_iff_mem_keys.1 hsome)] at h
            cases h
            exact ⟨by simpa using htexts, rfl, List.nodup_cons.2 ⟨hnew, nodup⟩⟩
        · rintro ⟨htexts, rfl, nodup⟩
          obtain ⟨hnew, nodup⟩ := List.nodup_cons.1 nodup
          refine ⟨declared names rest, ih.2 ⟨by simpa using htexts, rfl, nodup⟩, ?_⟩
          rw [if_neg fun hsome => hnew (lookup_isSome_iff_mem_keys.1 hsome)]
      · have hdeclared : declared names ((some name, value) :: rest) = declared names rest := by
          simp [declared, known?, hname]
        rw [hdeclared, knownMembers_skip hname, ih]
        simp

theorem lookup_of_knownMembers {name : String} {value : Json}
    (h : knownMembers names members = some found) (hmember : (some name, value) ∈ members)
    (hname : name ∈ names) : found.lookup name = some value := by
  obtain ⟨-, rfl, nodup⟩ := knownMembers_eq_some_iff.1 h
  exact (lookup_eq_some_iff_mem nodup).2
    (List.mem_filterMap.2 ⟨(some name, value), hmember, if_pos hname⟩)

/-- The order of the members does not matter. -/
theorem knownMembers_perm (perm : members.Perm members')
    (h : knownMembers names members = some found) :
    ∃ found', knownMembers names members' = some found' ∧
      ∀ name, found'.lookup name = found.lookup name := by
  obtain ⟨texts, rfl, nodup⟩ := knownMembers_eq_some_iff.1 h
  have hdeclared : (declared names members).Perm (declared names members') :=
    perm.filterMap _
  have nodup' := (hdeclared.map Prod.fst).nodup_iff.1 nodup
  have texts' : ∀ m ∈ members', m.1.isSome := fun m hm => texts m (perm.mem_iff.2 hm)
  exact ⟨_, knownMembers_eq_some_iff.2 ⟨texts', rfl, nodup'⟩,
    fun name => (lookup_eq_of_perm hdeclared nodup name).symm⟩

theorem knownMembers_filter (name : String) (h : knownMembers names members = some found) :
    knownMembers names (members.filter fun m => m.1 != some name) =
      some (found.filter fun p => p.1 != name) := by
  obtain ⟨texts, rfl, nodup⟩ := knownMembers_eq_some_iff.1 h
  refine knownMembers_eq_some_iff.2 ⟨fun m hm => texts m (List.mem_of_mem_filter hm), ?_, ?_⟩
  · rw [declared, declared, List.filterMap_filter, List.filter_filterMap]
    refine List.filterMap_congr fun m _ => ?_
    obtain ⟨_ | other, value⟩ := m
    · simp [known?]
    · by_cases he : other = name
      · subst he
        by_cases hother : other ∈ names <;> simp [known?, Option.filter, hother]
      · by_cases hother : other ∈ names <;> simp [known?, Option.filter, hother, he]
  · exact nodup.sublist (List.filter_sublist.map Prod.fst)

/-- A change of values is a change of the values that are found. -/
theorem knownMembers_map (change : Option String → Json → Json)
    (h : knownMembers names members = some found) :
    knownMembers names (members.map fun m => (m.1, change m.1 m.2)) =
      some (found.map fun p => (p.1, change (some p.1) p.2)) := by
  obtain ⟨texts, rfl, nodup⟩ := knownMembers_eq_some_iff.1 h
  refine knownMembers_eq_some_iff.2 ⟨?_, ?_, ?_⟩
  · intro m hm
    obtain ⟨m', hm', rfl⟩ := List.mem_map.1 hm
    exact texts m' hm'
  · exact declared_map change members
  · rwa [List.map_map]

/-- Members of equal names, whose values have something in common, are found alike. -/
theorem knownMembers_congr {β : Type} (f : Json → β)
    (hsame : members.map (fun m => (m.1, f m.2)) = members'.map fun m => (m.1, f m.2))
    (h : knownMembers names members = some found) :
    ∃ found', knownMembers names members' = some found' ∧
      found'.map (fun p => (p.1, f p.2)) = found.map fun p => (p.1, f p.2) := by
  obtain ⟨texts, rfl, nodup⟩ := knownMembers_eq_some_iff.1 h
  have hkeys : members.map Prod.fst = members'.map Prod.fst := by
    simpa [Function.comp_def] using congrArg (List.map Prod.fst) hsame
  have hdeclared : (declared names members').map (fun p => (p.1, f p.2)) =
      (declared names members).map fun p => (p.1, f p.2) := by
    rw [← declared_map fun _ => f, ← declared_map fun _ => f, hsame]
  refine ⟨_, knownMembers_eq_some_iff.2 ⟨fun m hm => ?texts, rfl, ?nodup⟩, hdeclared⟩
  case texts =>
    have hm' : m.1 ∈ members.map Prod.fst := hkeys ▸ List.mem_map_of_mem hm
    obtain ⟨m', hm', he⟩ := List.mem_map.1 hm'
    rw [← he]
    exact texts m' hm'
  case nodup =>
    have hnames : (declared names members').map Prod.fst =
        (declared names members).map Prod.fst := by
      simpa [Function.comp_def] using congrArg (List.map Prod.fst) hdeclared
    rwa [hnames]

end Json

end SquarePool
