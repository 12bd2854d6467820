import SquarePool.Proofs.Json.Edit

/-!
# Shapes of documents

What is expected of a document, and what is read from it: the value that it stands for, written in
full, with every field of every record in its declared order and with the default of each that is
missing. Main statements: the order of members plays no part; and an edit of one object that is read
as a record comes out as an edit of the record at the same place of the value.
-/

namespace SquarePool

/-- What is expected of a value. -/
inductive Shape where
  | text
  | truth
  | int32
  /-- A quantity, of which the whole part counts. -/
  | whole
  | nullable (shape : Shape)
  | list (shape : Shape)
  | record (fields : List (String × Shape))

namespace Shape

open Json (Members Step Reordered text? bool? int32? whole? list? fields? field knownMembers
  insertMember eraseMember)

/-! ## Reading -/

mutual

/-- What stands for a value that is missing: nothing at all, or as little as there can be. -/
def blank : Shape → Json
  | text => .text ""
  | truth => .bool false
  | int32 | whole => .int 0
  | nullable _ => .null
  | list _ => .array []
  | record fields => .ofMembers (blankFields fields)

/-- The fields of a record that holds nothing. -/
def blankFields : List (String × Shape) → List (String × Json)
  | [] => []
  | (name, shape) :: rest => (name, shape.blank) :: blankFields rest

end

mutual

/-- No record has two fields of one name. -/
def Distinct : Shape → Prop
  | text | truth | int32 | whole => True
  | nullable shape | list shape => shape.Distinct
  | record fields => (fields.map Prod.fst).Nodup ∧ DistinctFields fields

/-- The same of each of some fields. -/
def DistinctFields : List (String × Shape) → Prop
  | [] => True
  | (_, shape) :: rest => shape.Distinct ∧ DistinctFields rest

end

mutual

/-- The value that a document stands for, written in full. -/
def read : Shape → Json → Option Json
  | text, json => (text? json).map .text
  | truth, json => (bool? json).map .bool
  | int32, json => (int32? json).map .int
  | whole, json => (whole? json).map .int
  | nullable _, .null => some .null
  | nullable shape, json => shape.read json
  | list shape, json => (list? shape.read json).map .array
  | record fields, json =>
    (fields? (fields.map Prod.fst) json).bind fun found => (readFields fields found).map .ofMembers

/-- The fields of a record, from those of them that are present. -/
def readFields : List (String × Shape) → List (String × Json) → Option (List (String × Json))
  | [], _ => some []
  | (name, shape) :: rest, found =>
    (field found name shape.read shape.blank).bind fun value =>
      (readFields rest found).map ((name, value) :: ·)

end

/-- At a place of a document an object is read as a record of some fields. -/
inductive Leads : Shape → Json → List Step → List (String × Shape) → Prop where
  | here {fields : List (String × Shape)} {members : Members} :
    Leads (record fields) (.object members) [] fields
  | member {fields inner : List (String × Shape)} {members : Members} {name : String}
    {shape : Shape} {json : Json} {path : List Step} :
    (name, shape) ∈ fields → (some name, json) ∈ members → Leads shape json path inner →
      Leads (record fields) (.object members) (.member name :: path) inner
  | item {shape : Shape} {items : List Json} {i : Nat} {json : Json} {path : List Step}
    {inner : List (String × Shape)} :
    items[i]? = some json → Leads shape json path inner →
      Leads (list shape) (.array items) (.item i :: path) inner
  | present {shape : Shape} {json : Json} {path : List Step} {inner : List (String × Shape)} :
    Leads shape json path inner → Leads (nullable shape) json path inner

variable {fields inner : List (String × Shape)} {shape : Shape} {json json' v : Json}
  {members members' : Members} {found found' vs : List (String × Json)} {name : String}
  {path : List Step}

theorem DistinctFields.of_mem (distinct : DistinctFields fields) (h : (name, shape) ∈ fields) :
    shape.Distinct := by
  induction fields with
  | nil => cases h
  | cons first rest ih =>
    obtain ⟨hfirst, hrest⟩ := distinct
    rcases List.mem_cons.1 h with rfl | h
    · exact hfirst
    · exact ih hrest h

theorem read_nullable_of_ne (h : json ≠ .null) : (nullable shape).read json = shape.read json := by
  cases json with
  | null => exact absurd rfl h
  | _ => rfl

theorem read_record_eq_some_iff :
    (record fields).read json = some v ↔
      ∃ found vs, fields? (fields.map Prod.fst) json = some found ∧
        readFields fields found = some vs ∧ v = .ofMembers vs := by
  simp only [read, Option.bind_eq_some_iff, Option.map_eq_some_iff]
  constructor
  · rintro ⟨found, hfound, vs, hvs, rfl⟩
    exact ⟨found, vs, hfound, hvs, rfl⟩
  · rintro ⟨found, vs, hfound, hvs, rfl⟩
    exact ⟨found, hfound, vs, hvs, rfl⟩

/-- A field depends on what is read from the value that it is bound to, if there is one. -/
theorem field_congr {α : Type} {decode : Json → Option α} (default : α)
    (h : (found.lookup name).map decode = (found'.lookup name).map decode) :
    field found name decode default = field found' name decode default := by
  have hfield : ∀ found : List (String × Json), field found name decode default =
      ((found.lookup name).map decode).getD (some default) := by
    intro found
    unfold field
    cases found.lookup name <;> rfl
  rw [hfield, hfield, h]

theorem readFields_congr
    (h : ∀ p ∈ fields, (found.lookup p.1).map p.2.read = (found'.lookup p.1).map p.2.read) :
    readFields fields found = readFields fields found' := by
  induction fields with
  | nil => rfl
  | cons first rest ih =>
    obtain ⟨name, shape⟩ := first
    have hfirst := field_congr shape.blank (h (name, shape) (by simp))
    have hrest := ih fun p hp => h p (by simp [hp])
    rw [readFields, readFields, hfirst, hrest]

/-- Every field is written. -/
theorem lookup_of_readFields (nodup : (fields.map Prod.fst).Nodup)
    (hread : readFields fields found = some vs) (h : (name, shape) ∈ fields) :
    ∃ value, field found name shape.read shape.blank = some value ∧
      vs.lookup name = some value := by
  induction fields generalizing vs with
  | nil => cases h
  | cons first rest ih =>
    obtain ⟨other, shape'⟩ := first
    obtain ⟨hnew, hrest⟩ := List.nodup_cons.1 nodup
    obtain ⟨value, hvalue, hvs⟩ := Option.bind_eq_some_iff.1 hread
    obtain ⟨vs', hvs', rfl⟩ := Option.map_eq_some_iff.1 hvs
    rcases List.mem_cons.1 h with heq | h
    · cases heq
      exact ⟨value, hvalue, by simp⟩
    · have hmem : name ∈ rest.map Prod.fst := List.mem_map_of_mem h
      have hne : name ≠ other := fun e => hnew (e ▸ hmem)
      obtain ⟨value', hvalue', hlookup⟩ := ih hrest hvs' h
      exact ⟨value', hvalue', by rwa [List.lookup_cons, beq_eq_false_iff_ne.2 hne]⟩

/-! ## Order -/

/-- What a document is read as, by what is expected. -/
def meaning (json : Json) : Shape → Option Json := fun shape => shape.read json

/-- Fields count by what their values mean. -/
theorem readFields_of_meaning
    (h : found.map (fun p => (p.1, meaning p.2)) = found'.map fun p => (p.1, meaning p.2)) :
    readFields fields found = readFields fields found' := by
  refine readFields_congr fun p _ => ?_
  have hlookup : (found.lookup p.1).map meaning = (found'.lookup p.1).map meaning := by
    rw [← lookup_map_values fun _ => meaning, ← lookup_map_values fun _ => meaning, h]
  have happly := congrArg (Option.map fun m : Shape → Option Json => m p.2) hlookup
  rwa [Option.map_map, Option.map_map] at happly

theorem read_object_of_meaning
    (h : members.map (fun m => (m.1, meaning m.2)) = members'.map fun m => (m.1, meaning m.2))
    (hread : (record fields).read (.object members) = some v) :
    (record fields).read (.object members') = some v := by
  obtain ⟨found, vs, hfound, hvs, rfl⟩ := read_record_eq_some_iff.1 hread
  obtain ⟨found', hfound', hsame⟩ := Json.knownMembers_congr meaning h hfound
  exact read_record_eq_some_iff.2
    ⟨found', vs, hfound', (readFields_of_meaning hsame).trans hvs, rfl⟩

theorem read_object_of_perm (perm : members.Perm members')
    (hread : (record fields).read (.object members) = some v) :
    (record fields).read (.object members') = some v := by
  obtain ⟨found, vs, hfound, hvs, rfl⟩ := read_record_eq_some_iff.1 hread
  obtain ⟨found', hfound', hlookup⟩ := Json.knownMembers_perm perm hfound
  have hsame : readFields fields found' = readFields fields found :=
    readFields_congr fun p _ => by rw [hlookup]
  exact read_record_eq_some_iff.2 ⟨found', vs, hfound', hsame.trans hvs, rfl⟩

/-- Objects are read alike if they are so as records. -/
theorem read_object_eq
    (h : ∀ fields, (record fields).read (.object members) =
      (record fields).read (.object members')) :
    ∀ shape : Shape, shape.read (.object members) = shape.read (.object members')
  | text | truth | int32 | whole | list _ => rfl
  | nullable shape => read_object_eq h shape
  | record fields => h fields

/-- Arrays are read alike if they are so as lists and as records without names. -/
theorem read_array_eq {items items' : List Json} (h : items.map meaning = items'.map meaning) :
    ∀ shape : Shape, shape.read (.array items) = shape.read (.array items')
  | text | truth | int32 | whole => rfl
  | nullable shape => read_array_eq h shape
  | list shape => by
    have hitems : items.mapM shape.read = items'.mapM shape.read := by
      have hmap := congrArg (List.mapM fun m : Shape → Option Json => m shape) h
      rwa [List.mapM_map, List.mapM_map] at hmap
    exact congrArg (Option.map Json.array) hitems
  | record fields => by
    have hlength : items.length = items'.length := by
      simpa using congrArg List.length h
    have hsame : readFields fields ((fields.map Prod.fst).zip items) =
        readFields fields ((fields.map Prod.fst).zip items') := by
      refine readFields_of_meaning ?_
      have hzip : ∀ items : List Json, ((fields.map Prod.fst).zip items).map
          (fun p => (p.1, meaning p.2)) = (fields.map Prod.fst).zip (items.map meaning) :=
        fun items => (List.zip_map_right ..).symm
      rw [hzip, hzip, h]
    simp only [read, fields?, hlength]
    split
    · exact congrArg (Option.map Json.ofMembers) hsame
    · rfl

/-- **The order of members** plays no part, wherever they stand. -/
theorem meaning_of_reordered (h : Reordered json json') : meaning json = meaning json' := by
  induction h with
  | object perm =>
    refine funext (read_object_eq fun fields => Option.ext fun v => ?_)
    exact ⟨read_object_of_perm perm, read_object_of_perm perm.symm⟩
  | member _ ih =>
    refine funext (read_object_eq fun fields => Option.ext fun v => ?_)
    exact ⟨read_object_of_meaning (by simp [ih]), read_object_of_meaning (by simp [ih])⟩
  | item _ ih => exact funext (read_array_eq (by simp [ih]))
  | trans _ _ ih ih' => exact ih.trans ih'

/-! ## Edits -/

/-- What changes at one name of a record changes in what is read for that name alone. -/
theorem readFields_update (change : Json → Json)
    (others : ∀ other, other ≠ name → found'.lookup other = found.lookup other)
    (same : ∀ shape value, (name, shape) ∈ fields →
      field found name shape.read shape.blank = some value →
        field found' name shape.read shape.blank = some (change value))
    (h : readFields fields found = some vs) :
    readFields fields found' =
      some (vs.map fun p => (p.1, Json.changeAt name change (some p.1) p.2)) := by
  induction fields generalizing vs with
  | nil =>
    cases h
    rfl
  | cons first rest ih =>
    obtain ⟨other, shape⟩ := first
    obtain ⟨value, hvalue, hvs⟩ := Option.bind_eq_some_iff.1 h
    obtain ⟨vs', hrest, rfl⟩ := Option.map_eq_some_iff.1 hvs
    have hfirst : field found' other shape.read shape.blank =
        some (Json.changeAt name change (some other) value) := by
      by_cases hother : other = name
      · subst hother
        rw [Json.changeAt_self]
        exact same shape value (by simp) hvalue
      · rw [Json.changeAt_of_ne hother, ← hvalue]
        exact field_congr shape.blank (by rw [others other hother])
    rw [readFields, hfirst, ih (fun s x hs => same s x (by simp [hs])) hrest]
    rfl

/-- **A member that no field knows** plays no part. -/
theorem read_insertMember (i : Nat) (value : Json) (h : name ∉ fields.map Prod.fst)
    (hread : (record fields).read (.object members) = some v) :
    (record fields).read (insertMember i name value (.object members)) = some v := by
  have hcons : (record fields).read (.object ((some name, value) :: members)) = some v := by
    obtain ⟨found, vs, hfound, hvs, rfl⟩ := read_record_eq_some_iff.1 hread
    exact read_record_eq_some_iff.2
      ⟨found, vs, (Json.knownMembers_skip h).trans hfound, hvs, rfl⟩
  by_cases hi : i ≤ members.length
  · exact read_object_of_perm (List.perm_insertIdx (some name, value) members hi).symm hcons
  · -- there is no such place
    rw [insertMember, List.insertIdx_of_length_lt (by omega)]
    exact hread

/-- **A member that is missing** takes its default. -/
theorem read_eraseMember (distinct : (fields.map Prod.fst).Nodup) (h : (name, shape) ∈ fields)
    (hread : (record fields).read (.object members) = some v) :
    (record fields).read (eraseMember name (.object members)) =
      some (v.modify [.member name] fun _ => shape.blank) := by
  obtain ⟨found, vs, hfound, hvs, rfl⟩ := read_record_eq_some_iff.1 hread
  have hfound' := Json.knownMembers_filter name hfound
  refine read_record_eq_some_iff.2 ⟨_, _, hfound', readFields_update (fun _ => shape.blank)
    (fun other hother => lookup_filter_of_ne hother found) ?_ hvs,
    Json.modify_member_ofMembers name [] _ vs⟩
  intro shape' value h' _
  obtain rfl := eq_of_mem_of_nodup distinct h' h
  rw [field, lookup_filter_self]

/-- A list is decoded item by item. -/
theorem mapM_eq_some_iff {decode : Json → Option Json} {items values : List Json} :
    items.mapM decode = some values ↔ ∀ i : Nat, items[i]?.map decode = values[i]?.map some := by
  induction items generalizing values with
  | nil =>
    constructor
    · intro h
      cases h
      simp
    · intro h
      cases values with
      | nil => rfl
      | cons value rest => exact nomatch h 0
  | cons item rest ih =>
    rw [List.mapM_cons]
    constructor
    · intro h
      obtain ⟨value, hvalue, h⟩ := Option.bind_eq_some_iff.1 h
      obtain ⟨values', hvalues, h⟩ := Option.bind_eq_some_iff.1 h
      cases h
      intro i
      cases i with
      | zero => simp [hvalue]
      | succ i => simpa using ih.1 hvalues i
    · intro h
      cases values with
      | nil => exact nomatch h 0
      | cons value values' =>
        have hvalue : decode item = some value := by simpa using h 0
        have hvalues := ih.2 fun i => by simpa using h (i + 1)
        rw [hvalue, hvalues]
        rfl

theorem getElem?_of_mapM {decode : Json → Option Json} {i : Nat} {items values : List Json}
    (h : items.mapM decode = some values) (hitem : items[i]? = some json) :
    ∃ v, decode json = some v ∧ values[i]? = some v := by
  have hi := mapM_eq_some_iff.1 h i
  rw [hitem, Option.map_some] at hi
  obtain ⟨v, hv, he⟩ := Option.map_eq_some_iff.1 hi.symm
  exact ⟨v, he.symm, hv⟩

theorem mapM_modify {decode : Json → Option Json} {f g : Json → Json} {i : Nat}
    {items values : List Json} (h : items.mapM decode = some values)
    (hitem : items[i]? = some json)
    (step : ∀ v, decode json = some v → decode (f json) = some (g v)) :
    (items.modify i f).mapM decode = some (values.modify i g) := by
  refine mapM_eq_some_iff.2 fun j => ?_
  rw [List.getElem?_modify, List.getElem?_modify]
  by_cases hj : i = j
  · subst hj
    obtain ⟨v, hv, hvalue⟩ := getElem?_of_mapM h hitem
    simp [hitem, hvalue, step v hv]
  · simpa [hj] using mapM_eq_some_iff.1 h j

theorem Leads.ne_null (h : Leads shape json path inner) : json ≠ .null := by
  induction h with
  | present _ ih => exact ih
  | _ =>
    intro h
    cases h

/-- Where an object is read as a record, the record stands in the value. -/
theorem Leads.get?_eq (h : Leads shape json path inner) (distinct : shape.Distinct)
    (hread : shape.read json = some v) :
    ∃ members w, (record inner).read (.object members) = some w ∧ v.get? path = some w ∧
      (inner.map Prod.fst).Nodup := by
  induction h generalizing v with
  | @here fields members => exact ⟨members, v, hread, rfl, distinct.1⟩
  | @member fields inner members name shape json path hfield hmember _ ih =>
    obtain ⟨nodup, hdistinct⟩ := distinct
    obtain ⟨found, vs, hfound, hvs, rfl⟩ := read_record_eq_some_iff.1 hread
    obtain ⟨value, hvalue, hlookup⟩ := lookup_of_readFields nodup hvs hfield
    -- a known name comes once, so the member on the path is the one that is found
    rw [field, Json.lookup_of_knownMembers hfound hmember (List.mem_map_of_mem hfield)] at hvalue
    obtain ⟨members', w, hw, hget, hinner⟩ := ih (hdistinct.of_mem hfield) hvalue
    refine ⟨members', w, hw, ?_, hinner⟩
    rw [Json.get?_member_ofMembers, hlookup, Option.bind_some, hget]
  | @item shape items i json path inner hitem _ ih =>
    obtain ⟨values, hvalues, rfl⟩ := Option.map_eq_some_iff.1 hread
    obtain ⟨v, hv, hvi⟩ := getElem?_of_mapM hvalues hitem
    obtain ⟨members', w, hw, hget, hinner⟩ := ih distinct hv
    refine ⟨members', w, hw, ?_, hinner⟩
    rw [Json.get?, hvi, Option.bind_some, hget]
  | @present shape json path inner hleads ih =>
    rw [read_nullable_of_ne hleads.ne_null] at hread
    exact ih distinct hread

/-- Each field of the record stands there, too. -/
theorem Leads.exists_get? (h : Leads shape json path inner) (distinct : shape.Distinct)
    (hread : shape.read json = some v) {field : Shape} (hfield : (name, field) ∈ inner) :
    ∃ value, v.get? (path ++ [.member name]) = some value := by
  obtain ⟨members, w, hw, hget, nodup⟩ := h.get?_eq distinct hread
  obtain ⟨found, vs, -, hvs, rfl⟩ := read_record_eq_some_iff.1 hw
  obtain ⟨value, -, hlookup⟩ := lookup_of_readFields nodup hvs hfield
  refine ⟨value, ?_⟩
  rw [Json.get?_append, hget, Option.bind_some, Json.get?_member_ofMembers, hlookup]
  rfl

theorem Leads.modify_ne_null {f : Json → Json} (h : Leads shape json path inner)
    (keeps : ∀ members, ∃ members', f (.object members) = .object members') :
    json.modify path f ≠ .null := by
  induction h with
  | @here fields members =>
    obtain ⟨members', hmembers⟩ := keeps members
    rw [Json.modify, hmembers]
    intro h
    cases h
  | present _ ih => exact ih
  | _ =>
    intro h
    cases h

/-- **An edit of one object.** What an edit does to the record that the object is read as, it does
to the record at the same place of the value. -/
theorem Leads.read_modify {f g : Json → Json} (h : Leads shape json path inner)
    (distinct : shape.Distinct)
    (keeps : ∀ members, ∃ members', f (.object members) = .object members')
    (step : (inner.map Prod.fst).Nodup → ∀ members v,
      (record inner).read (.object members) = some v →
        (record inner).read (f (.object members)) = some (g v))
    (hread : shape.read json = some v) :
    shape.read (json.modify path f) = some (v.modify path g) := by
  induction h generalizing v with
  | here => exact step distinct.1 _ _ hread
  | @member fields inner members name shape json path hfield hmember _ ih =>
    obtain ⟨nodup, hdistinct⟩ := distinct
    obtain ⟨found, vs, hfound, hvs, rfl⟩ := read_record_eq_some_iff.1 hread
    -- the edit goes on below one member, and of what is found only that member changes
    have hfound' := Json.knownMembers_map (Json.changeAt name (Json.modify path f)) hfound
    have hlookup : ∀ other, (found.map fun p =>
        (p.1, Json.changeAt name (Json.modify path f) (some p.1) p.2)).lookup other =
          (found.lookup other).map (Json.changeAt name (Json.modify path f) (some other)) :=
      fun other => lookup_map_values (fun key => Json.changeAt name _ (some key)) other found
    have hvalue := Json.lookup_of_knownMembers hfound hmember (List.mem_map_of_mem hfield)
    refine read_record_eq_some_iff.2 ⟨_, _, hfound', readFields_update (Json.modify path g)
      (fun other hother => ?others) ?same hvs, Json.modify_member_ofMembers name path g vs⟩
    case others =>
      rw [hlookup]
      cases found.lookup other with
      | none => rfl
      | some value => exact congrArg some (Json.changeAt_of_ne hother _ value)
    case same =>
      intro shape' value hfield' hread'
      obtain rfl := eq_of_mem_of_nodup nodup hfield' hfield
      rw [field, hvalue] at hread'
      rw [field, hlookup, hvalue]
      simpa using ih (hdistinct.of_mem hfield) step hread'
  | @item shape items i json path inner hitem _ ih =>
    obtain ⟨values, hvalues, rfl⟩ := Option.map_eq_some_iff.1 hread
    have hmapped := mapM_modify hvalues hitem fun v hv => ih distinct step hv
    exact Option.map_eq_some_iff.2 ⟨_, hmapped, rfl⟩
  | @present shape json path inner hleads ih =>
    -- an edit that made a null of the object would be read by another rule
    rw [read_nullable_of_ne hleads.ne_null] at hread
    rw [read_nullable_of_ne (hleads.modify_ne_null keeps)]
    exact ih distinct step hread

end Shape

end SquarePool
