import SquarePool.Proofs.Json.Decode
import SquarePool.Proofs.Json.Shape

/-!
# Layouts

How the values of a type stand in documents: by which shape they are read, and how they are written
in full. A record is laid out by its columns. Main statements: what a layout decodes is what is read
by its shape, so that members may come in any order; and a layout of columns is decoded field by
field.
-/

namespace SquarePool

open Json (text? bool? int32? whole? list? nullable? fields?)

variable {α γ : Type}

/-- How the values of a type stand in documents. -/
structure Layout (α : Type) where
  shape : Shape
  decode : Json → Option α
  /-- The value in full. -/
  write : α → Json
  default : α
  distinct : shape.Distinct
  read_eq : ∀ json, shape.read json = (decode json).map write
  blank_eq : shape.blank = write default
  write_injective : Function.Injective write

/-- The fields of a record of type `α`: the name of each, how it stands in documents, and where it
stands in the record. The record is made by a function of type `γ`, which takes them in order. -/
inductive Columns (α : Type) : Type → Type 1 where
  | done : Columns α α
  | field {β γ : Type} (name : String) (layout : Layout β) (get : α → β) (rest : Columns α γ) :
    Columns α (β → γ)

namespace Columns

/-- The fields with their shapes. -/
def fields : {γ : Type} → Columns α γ → List (String × Shape)
  | _, done => []
  | _, field name layout _ rest => (name, layout.shape) :: rest.fields

/-- The fields of a record, written in full. -/
def write : {γ : Type} → Columns α γ → α → List (String × Json)
  | _, done, _ => []
  | _, field name layout get rest, a => (name, layout.write (get a)) :: rest.write a

/-- Makes a record of which some members were found. -/
def build (found : List (String × Json)) : {γ : Type} → Columns α γ → γ → Option α
  | _, done, a => some a
  | _, field name layout _ rest, make =>
    (Json.field found name layout.decode layout.default).bind fun b => rest.build found (make b)

/-- The record of which no member was found. -/
def start : {γ : Type} → Columns α γ → γ → α
  | _, done, a => a
  | _, field _ layout _ rest, make => rest.start (make layout.default)

/-- Makes a record once more, from its fields. -/
def rebuild : {γ : Type} → Columns α γ → γ → α → α
  | _, done, a, _ => a
  | _, field _ _ get rest, make, a => rest.rebuild (make (get a)) a

/-- Whatever fields a record is made of are written after what is written already. -/
def Fits (all : α → List (String × Json)) :
    {γ : Type} → Columns α γ → γ → List (String × Json) → Prop
  | _, done, a, written => all a = written
  | _, field name layout _ rest, make, written =>
    ∀ b, rest.Fits all (make b) (written ++ [(name, layout.write b)])

variable {columns : Columns α γ} {make : γ} {all : α → List (String × Json)}
  {written : List (String × Json)}

theorem distinctFields (columns : Columns α γ) : Shape.DistinctFields columns.fields := by
  induction columns with
  | done => trivial
  | field name layout get rest ih => exact ⟨layout.distinct, ih⟩

theorem Fits.build_eq (h : columns.Fits all make written) (found : List (String × Json)) :
    (columns.build found make).map all =
      (Shape.readFields columns.fields found).map (written ++ ·) := by
  induction columns generalizing written with
  | done =>
    rw [build, Option.map_some, show all make = written from h, fields, Shape.readFields,
      Option.map_some, List.append_nil]
  | field name layout get rest ih =>
    have hread : Json.field found name layout.shape.read layout.shape.blank =
        (Json.field found name layout.decode layout.default).map layout.write := by
      unfold Json.field
      cases found.lookup name with
      | none => exact congrArg some layout.blank_eq
      | some json => exact layout.read_eq json
    rw [build, fields, Shape.readFields, hread]
    cases Json.field found name layout.decode layout.default with
    | none => rfl
    | some b =>
      rw [Option.bind_some, ih (h b), Option.map_some, Option.bind_some, Option.map_map]
      simp [Function.comp_def]

theorem Fits.start_eq (h : columns.Fits all make written) :
    all (columns.start make) = written ++ Shape.blankFields columns.fields := by
  induction columns generalizing written with
  | done => exact h.trans (List.append_nil written).symm
  | field name layout get rest ih =>
    rw [start, ih (h layout.default), fields, Shape.blankFields, layout.blank_eq]
    simp

theorem rebuild_eq_of_write_eq {a b : α} (h : columns.write a = columns.write b) :
    columns.rebuild make a = columns.rebuild make b := by
  induction columns with
  | done => rfl
  | field name layout get rest ih =>
    obtain ⟨hfirst, hrest⟩ := List.cons.inj h
    have hget : get a = get b := layout.write_injective (congrArg Prod.snd hfirst)
    rw [rebuild, rebuild, hget, ih hrest]

/-- Among the fields is one of this name. -/
inductive Has {β : Type} (name : String) (layout : Layout β) (get : α → β) :
    {γ : Type} → Columns α γ → Prop
  | here {γ : Type} (rest : Columns α γ) : Has name layout get (.field name layout get rest)
  | there {γ δ : Type} {other : String} {layout' : Layout δ} {get' : α → δ} {rest : Columns α γ} :
    Has name layout get rest → Has name layout get (.field other layout' get' rest)

section Has

variable {β : Type} {name : String} {layout : Layout β} {get : α → β}

theorem Has.mem_fields (h : columns.Has name layout get) :
    (name, layout.shape) ∈ columns.fields := by
  induction h with
  | here rest => exact .head _
  | there _ ih => exact .tail _ ih

theorem Has.lookup_write (h : columns.Has name layout get)
    (nodup : (columns.fields.map Prod.fst).Nodup) (a : α) :
    (columns.write a).lookup name = some (layout.write (get a)) := by
  induction h with
  | here rest => simp [write]
  | @there γ δ other layout' get' rest h ih =>
    obtain ⟨hnew, hrest⟩ := List.nodup_cons.1 nodup
    have hmem : name ∈ rest.fields.map Prod.fst := List.mem_map_of_mem h.mem_fields
    have hne : name ≠ other := fun e => hnew (e ▸ hmem)
    rw [write, List.lookup_cons, beq_eq_false_iff_ne.2 hne]
    exact ih hrest

end Has

end Columns

theorem Json.ofMembers_injective : Function.Injective Json.ofMembers := by
  intro a b h
  refine List.map_injective_iff.2 ?_ (Json.object.inj h)
  rintro ⟨name, json⟩ ⟨name', json'⟩ h
  simpa using h

namespace Layout

/-- A text. -/
def text : Layout String where
  shape := .text
  decode := text?
  write := .text
  default := ""
  distinct := trivial
  read_eq _ := rfl
  blank_eq := rfl
  write_injective _ _ h := Option.some.inj (Json.string.inj h)

/-- A truth value. -/
def truth : Layout Bool where
  shape := .truth
  decode := bool?
  write := .bool
  default := false
  distinct := trivial
  read_eq _ := rfl
  blank_eq := rfl
  write_injective _ _ h := Json.bool.inj h

theorem int_injective : Function.Injective Json.int := by
  intro i j h
  have hinteger := congrArg Json.Number.integer? (Json.number.inj h)
  rw [Json.Number.integer?_ofInt, Json.Number.integer?_ofInt] at hinteger
  exact Option.some.inj hinteger

/-- An integer of 32 bits. -/
def int32 : Layout Int where
  shape := .int32
  decode := int32?
  write := .int
  default := 0
  distinct := trivial
  read_eq _ := rfl
  blank_eq := rfl
  write_injective := int_injective

/-- A quantity, of which the whole part counts. -/
def whole : Layout Int where
  shape := .whole
  decode := whole?
  write := .int
  default := 0
  distinct := trivial
  read_eq _ := rfl
  blank_eq := rfl
  write_injective := int_injective

/-- A value that may be null, where the value itself never is. -/
def nullable (layout : Layout α) (present : ∀ a, layout.write a ≠ .null) : Layout (Option α) where
  shape := .nullable layout.shape
  decode := nullable? layout.decode
  write := .orNull layout.write
  default := none
  distinct := layout.distinct
  read_eq json := by
    by_cases h : json = .null
    · subst h
      rfl
    · have hdecode : nullable? layout.decode json = (layout.decode json).map some := by
        cases json with
        | null => exact absurd rfl h
        | _ => rfl
      rw [Shape.read_nullable_of_ne h, layout.read_eq, hdecode, Option.map_map]
      rfl
  blank_eq := rfl
  write_injective a b h := by
    cases a with
    | none =>
      cases b with
      | none => rfl
      | some b => exact absurd h.symm (present b)
    | some a =>
      cases b with
      | none => exact absurd h (present a)
      | some b => exact congrArg some (layout.write_injective h)

/-- A list. -/
def list (layout : Layout α) : Layout (List α) where
  shape := .list layout.shape
  decode := list? layout.decode
  write values := .array (values.map layout.write)
  default := []
  distinct := layout.distinct
  read_eq json := by
    cases json with
    | array items =>
      have hitems : items.mapM layout.shape.read =
          (items.mapM layout.decode).map (List.map layout.write) := by
        induction items with
        | nil => rfl
        | cons item rest ih =>
          rw [List.mapM_cons, List.mapM_cons, ih, layout.read_eq]
          cases layout.decode item with
          | none => rfl
          | some a =>
            show ((rest.mapM layout.decode).map _).bind _ = ((rest.mapM layout.decode).bind _).map _
            cases rest.mapM layout.decode <;> rfl
      show (items.mapM layout.shape.read).map _ = (items.mapM layout.decode).map _
      rw [hitems, Option.map_map]
      rfl
    | _ => rfl
  blank_eq := rfl
  write_injective _ _ h := List.map_injective_iff.2 layout.write_injective (Json.array.inj h)

end Layout

/-- How a record stands in documents: it is decoded field by field, and it is no more than its
fields. -/
structure RecordLayout (α γ : Type) where
  make : γ
  decode : Json → Option α
  columns : Columns α γ
  nodup : (columns.fields.map Prod.fst).Nodup := by decide
  decode_eq : ∀ json, decode json = (fields? (columns.fields.map Prod.fst) json).bind
    fun found => columns.build found make := by intro; rfl
  fits : columns.Fits columns.write make [] := by (repeat intro); rfl
  rebuild_eq : ∀ a, columns.rebuild make a = a := by intro; rfl

namespace Layout

/-- A record. -/
def record (r : RecordLayout α γ) : Layout α where
  shape := .record r.columns.fields
  decode := r.decode
  write a := .ofMembers (r.columns.write a)
  default := r.columns.start r.make
  distinct := ⟨r.nodup, r.columns.distinctFields⟩
  read_eq json := by
    rw [Shape.read, r.decode_eq]
    cases fields? (r.columns.fields.map Prod.fst) json with
    | none => rfl
    | some found =>
      have hbuild := congrArg (Option.map Json.ofMembers) (r.fits.build_eq found)
      rw [Option.map_map] at hbuild
      simpa [Function.comp_def] using hbuild.symm
  blank_eq := by
    rw [r.fits.start_eq, List.nil_append, Shape.blank]
  write_injective a b h := by
    have hmembers := Json.ofMembers_injective h
    rw [← r.rebuild_eq a, ← r.rebuild_eq b, Columns.rebuild_eq_of_write_eq hmembers]

/-- What is decoded is known by how it is written. -/
theorem decode_eq_some_iff (layout : Layout α) {json : Json} {a : α} :
    layout.decode json = some a ↔ layout.shape.read json = some (layout.write a) := by
  rw [layout.read_eq, Option.map_eq_some_iff]
  constructor
  · intro h
    exact ⟨a, h, rfl⟩
  · rintro ⟨b, hb, hwrite⟩
    rw [hb, layout.write_injective hwrite]

/-! ## Fields of a document -/

/-- The value that a document gives for a field of the record it is read as, if it gives one. -/
def given? (layout : Layout α) (name : String) (json : Json) : Option Json :=
  match layout.shape with
  | .record fields => (fields? (fields.map Prod.fst) json).bind (·.lookup name)
  | _ => none

/-- The list that a document gives for a field; none if it gives none. -/
def items (layout : Layout α) (name : String) (json : Json) : List Json :=
  match layout.given? name json with
  | some (.array items) => items
  | _ => []

/-- **What a field is decoded to**: what the document gives for it, or else its default. -/
theorem field_of_decode {β : Type} {r : RecordLayout α γ} {a : α} {json : Json} {name : String}
    {layout : Layout β} {get : α → β} (h : (record r).decode json = some a)
    (has : r.columns.Has name layout get) :
    ((record r).given? name json).elim (some layout.default) layout.decode = some (get a) := by
  have hread : (record r).shape.read json = some (.ofMembers (r.columns.write a)) := by
    rw [(record r).read_eq]
    exact congrArg (Option.map _) h
  obtain ⟨found, vs, hfound, hvs, hwritten⟩ := Shape.read_record_eq_some_iff.1 hread
  obtain rfl := Json.ofMembers_injective hwritten
  obtain ⟨value, hvalue, hlookup⟩ := Shape.lookup_of_readFields r.nodup hvs has.mem_fields
  obtain rfl : layout.write (get a) = value :=
    Option.some.inj ((has.lookup_write r.nodup a).symm.trans hlookup)
  have hgiven : (record r).given? name json = found.lookup name := by
    show (fields? (r.columns.fields.map Prod.fst) json).bind _ = _
    rw [hfound]
    rfl
  rw [hgiven]
  unfold Json.field at hvalue
  cases hfound' : found.lookup name with
  | none =>
    rw [hfound', layout.blank_eq] at hvalue
    exact congrArg some (layout.write_injective (Option.some.inj hvalue))
  | some value =>
    rw [hfound'] at hvalue
    exact layout.decode_eq_some_iff.2 hvalue

section Given

variable {β : Type} {r : RecordLayout α γ} {a : α} {json value : Json} {name : String}
  {layout : Layout β} {get : α → β}

theorem default_of_not_given (h : (record r).decode json = some a)
    (has : r.columns.Has name layout get) (hgiven : (record r).given? name json = none) :
    get a = layout.default := by
  have hfield := field_of_decode h has
  rw [hgiven] at hfield
  exact (Option.some.inj hfield).symm

theorem decode_of_given (h : (record r).decode json = some a)
    (has : r.columns.Has name layout get) (hgiven : (record r).given? name json = some value) :
    layout.decode value = some (get a) := by
  have hfield := field_of_decode h has
  rwa [hgiven] at hfield

end Given

/-! ## Edits of a document -/

variable (layout : Layout α) {json json' : Json} {a : α} {path : List Json.Step}
  {fields : List (String × Shape)} {name : String} {shape : Shape}

theorem decode_insertMember (decoded : layout.decode json = some a)
    (leads : layout.shape.Leads json path fields) (i : Nat) (value : Json)
    (h : name ∉ fields.map Prod.fst) :
    layout.decode (json.modify path (Json.insertMember i name value)) = some a := by
  have hread : layout.shape.read (json.modify path (Json.insertMember i name value)) =
      some ((layout.write a).modify path id) :=
    leads.read_modify layout.distinct (fun members => ⟨_, rfl⟩)
      (fun _ members v hv => Shape.read_insertMember i value h hv)
      (layout.decode_eq_some_iff.1 decoded)
  rw [Json.modify_id] at hread
  exact layout.decode_eq_some_iff.2 hread

theorem decode_of_reordered (decoded : layout.decode json = some a)
    (h : Json.Reordered json json') : layout.decode json' = some a := by
  have hread : layout.shape.read json = layout.shape.read json' :=
    congrFun (Shape.meaning_of_reordered h) layout.shape
  rw [decode_eq_some_iff, ← hread]
  exact layout.decode_eq_some_iff.1 decoded

/-- The default stands where the field is written. -/
theorem decode_eraseMember (decoded : layout.decode json = some a)
    (leads : layout.shape.Leads json path fields) (h : (name, shape) ∈ fields) :
    ∃ b, layout.decode (json.modify path (Json.eraseMember name)) = some b ∧
      layout.write b =
        (layout.write a).modify (path ++ [.member name]) (fun _ => shape.blank) ∧
      (layout.write b).get? (path ++ [.member name]) = some shape.blank := by
  have ha := layout.decode_eq_some_iff.1 decoded
  have hread := leads.read_modify layout.distinct (fun members => ⟨_, rfl⟩)
    (fun nodup members v hv => Shape.read_eraseMember nodup h hv) ha
  rw [layout.read_eq, ← Json.modify_append] at hread
  obtain ⟨b, hb, hwrite⟩ := Option.map_eq_some_iff.1 hread
  refine ⟨b, hb, hwrite, ?_⟩
  obtain ⟨value, hvalue⟩ := leads.exists_get? layout.distinct ha h
  rw [hwrite, Json.get?_modify, hvalue, Option.map_some]

end Layout

end SquarePool
