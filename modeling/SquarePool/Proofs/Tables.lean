import SquarePool.Store.Table

/-!
# Laws of tables

What putting, replacing and rewriting rows does to a table, seen through any of its columns: a row
whose key is taken keeps its place, a row with a new key goes to the end, and a search by one column
is untouched by a write that concerns another value of that column. Searching and putting go through
every map of the rows that keeps their keys.
-/

namespace SquarePool.Table

variable {α β κ ι : Type} [DecidableEq κ] [DecidableEq ι]

/-! ## Searching -/

theorem find?_eq_none_iff {key : α → κ} {k : κ} {rows : List α} :
    find? key k rows = none ↔ ∀ row ∈ rows, key row ≠ k := by
  simp [find?]

theorem isSome_find?_iff {key : α → κ} {k : κ} {rows : List α} :
    (find? key k rows).isSome ↔ k ∈ rows.map key := by
  simp [find?]

/-- With unique keys the row that a key finds is the only one that has it. -/
theorem find?_of_mem {key : α → κ} {rows : List α} (unique : (rows.map key).Nodup) {row : α}
    (h : row ∈ rows) : find? key (key row) rows = some row := by
  induction rows with
  | nil => simp at h
  | cons old rest ih =>
    simp only [List.map_cons, List.nodup_cons, List.mem_map, not_exists, not_and] at unique
    rcases List.mem_cons.1 h with rfl | h
    · simp [find?]
    · have hne : key old ≠ key row := fun e => unique.1 row h e.symm
      simpa [find?, hne] using ih unique.2 h

theorem eq_of_mem_of_key {key : α → κ} {rows : List α} (unique : (rows.map key).Nodup) {a b : α}
    (ha : a ∈ rows) (hb : b ∈ rows) (h : key a = key b) : a = b := by
  have hfa := find?_of_mem unique ha
  rw [h, find?_of_mem unique hb] at hfa
  exact (Option.some.inj hfa).symm

/-! ## Putting -/

/-- A row with a new key goes to the end. -/
theorem put_of_find?_none {key : α → κ} {row : α} {rows : List α}
    (h : find? key (key row) rows = none) : put key row rows = rows ++ [row] := by
  induction rows with
  | nil => rfl
  | cons old rest ih =>
    rw [find?_eq_none_iff] at h
    have hold : key old ≠ key row := h old (by simp)
    have hrest : find? key (key row) rest = none :=
      find?_eq_none_iff.2 fun r hr => h r (by simp [hr])
    rw [put, if_neg hold, ih hrest, List.cons_append]

/-- A row whose key is taken replaces the row that has it, so a column on which the two agree
stays as it was. -/
theorem map_put_of_find? {key : α → κ} {row old : α} {rows : List α}
    (h : find? key (key row) rows = some old) (column : α → β) (agree : column row = column old) :
    (put key row rows).map column = rows.map column := by
  induction rows with
  | nil => simp [find?] at h
  | cons first rest ih =>
    by_cases hk : key first = key row
    · have hfirst : first = old := by simpa [find?, hk] using h
      rw [put, if_pos hk, List.map_cons, List.map_cons, agree, hfirst]
    · simp only [find?, List.find?_cons, hk, decide_false] at h
      rw [put, if_neg hk, List.map_cons, List.map_cons, ih h]

theorem nodup_map_put {key : α → κ} (row : α) {rows : List α} (unique : (rows.map key).Nodup) :
    ((put key row rows).map key).Nodup := by
  cases h : find? key (key row) rows with
  | some old => rwa [map_put_of_find? h key (key_of_find? h).symm]
  | none =>
    rw [put_of_find?_none h, List.map_append, List.map_singleton]
    refine List.nodup_append.2 ⟨unique, by simp, ?_⟩
    intro k hk k' hk'
    obtain ⟨r, hr, rfl⟩ := List.mem_map.1 hk
    rw [List.mem_singleton.1 hk']
    exact find?_eq_none_iff.1 h r hr

/-- A row is found by any column in which no row before it has its value. Here that is so because
the search gave nothing, or gave the row that is replaced. -/
theorem find?_put_column {key : α → κ} {column : α → ι} {row : α} {rows : List α}
    (h : ∀ old, find? column (column row) rows = some old → key old = key row) :
    find? column (column row) (put key row rows) = some row := by
  induction rows with
  | nil => simp [find?, put]
  | cons first rest ih =>
    by_cases hk : key first = key row
    · simp [find?, put, hk]
    · have hc : column first ≠ column row := fun e => hk (h first (by simp [find?, e]))
      simp only [find?, List.find?_cons, hc, decide_false, put, if_neg hk] at h ih ⊢
      exact ih h

/-- A search for a value that neither the new row nor the row it replaces has finds what it found
before. -/
theorem find?_put_column_of_ne {key : α → κ} {column : α → ι} {row : α} {rows : List α} {v : ι}
    (hrow : column row ≠ v) (hold : ∀ old ∈ rows, key old = key row → column old ≠ v) :
    find? column v (put key row rows) = find? column v rows := by
  induction rows with
  | nil => simp [find?, put, hrow]
  | cons first rest ih =>
    have ih := ih fun old h => hold old (by simp [h])
    by_cases hk : key first = key row
    · have hf : column first ≠ v := hold first (by simp) hk
      simp [find?, put, hk, hrow, hf]
    · simp only [find?, put, if_neg hk, List.find?_cons] at ih ⊢
      rw [ih]

/-- With unique keys, putting a row with a taken key rewrites the row that has it. -/
theorem put_of_nodup {key : α → κ} {rows : List α} (unique : (rows.map key).Nodup) (row : α)
    {old : α} (h : old ∈ rows) (same : key row = key old) :
    put key row rows = rows.map fun other => if key other = key old then row else other := by
  induction rows with
  | nil => simp at h
  | cons first rest ih =>
    simp only [List.map_cons, List.nodup_cons, List.mem_map, not_exists, not_and] at unique
    by_cases hk : key first = key old
    · have hrest : ∀ other ∈ rest, (if key other = key old then row else other) = other :=
        fun other hother => if_neg fun e => unique.1 other hother (e.trans hk.symm)
      rw [put, if_pos (hk.trans same.symm), List.map_cons, if_pos hk, List.map_congr_left hrest,
        List.map_id']
    · have hmem : old ∈ rest := (List.mem_cons.1 h).resolve_left fun e => hk (e ▸ rfl)
      rw [put, if_neg (same ▸ hk), List.map_cons, if_neg hk, ih unique.2 hmem]

/-- A row that its key finds already is put where it is. -/
theorem put_of_find?_self {key : α → κ} {row : α} {rows : List α}
    (h : find? key (key row) rows = some row) : put key row rows = rows := by
  induction rows with
  | nil => simp [find?] at h
  | cons first rest ih =>
    by_cases hk : key first = key row
    · have hfirst : first = row := by simpa [find?, hk] using h
      rw [put, if_pos hk, hfirst]
    · simp only [find?, List.find?_cons, hk, decide_false] at h
      rw [put, if_neg hk, ih h]

/-- Of two rows with one key the second replaces the first. -/
theorem put_put {key : α → κ} {first second : α} (h : key first = key second) (rows : List α) :
    put key second (put key first rows) = put key second rows := by
  induction rows with
  | nil => simp [put, h]
  | cons row rest ih =>
    by_cases hk : key row = key first
    · simp [put, hk, h]
    · have hk' : key row ≠ key second := h ▸ hk
      simp [put, hk, hk', ih]

/-- Two rows that replace others do so in any order. -/
theorem put_comm {key : α → κ} {first second : α} {rows : List α} (ne : key first ≠ key second)
    (hfirst : key first ∈ rows.map key) (hsecond : key second ∈ rows.map key) :
    put key first (put key second rows) = put key second (put key first rows) := by
  induction rows with
  | nil => exact nomatch hfirst
  | cons row rest ih =>
    by_cases h : key row = key first
    · simp [put, h, ne]
    · by_cases h' : key row = key second
      · simp [put, h', Ne.symm ne]
      · rw [List.map_cons, List.mem_cons] at hfirst hsecond
        have hrest := ih (hfirst.resolve_left (Ne.symm h)) (hsecond.resolve_left (Ne.symm h'))
        simp [put, h, h', hrest]

/-- Where neither the new row nor the one that it replaces is looked at, nothing changed. -/
theorem filter_put {key : α → κ} {row : α} {rows : List α} {p : α → Bool} (hrow : p row = false)
    (hold : ∀ old ∈ rows, key old = key row → p old = false) :
    (put key row rows).filter p = rows.filter p := by
  induction rows with
  | nil => simp [put, hrow]
  | cons first rest ih =>
    have ih := ih fun old h => hold old (by simp [h])
    by_cases hk : key first = key row
    · simp [put, hk, hrow, hold first (by simp) hk]
    · simp [put, hk, List.filter_cons, ih]

/-- Among the rows of some keys a row with one of these keys is put as it is among all. -/
theorem filter_put_of_true {key : α → κ} {row : α} {p : α → Bool} (hrow : p row = true)
    (own : ∀ other, key other = key row → p other = true) (rows : List α) :
    (put key row rows).filter p = put key row (rows.filter p) := by
  induction rows with
  | nil => simp [put, hrow]
  | cons first rest ih =>
    by_cases hk : key first = key row
    · simp [put, hk, hrow, own first hk]
    · cases hp : p first <;> simp [put, hk, hp, ih]

/-- Among the rows of some keys a search for one of these keys finds what it finds among all. -/
theorem find?_filter {key : α → κ} {k : κ} {p : α → Bool} (own : ∀ row, key row = k → p row = true)
    (rows : List α) : find? key k (rows.filter p) = find? key k rows := by
  induction rows with
  | nil => rfl
  | cons first rest ih =>
    by_cases hk : key first = k
    · simp [find?, hk, own first hk]
    · simp only [find?] at ih
      cases hp : p first <;> simp [find?, hk, hp, ih]

/-! ## Mapping -/

section Mapping

variable {key : α → κ} {key' : β → κ} {f : α → β} (kept : ∀ row, key' (f row) = key row)

include kept

/-- A search goes through a map that keeps keys. -/
theorem find?_map (k : κ) (rows : List α) :
    find? key' k (rows.map f) = (find? key k rows).map f := by
  simp only [find?, List.find?_map, Function.comp_def, kept]

theorem map_put (row : α) (rows : List α) :
    (put key row rows).map f = put key' (f row) (rows.map f) := by
  induction rows with
  | nil => rfl
  | cons first rest ih =>
    by_cases hk : key first = key row
    · simp [put, hk, kept]
    · simp [put, hk, kept, ih]

end Mapping

/-! ## Rewriting -/

theorem map_replace (key : α → κ) (row : α) (rows : List α) :
    (replace key row rows).map key = rows.map key := by
  induction rows with
  | nil => rfl
  | cons old rest ih =>
    by_cases h : key old = key row
    · simp [replace, h]
    · simp [replace, h, ih]

/-- A row with a new key is replaced at the end of the table. -/
theorem replace_append_last {key : α → κ} {old row : α} {rows : List α} (same : key old = key row)
    (fresh : ∀ other ∈ rows, key other ≠ key row) :
    replace key row (rows ++ [old]) = rows ++ [row] := by
  induction rows with
  | nil => simp [replace, same]
  | cons first rest ih =>
    have hfirst : key first ≠ key row := fresh first (by simp)
    rw [List.cons_append, replace, if_neg hfirst, ih fun other h => fresh other (by simp [h])]
    rfl

theorem map_updateWhere (chosen : α → Bool) (f : α → α) (rows : List α) (column : α → β)
    (kept : ∀ row, column (f row) = column row) :
    (updateWhere chosen f rows).map column = rows.map column := by
  rw [updateWhere, List.map_map]
  refine List.map_congr_left fun row _ => ?_
  by_cases h : chosen row = true <;> simp [h, kept]

/-- Rows that are not chosen stay as they are. -/
theorem filter_updateWhere {chosen p : α → Bool} {f : α → α} {rows : List α}
    (h : ∀ row, chosen row = true → p row = false ∧ p (f row) = false) :
    (updateWhere chosen f rows).filter p = rows.filter p := by
  induction rows with
  | nil => rfl
  | cons row rest ih =>
    rw [updateWhere] at ih
    by_cases hc : chosen row = true
    · simp [updateWhere, hc, h row hc, ih]
    · simp [updateWhere, List.filter_cons, hc, ih]

/-- Two choices that have no row in common may be rewritten in any order. -/
theorem updateWhere_comm {chosen chosen' : α → Bool} {f f' : α → α} {rows : List α}
    (apart : ∀ row ∈ rows, chosen row = true → chosen' row = false)
    (kept : ∀ row, chosen' (f row) = chosen' row) (kept' : ∀ row, chosen (f' row) = chosen row) :
    updateWhere chosen f (updateWhere chosen' f' rows) =
      updateWhere chosen' f' (updateWhere chosen f rows) := by
  simp only [updateWhere, List.map_map]
  refine List.map_congr_left fun row hrow => ?_
  by_cases h : chosen row = true
  · simp [h, apart row hrow h, kept]
  · by_cases h' : chosen' row = true <;> simp [h, h', kept']

/-- Where the chosen rows are as they would be rewritten, nothing changes. -/
theorem updateWhere_of_fixed {chosen : α → Bool} {f : α → α} {rows : List α}
    (fixed : ∀ row ∈ rows, chosen row = true → f row = row) :
    updateWhere chosen f rows = rows := by
  induction rows with
  | nil => rfl
  | cons row rest ih =>
    have ih := ih fun other h => fixed other (by simp [h])
    rw [updateWhere] at ih
    by_cases hc : chosen row = true
    · rw [updateWhere, List.map_cons, if_pos hc, fixed row (by simp) hc, ih]
    · rw [updateWhere, List.map_cons, if_neg hc, ih]

/-- Then no row is counted as one that changes. -/
theorem filter_changed_of_fixed [DecidableEq α] {chosen : α → Bool} {f : α → α} {rows : List α}
    (fixed : ∀ row ∈ rows, chosen row = true → f row = row) :
    (rows.filter fun row => chosen row && f row != row) = [] := by
  refine List.filter_eq_nil_iff.2 fun row hrow changed => ?_
  obtain ⟨hchosen, hne⟩ := Bool.and_eq_true_iff.1 changed
  exact bne_iff_ne.1 hne (fixed row hrow hchosen)

/-- Rows that were rewritten once are as they would be rewritten again. -/
theorem fixed_of_mem_updateWhere {chosen : α → Bool} {f : α → α} {rows : List α}
    (twice : ∀ row, f (f row) = f row) {row : α} (h : row ∈ updateWhere chosen f rows)
    (hchosen : chosen row = true) : f row = row := by
  obtain ⟨old, -, rfl⟩ := List.mem_map.1 h
  by_cases hc : chosen old = true
  · rw [if_pos hc, twice]
  · rw [if_neg hc] at hchosen
    exact absurd hchosen hc

/-- The rows that rewriting changes are counted by comparing each row with what became of it, in
any column that shows whether the row changed. -/
theorem length_filter_changed [DecidableEq α] (chosen : α → Bool) {f : α → α} (column : α → ι)
    (shows : ∀ row, column (f row) = column row → f row = row) (rows : List α) :
    (rows.filter fun row => chosen row && f row != row).length =
      (rows.zip (updateWhere chosen f rows)).countP fun (old, new) => column new ≠ column old := by
  induction rows with
  | nil => rfl
  | cons row rest ih =>
    rw [updateWhere] at ih
    have hcolumn : column (f row) = column row ↔ f row = row := ⟨shows row, congrArg column⟩
    rw [updateWhere, List.map_cons, List.zip_cons_cons, List.countP_cons, ← ih]
    by_cases hc : chosen row = true
    · by_cases hf : f row = row <;> simp [hc, hf, hcolumn]
    · simp [hc]

theorem find?_updateWhere (chosen : α → Bool) (f : α → α) (rows : List α) (key : α → κ)
    (kept : ∀ row, key (f row) = key row) (k : κ) :
    find? key k (updateWhere chosen f rows)
      = (find? key k rows).map fun row => if chosen row then f row else row := by
  have hkey : ∀ row, key (if chosen row then f row else row) = key row := by
    intro row
    by_cases h : chosen row = true <;> simp [h, kept]
  simp only [find?, updateWhere, List.find?_map, Function.comp_def, hkey]

end SquarePool.Table
