import DensityAudit.Table.Lemmas

/-!
# Tables built from rows

A table is determined by its width and its rows (`ext_rows`), so a rearrangement of a table is described by what
it does to the rows: `append` puts the rows of one table after those of another, `repeated` puts copies of every
row in its place.
-/

namespace DensityAudit

/-- A list is what is read from it place by place. -/
theorem map_getD_range {α : Type} (values : List α) (d : α) :
    (List.range values.length).map (fun i => values.getD i d) = values := by
  apply List.ext_getElem
  · rw [List.length_map, List.length_range]
  · intro i _ inside
    rw [List.getElem_map, List.getElem_range, List.getD_eq_getElem?_getD, List.getElem?_eq_getElem inside, Option.getD_some]

/-- Values at places that exist are equal iff they are read alike. -/
theorem getD_eq_getD_iff {α : Type} {values : List α} {i j : Nat} (hi : i < values.length) (hj : j < values.length) (d : α) :
    values.getD i d = values.getD j d ↔ values[i]? = values[j]? := by
  rw [List.getD_eq_getElem?_getD, List.getD_eq_getElem?_getD, List.getElem?_eq_getElem hi, List.getElem?_eq_getElem hj,
    Option.getD_some, Option.getD_some, Option.some.injEq]

/-- Every value as often as the count at its place says, the copies side by side. -/
def copies {α : Type} (counts : List Nat) (values : List α) : List α :=
  (List.zipWith List.replicate counts values).flatten

theorem mem_of_mem_copies {α : Type} {counts : List Nat} {values : List α} {v : α} (h : v ∈ copies counts values) :
    v ∈ values := by
  induction counts generalizing values with
  | nil => cases h
  | cons n counts ih =>
    cases values with
    | nil => cases h
    | cons w values =>
      rcases List.mem_append.1 h with first | later
      · rw [List.eq_of_mem_replicate first]
        exact List.mem_cons_self ..
      · exact .tail _ (ih later)

/-- The values at the given places, in the order of the places. -/
def pick {α : Type} (places : List Nat) (values : List α) : List α := places.filterMap fun i => values[i]?

theorem pick_eq_map_getD {α : Type} {places : List Nat} {values : List α} (inside : ∀ i ∈ places, i < values.length) (d : α) :
    pick places values = places.map fun i => values.getD i d := by
  induction places with
  | nil => rfl
  | cons i rest ih =>
    have first : i < values.length := inside i (List.mem_cons_self ..)
    have others := ih fun j member => inside j (List.mem_cons_of_mem _ member)
    rw [pick] at others ⊢
    rw [List.filterMap_cons_some (List.getElem?_eq_getElem first), others, List.map_cons, List.getD_eq_getElem?_getD,
      List.getElem?_eq_getElem first, Option.getD_some]

theorem length_pick {α : Type} {places : List Nat} {values : List α} (inside : ∀ i ∈ places, i < values.length) :
    (pick places values).length = places.length := by
  cases values with
  | nil =>
    have none : places = [] := List.eq_nil_iff_forall_not_mem.2 fun i member => Nat.not_lt_zero i (inside i member)
    rw [none]
    rfl
  | cons v rest => rw [pick_eq_map_getD inside v, List.length_map]

theorem mem_of_mem_pick {α : Type} {places : List Nat} {values : List α} {v : α} (h : v ∈ pick places values) :
    v ∈ values := by
  obtain ⟨i, -, found⟩ := List.mem_filterMap.1 h
  exact List.mem_of_getElem? found

/-- The values at the places where a property holds are the values with the property. -/
theorem pick_filter_range {α : Type} (p : α → Bool) (values : List α) (d : α) :
    pick ((List.range values.length).filter fun i => p (values.getD i d)) values = values.filter p := by
  have inside : ∀ i ∈ (List.range values.length).filter (fun i => p (values.getD i d)), i < values.length :=
    fun i member => List.mem_range.1 (List.mem_filter.1 member).1
  have filtered := List.filter_map (p := p) (f := fun i => values.getD i d) (l := List.range values.length)
  rw [map_getD_range] at filtered
  rw [pick_eq_map_getD inside d, filtered]
  rfl

namespace Table

variable {α : Type}

/-- Tables of one width with the same rows are equal. -/
theorem ext_rows {s t : Table α} (columns : s.columnCount = t.columnCount) (rows : s.rows = t.rows) : s = t := by
  have values : s.values = t.values := by rw [← s.flatten_rows, ← t.flatten_rows, rows]
  have count : s.rowCount = t.rowCount := by rw [← s.length_rows, ← t.length_rows, rows]
  cases s
  cases t
  cases columns
  cases values
  cases count
  rfl

def ofWidth (columns : Nat) (rows : List (List α)) (widths : ∀ row ∈ rows, row.length = columns)
    (none : columns = 0 → rows = []) : Table α where
  values := rows.flatten
  rowCount := rows.length
  columnCount := columns
  length_values := length_flatten_of_width widths
  rowCount_of_no_columns h := by rw [none h, List.length_nil]

@[simp] theorem rows_ofWidth {columns : Nat} {rows : List (List α)} {widths : ∀ row ∈ rows, row.length = columns}
    {none : columns = 0 → rows = []} : (ofWidth columns rows widths none).rows = rows :=
  pieces_flatten widths

/-- A table without columns has no rows. -/
theorem rows_eq_nil_of_no_columns {t : Table α} (h : t.columnCount = 0) : t.rows = [] := by
  rw [← List.length_eq_zero_iff, length_rows, t.rowCount_of_no_columns h]

/-- The rows of `s`, then those of `t`. -/
def append (s t : Table α) (same : s.columnCount = t.columnCount) : Table α :=
  ofWidth s.columnCount (s.rows ++ t.rows)
    (by
      intro row member
      rcases List.mem_append.1 member with first | second
      · exact length_of_mem_rows first
      · rw [same]
        exact length_of_mem_rows second)
    (by
      intro none
      rw [rows_eq_nil_of_no_columns none, rows_eq_nil_of_no_columns (same ▸ none)]
      rfl)

@[simp] theorem rows_append (s t : Table α) (same : s.columnCount = t.columnCount) :
    (s.append t same).rows = s.rows ++ t.rows := rows_ofWidth

@[simp] theorem rowCount_append (s t : Table α) (same : s.columnCount = t.columnCount) :
    (s.append t same).rowCount = s.rowCount + t.rowCount := by
  rw [← length_rows, rows_append, List.length_append, length_rows, length_rows]

@[simp] theorem columnCount_append (s t : Table α) (same : s.columnCount = t.columnCount) :
    (s.append t same).columnCount = s.columnCount := rfl

theorem values_append (s t : Table α) (same : s.columnCount = t.columnCount) :
    (s.append t same).values = s.values ++ t.values := by
  rw [← flatten_rows, rows_append, List.flatten_append, flatten_rows, flatten_rows]

/-- The table with every row as often as its count says. -/
def repeated (t : Table α) (counts : List Nat) : Table α :=
  ofWidth t.columnCount (copies counts t.rows) (fun _ member => length_of_mem_rows (mem_of_mem_copies member))
    (by
      intro none
      rw [rows_eq_nil_of_no_columns none, copies, List.zipWith_nil_right]
      rfl)

@[simp] theorem rows_repeated (t : Table α) (counts : List Nat) : (t.repeated counts).rows = copies counts t.rows :=
  rows_ofWidth

/-- The rows at the given places, in the order of the places. -/
def pick (t : Table α) (places : List Nat) : Table α :=
  ofWidth t.columnCount (DensityAudit.pick places t.rows) (fun _ member => length_of_mem_rows (mem_of_mem_pick member))
    (by
      intro none
      rw [rows_eq_nil_of_no_columns none, DensityAudit.pick]
      simp)

@[simp] theorem rows_pick (t : Table α) (places : List Nat) : (t.pick places).rows = DensityAudit.pick places t.rows :=
  rows_ofWidth

theorem rowCount_pick {t : Table α} {places : List Nat} (inside : ∀ i ∈ places, i < t.rowCount) :
    (t.pick places).rowCount = places.length := by
  rw [← length_rows, rows_pick, length_pick]
  rwa [length_rows]

theorem mem_values_of_mem_pick {t : Table α} {places : List Nat} {v : α} (h : v ∈ (t.pick places).values) : v ∈ t.values := by
  rw [← flatten_rows, rows_pick] at h
  obtain ⟨row, picked, member⟩ := List.mem_flatten.1 h
  rw [← flatten_rows]
  exact List.mem_flatten.2 ⟨row, mem_of_mem_pick picked, member⟩

end Table

end DensityAudit
