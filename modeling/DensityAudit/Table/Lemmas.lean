import DensityAudit.Table.Basic

/-!
# The rows of a table

Cutting the flat buffer into rows and joining rows are inverse to each other: `flatten_rows` and
`pieces_flatten`. All readers can therefore be understood through `rows`.
-/

namespace DensityAudit.Table

variable {α : Type}

/-! ### Pieces of a list -/

@[simp] theorem length_pieces (width count : Nat) (values : List α) : (pieces width count values).length = count := by
  induction count generalizing values with
  | zero => rfl
  | succ count ih => simp [pieces, ih]

theorem getElem?_pieces {width count i : Nat} (values : List α) (h : i < count) :
    (pieces width count values)[i]? = some ((values.drop (i * width)).take width) := by
  induction count generalizing values i with
  | zero => omega
  | succ count ih =>
    cases i with
    | zero => simp [pieces]
    | succ i =>
      have shifted : width + i * width = (i + 1) * width := by rw [Nat.succ_mul, Nat.add_comm]
      simp only [pieces, List.getElem?_cons_succ]
      rw [ih _ (by omega), List.drop_drop, shifted]

theorem flatten_pieces {width count : Nat} {values : List α} (h : values.length = count * width) :
    (pieces width count values).flatten = values := by
  induction count generalizing values with
  | zero =>
    rw [Nat.zero_mul] at h
    simp [pieces, List.length_eq_zero_iff.1 h]
  | succ count ih =>
    have rest : (values.drop width).length = count * width := by
      rw [List.length_drop, h, Nat.succ_mul]
      omega
    rw [pieces, List.flatten_cons, ih rest, List.take_append_drop]

theorem pieces_flatten {width : Nat} {rows : List (List α)} (h : ∀ row ∈ rows, row.length = width) :
    pieces width rows.length rows.flatten = rows := by
  induction rows with
  | nil => rfl
  | cons row rows ih =>
    have first : row.length = width := h row (by simp)
    rw [List.length_cons, pieces, List.flatten_cons, List.take_left' first, List.drop_left' first,
      ih fun other hmem => h other (List.mem_cons_of_mem _ hmem)]

/-- Lists of one length, joined, are as long as their number times that length. -/
theorem length_flatten_of_width {width : Nat} {rows : List (List α)} (h : ∀ row ∈ rows, row.length = width) :
    rows.flatten.length = rows.length * width := by
  induction rows with
  | nil => simp
  | cons row rows ih =>
    have first : row.length = width := h row (by simp)
    have rest := ih fun other hmem => h other (List.mem_cons_of_mem _ hmem)
    rw [List.flatten_cons, List.length_append, rest, first, List.length_cons, Nat.succ_mul, Nat.add_comm]

/-! ### Places in the buffer -/

/-- Every row starts in the buffer, and what would be the next row after them starts at its end. -/
theorem place_le {t : Table α} {i : Nat} (h : i ≤ t.rowCount) : i * t.columnCount ≤ t.values.length := by
  rw [t.length_values]
  exact Nat.mul_le_mul_right _ h

/-- A row and a column that exist meet in the buffer. -/
theorem cell_lt {t : Table α} {row column : Nat} (h : row < t.rowCount) (h' : column < t.columnCount) :
    row * t.columnCount + column < t.values.length := by
  have fits := place_le (Nat.succ_le_of_lt h)
  rw [Nat.succ_mul] at fits
  omega

/-! ### Rows -/

@[simp] theorem length_rows (t : Table α) : t.rows.length = t.rowCount := length_pieces ..

theorem flatten_rows (t : Table α) : t.rows.flatten = t.values := flatten_pieces t.length_values

theorem getElem?_rows {t : Table α} {i : Nat} (h : i < t.rowCount) :
    t.rows[i]? = some ((t.values.drop (i * t.columnCount)).take t.columnCount) := getElem?_pieces t.values h

/-- A row that exists can be read. -/
theorem row?_eq_getElem? {t : Table α} {i : Nat} (h : i < t.rowCount) : t.row? i = t.rows[i]? := by
  rw [getElem?_rows h, row?, if_pos (place_le h)]

theorem length_of_mem_rows {t : Table α} {row : List α} (h : row ∈ t.rows) : row.length = t.columnCount := by
  obtain ⟨i, hi, rfl⟩ := List.mem_iff_getElem.1 h
  rw [length_rows] at hi
  have read := getElem?_rows hi
  rw [List.getElem?_eq_getElem (by simpa using hi), Option.some.injEq] at read
  have fits := place_le (Nat.succ_le_of_lt hi)
  rw [Nat.succ_mul] at fits
  rw [read, List.length_take, List.length_drop]
  omega

/-- All rows together are the whole buffer. -/
theorem pullRows_all (t : Table α) : t.pullRows 0 t.rowCount = .ok t.values := by
  have whole : (t.rowCount - 0) * t.columnCount = t.values.length := by rw [Nat.sub_zero, t.length_values]
  rw [pullRows, if_neg (by omega), Nat.zero_mul, List.drop_zero, whole, List.take_length]

/-! ### One column -/

theorem length_values_of_single {t : Table α} (single : t.columnCount = 1) : t.values.length = t.rowCount := by
  rw [t.length_values, single, Nat.mul_one]

/-- The values of a table of one column are read row by row. -/
theorem get?_of_single {t : Table α} (single : t.columnCount = 1) (i : Nat) : t.get? i 0 = t.values[i]? := by
  have length := length_values_of_single single
  rw [get?, single, Nat.mul_one, Nat.add_zero]
  split
  case isTrue => rfl
  case isFalse outside => exact (List.getElem?_eq_none (by omega)).symm

theorem get?_column (values : List α) (i : Nat) : (column values).get? i 0 = values[i]? := get?_of_single rfl i

/-! ### Wrapping -/

/-- Exactly the fitting shapes are accepted. -/
theorem wrap_eq_ok_iff {values : List α} {rows columns : Nat} {t : Table α} :
    wrap values rows columns = .ok t ↔ t.values = values ∧ t.rowCount = rows ∧ t.columnCount = columns := by
  unfold wrap
  constructor
  · intro h
    split at h
    · rw [← Except.ok.inj h]
      exact ⟨rfl, rfl, rfl⟩
    · cases h
  · rintro ⟨rfl, rfl, rfl⟩
    rw [dif_pos ⟨t.length_values, t.rowCount_of_no_columns⟩]

/-- A table is what its buffer and its shape say. -/
theorem wrap_values (t : Table α) : wrap t.values t.rowCount t.columnCount = .ok t :=
  wrap_eq_ok_iff.2 ⟨rfl, rfl, rfl⟩

/-- The buffer of a table made of rows is the rows one after another. -/
theorem values_of_ofRows {rows : List (List α)} {t : Table α} (h : ofRows rows = .ok t) : t.values = rows.flatten := by
  rw [ofRows] at h
  split at h
  · cases h
  · exact (wrap_eq_ok_iff.1 h).1

@[simp] theorem rows_column (values : List α) : (column values).rows = values.map fun v => [v] := by
  have joined : (values.map fun v => [v]).flatten = values := by
    induction values with
    | nil => rfl
    | cons v rest ih => simp [ih]
  have cut := @pieces_flatten α 1 (values.map fun v => [v]) (by simp)
  rw [joined, List.length_map] at cut
  exact cut

end DensityAudit.Table
