import DensityAudit.Proofs.Table.Stored

/-!
# The readers of a table agree

Every reader cuts the buffer at multiples of the column count, so each of them can be told by the rows: a range of rows is
these rows joined (`pullRows_eq`), and a cell is a value of its row (`get?_eq_getElem?`). With what the constructors
establish, `readers_agree` says so of every table that is built, with numbers of one word and without stopping.
-/

namespace DensityAudit.Table

variable {α : Type}

/-! ### Rows of one width, joined -/

section

variable {width : Nat} {rows : List (List α)}

/-- The values after some rows are those of the other rows. -/
theorem drop_flatten (widths : ∀ row ∈ rows, row.length = width) (n : Nat) :
    rows.flatten.drop (n * width) = (rows.drop n).flatten := by
  induction n generalizing rows with
  | zero => rw [Nat.zero_mul, List.drop_zero, List.drop_zero]
  | succ n ih =>
    cases rows with
    | nil => rw [List.flatten_nil, List.drop_nil, List.drop_nil, List.flatten_nil]
    | cons row rest =>
      have first : row.length = width := widths row (List.mem_cons_self ..)
      have others := ih fun other member => widths other (.tail _ member)
      rw [Nat.succ_mul, Nat.add_comm, ← List.drop_drop, List.flatten_cons, List.drop_left' first, others, List.drop_succ_cons]

theorem take_flatten (widths : ∀ row ∈ rows, row.length = width) (n : Nat) :
    rows.flatten.take (n * width) = (rows.take n).flatten := by
  induction n generalizing rows with
  | zero => rw [Nat.zero_mul, List.take_zero, List.take_zero, List.flatten_nil]
  | succ n ih =>
    cases rows with
    | nil => rw [List.flatten_nil, List.take_nil, List.take_nil, List.flatten_nil]
    | cons row rest =>
      have first : row.length = width := widths row (List.mem_cons_self ..)
      have others := ih fun other member => widths other (.tail _ member)
      rw [Nat.succ_mul, Nat.add_comm, ← first, List.flatten_cons, List.take_length_add_append, first, others,
        List.take_succ_cons, List.flatten_cons]

end

/-! ### Readers told by the rows -/

variable {t : Table α} {i : Nat} {row : List α}

/-- A range of rows is these rows joined, and nothing else is a range. -/
theorem pullRows_eq (t : Table α) (start stop : Nat) : t.pullRows start stop =
    if start ≤ stop ∧ stop ≤ t.rowCount then .ok ((t.rows.drop start).take (stop - start)).flatten
    else .error (.rowRange start stop t.rowCount) := by
  by_cases inside : start ≤ stop ∧ stop ≤ t.rowCount
  case neg => rw [if_neg inside, pullRows, if_pos (by omega)]
  case pos =>
    have widths : ∀ row ∈ t.rows, row.length = t.columnCount := fun _ => length_of_mem_rows
    have widths' : ∀ row ∈ t.rows.drop start, row.length = t.columnCount :=
      fun row member => widths row (List.mem_of_mem_drop member)
    rw [if_pos inside, pullRows, if_neg (by omega), ← t.flatten_rows, drop_flatten widths, take_flatten widths']

/-- A range of rows is these rows joined. -/
theorem pullRows_of_le {start stop : Nat} (order : start ≤ stop) (inside : stop ≤ t.rowCount) :
    t.pullRows start stop = .ok ((t.rows.drop start).take (stop - start)).flatten := by
  rw [pullRows_eq, if_pos ⟨order, inside⟩]

theorem pullRows_row (read : t.rows[i]? = some row) : t.pullRows i (i + 1) = .ok row := by
  obtain ⟨inside, rfl⟩ := List.getElem?_eq_some_iff.1 read
  have exists' : i + 1 ≤ t.rowCount := by rwa [length_rows] at inside
  have one : i + 1 - i = 1 := by omega
  rw [pullRows_of_le (Nat.le_succ i) exists', List.drop_eq_getElem_cons inside, one, List.take_succ_cons, List.take_zero,
    List.flatten_cons, List.flatten_nil, List.append_nil]

/-- A cell is a value of its row. -/
theorem get?_eq_getElem? (read : t.rows[i]? = some row) (j : Nat) : t.get? i j = row[j]? := by
  have inside : i < t.rowCount := by
    rw [← length_rows]
    exact (List.getElem?_eq_some_iff.1 read).1
  rw [getElem?_rows inside, Option.some.injEq] at read
  rw [← read, get?, List.getElem?_take, List.getElem?_drop]
  simp only [inside, true_and]

/-- A row is its values, read one by one. -/
theorem map_get?_range (read : t.rows[i]? = some row) :
    (List.range t.columnCount).map (t.get? i) = row.map some := by
  have width : row.length = t.columnCount := length_of_mem_rows (List.mem_of_getElem? read)
  apply List.ext_getElem
  · rw [List.length_map, List.length_range, List.length_map, width]
  · intro j _ inside
    rw [List.length_map] at inside
    rw [List.getElem_map, List.getElem_range, List.getElem_map, get?_eq_getElem? read, List.getElem?_eq_getElem inside]

/-- A value can be read iff its row and its column exist. -/
theorem isSome_get?_iff (row column : Nat) : (t.get? row column).isSome = true ↔ row < t.rowCount ∧ column < t.columnCount := by
  rw [get?]
  split
  case isTrue inside => exact iff_of_true (by rw [List.getElem?_eq_getElem (cell_lt inside.1 inside.2)]; rfl) inside
  case isFalse outside => exact iff_of_false Bool.false_ne_true outside

/-- Two ranges of rows of which one ends where the other starts make one range. -/
theorem pullRows_append {start middle stop : Nat} (order : start ≤ middle) (order' : middle ≤ stop)
    (inside : stop ≤ t.rowCount) : ∃ front back, t.pullRows start middle = .ok front ∧
      t.pullRows middle stop = .ok back ∧ t.pullRows start stop = .ok (front ++ back) := by
  refine ⟨_, _, pullRows_of_le order (by omega), pullRows_of_le order' inside, ?_⟩
  have pieces : stop - start = (middle - start) + (stop - middle) := by omega
  have place : start + (middle - start) = middle := by omega
  rw [pullRows_of_le (by omega) inside, pieces, List.take_add, List.drop_drop, place, List.flatten_append]

/-! ### Every table that is built -/

/-- All readers of a table read the same rows. -/
structure ReadAlike (t : Table α) : Prop where
  count : t.rows.length = t.rowCount
  row : ∀ i < t.rowCount, ∃ row, t.rows[i]? = some row ∧ t.row? i = some row ∧ t.pullRows i (i + 1) = .ok row ∧
    (List.range t.columnCount).map (t.get? i) = row.map some
  cell : ∀ row column, (t.get? row column).isSome = true ↔ row < t.rowCount ∧ column < t.columnCount
  range : ∀ start stop, t.pullRows start stop =
    if start ≤ stop ∧ stop ≤ t.rowCount then .ok ((t.rows.drop start).take (stop - start)).flatten
    else .error (.rowRange start stop t.rowCount)
  append : ∀ start middle stop, start ≤ middle → middle ≤ stop → stop ≤ t.rowCount →
    ∃ front back, t.pullRows start middle = .ok front ∧ t.pullRows middle stop = .ok back ∧
      t.pullRows start stop = .ok (front ++ back)
  whole : t.pullRows 0 t.rowCount = .ok t.values

/-- All readers of a table agree. -/
theorem readAlike (t : Table α) : t.ReadAlike where
  count := t.length_rows
  row i inside := by
    have read : t.rows[i]? = some _ := List.getElem?_eq_getElem (by rwa [length_rows])
    exact ⟨_, read, (row?_eq_getElem? inside).trans read, pullRows_row read, map_get?_range read⟩
  cell := isSome_get?_iff
  range := t.pullRows_eq
  append _ _ _ := pullRows_append
  whole := t.pullRows_all

/-- In every table that is built the buffer has as many values as the extents say, which is a number of one word, and
there are no rows without columns. All its readers agree on its rows. None of them stops where there is something to read,
and a range of rows that do not exist is refused, whatever becomes of numbers that do not fit into a word. -/
theorem readers_agree (s : StoredTable α) (built : s.Built) (overflow : Overflow) :
    s.rowCount * s.columnCount = s.values.length ∧ s.rowCount * s.columnCount < wordBound ∧
    (s.columnCount = 0 → s.rowCount = 0) ∧
    ∃ t : Table α, t.stored = s ∧ t.ReadAlike ∧ t.ReadsAs overflow s := by
  obtain ⟨t, rfl, buffer⟩ := built.exists_table
  have shape : t.rowCount * t.columnCount = t.values.length := t.length_values.symm
  exact ⟨shape, by rwa [rowCount_stored, columnCount_stored, shape], t.rowCount_of_no_columns, t, rfl, t.readAlike,
    readsAs_stored buffer overflow⟩

/-- Three rows of two columns, and no rows of as many columns as there can be. -/
theorem readers_agree_extremes :
    let pairs : StoredTable Nat := ⟨[1, 2, 3, 4, 5, 6], 3, 2⟩
    let wide : StoredTable Nat := .empty (wordBound - 1)
    (pairs.Built ∧ ∃ t : Table Nat, t.stored = pairs ∧ t.ReadAlike ∧ t.ReadsAs .stops pairs) ∧
    (wide.Built ∧ ∃ t : Table Nat, t.stored = wide ∧ t.ReadAlike ∧ t.ReadsAs .wraps wide) := by
  intro pairs wide
  have accepted : StoredTable.wrap [1, 2, 3, 4, 5, 6] 3 2 = .ok pairs := rfl
  have built : pairs.Built := .wrap (by decide) (by decide) accepted
  have built' : wide.Built := .empty (by decide)
  exact ⟨⟨built, (readers_agree pairs built .stops).2.2.2⟩, ⟨built', (readers_agree wide built' .wraps).2.2.2⟩⟩

end DensityAudit.Table
