import DensityAudit.Proofs.Table.Stored

/-!
# Which rows can be read

A row is cut out of the buffer between two products, and whether it exists is asked of the cut only. For a table with
columns whose products fit into words the cut lies within the buffer iff the row exists. It does so too for every row of
a table without columns, where all cuts are empty, and where products wrap around it may do so for a row that is far beyond
the last one. `row?_defined` says for every built table which rows are read; `row?_absent_read` reads one that does not
exist.
-/

namespace DensityAudit.StoredTable

variable {α : Type} {s : StoredTable α} {i : Nat}

/-! ### The cut of a row -/

/-- A piece can be cut out iff its ends are in order and within the buffer. -/
theorem exists_cut?_iff {values : List α} {start stop : Nat} :
    (∃ piece, cut? values start stop = some piece) ↔ start ≤ stop ∧ stop ≤ values.length := by
  rw [cut?]
  split
  case isTrue inside => exact iff_of_true ⟨_, rfl⟩ inside
  case isFalse outside =>
    refine iff_of_false ?_ outside
    rintro ⟨piece, cut⟩
    cases cut

/-- If numbers stop at the bound, a word is the number itself. -/
theorem word?_stops_eq_some_iff {m n : Nat} : Overflow.stops.word? m = some n ↔ m = n ∧ m < wordBound := by
  rw [Overflow.word?]
  split
  case isTrue small => rw [Option.some.injEq, and_iff_left small]
  case isFalse large =>
    refine iff_of_false (fun read => ?_) fun same => large same.2
    cases read

theorem word?_wraps (n : Nat) : Overflow.wraps.word? n = some (n % wordBound) := by
  rw [Overflow.word?]
  split
  case isTrue small => rw [Nat.mod_eq_of_lt small]
  case isFalse => rfl

/-- If numbers stop at the bound, the cut of a row is made between the exact products. -/
theorem exists_row?_stops_iff_words : (∃ row, s.row? .stops i = some row) ↔
    i + 1 < wordBound ∧ (i + 1) * s.columnCount < wordBound ∧ (i + 1) * s.columnCount ≤ s.values.length := by
  have order : i * s.columnCount ≤ (i + 1) * s.columnCount := Nat.mul_le_mul_right _ (Nat.le_succ i)
  simp only [row?, Option.bind_eq_bind, Option.bind_eq_some_iff, word?_stops_eq_some_iff]
  constructor
  · rintro ⟨row, start, ⟨rfl, -⟩, next, ⟨rfl, word⟩, stop, ⟨rfl, product⟩, cut⟩
    exact ⟨word, product, (exists_cut?_iff.1 ⟨row, cut⟩).2⟩
  · rintro ⟨word, product, inside⟩
    obtain ⟨row, cut⟩ := exists_cut?_iff.2 ⟨order, inside⟩
    exact ⟨row, _, ⟨rfl, Nat.lt_of_le_of_lt order product⟩, _, ⟨rfl, word⟩, _, ⟨rfl, product⟩, cut⟩

/-- If numbers wrap around, the cut of a row is made between the remainders of the products. -/
theorem row?_wraps (s : StoredTable α) (i : Nat) : s.row? .wraps i =
    cut? s.values (i * s.columnCount % wordBound) ((i * s.columnCount % wordBound + s.columnCount) % wordBound) := by
  have stop : (i + 1) % wordBound * s.columnCount % wordBound =
      (i * s.columnCount % wordBound + s.columnCount) % wordBound := by
    rw [Nat.mod_mul_mod, Nat.succ_mul, Nat.mod_add_mod]
  simp only [row?, word?_wraps, Option.bind_eq_bind, Option.bind_some, stop]

/-- The remainder of the later product is the smaller one if only that has wrapped around, and then there is no cut. -/
theorem exists_row?_wraps_iff (buffer : s.values.length < wordBound) (columns : s.columnCount < wordBound) :
    (∃ row, s.row? .wraps i = some row) ↔ i * s.columnCount % wordBound + s.columnCount ≤ s.values.length := by
  have start : i * s.columnCount % wordBound < wordBound := Nat.mod_lt _ (by decide)
  rw [row?_wraps, exists_cut?_iff]
  generalize i * s.columnCount % wordBound = first at start
  by_cases word : first + s.columnCount < wordBound
  · rw [Nat.mod_eq_of_lt word, and_iff_right (Nat.le_add_right ..)]
  · have stop : (first + s.columnCount) % wordBound = first + s.columnCount - wordBound := by
      rw [Nat.mod_eq_sub_mod (Nat.not_lt.1 word), Nat.mod_eq_of_lt (by omega)]
    rw [stop]
    omega

/-- Whatever becomes of large numbers, what is read starts at the remainder of the first product. -/
theorem row_eq_of_read {overflow : Overflow} {row : List α} (buffer : s.values.length < wordBound)
    (columns : s.columnCount < wordBound) (read : s.row? overflow i = some row) :
    row = (s.values.drop (i * s.columnCount % wordBound)).take s.columnCount := by
  cases overflow with
  | stops =>
    have fits := exists_row?_stops_iff_words.1 ⟨row, read⟩
    rw [Nat.succ_mul] at fits
    simp only [row?, Option.bind_eq_bind, Option.bind_eq_some_iff, word?_stops_eq_some_iff] at read
    obtain ⟨start, ⟨rfl, word⟩, next, ⟨rfl, -⟩, stop, ⟨rfl, -⟩, cut⟩ := read
    rw [Nat.mod_eq_of_lt word]
    rw [Nat.succ_mul, cut?_eq (Nat.le_add_right ..) fits.2.2, Nat.add_sub_cancel_left, Option.some.injEq] at cut
    exact cut.symm
  | wraps =>
    have fits := (exists_row?_wraps_iff buffer columns).1 ⟨row, read⟩
    rw [row?_wraps, Nat.mod_eq_of_lt (Nat.lt_of_le_of_lt fits buffer), cut?_eq (Nat.le_add_right ..) fits,
      Nat.add_sub_cancel_left, Option.some.injEq] at read
    exact read.symm

/-! ### Built tables -/

/-- The columns of a built table are counted by a word: they were given as one, or they are values of its first row. -/
theorem Built.columnCount_lt (built : s.Built) : s.columnCount < wordBound := by
  cases built with
  | wrap buffer extents accepted =>
    rw [StoredTable.wrap] at accepted
    split at accepted
    · cases accepted
    · rw [← Except.ok.inj accepted]
      exact extents.2
  | column => exact (by decide : 1 < wordBound)
  | empty extent => exact extent
  | @ofRows _ _ rows _ _ accepted =>
    obtain ⟨buffer, t, joined, rfl⟩ := exists_ofRows_eq accepted
    rw [Table.ofRows] at joined
    split at joined
    · cases joined
    · obtain ⟨-, -, columns⟩ := Table.wrap_eq_ok_iff.1 joined
      rw [Table.columnCount_stored, columns]
      cases rows with
      | nil => exact (by decide : 0 < wordBound)
      | cons row rest =>
        rw [List.flatten_cons, List.length_append] at buffer
        exact Nat.lt_of_le_of_lt (Nat.le_add_right ..) buffer

/-- Which rows of a built table are read. All that exist are, and they are those that the rows in order have. If numbers
stop at the bound, no other row is read unless there are no columns. If they wrap around, a row is read iff the cut from
the remainder of its place on lies within the buffer, which for a table with columns means that it exists, as long as the
place of the next row is a word. What is read of a row that does not exist is what stands at that remainder. -/
theorem row?_defined (s : StoredTable α) (built : s.Built) (i : Nat) :
    ((∃ row, s.rows[i]? = some row) ↔ i < s.rowCount) ∧
    (∀ overflow, i < s.rowCount → s.row? overflow i = s.rows[i]?) ∧
    ((∃ row, s.row? .stops i = some row) ↔ i < s.rowCount ∨ s.columnCount = 0 ∧ i + 1 < wordBound) ∧
    ((∃ row, s.row? .wraps i = some row) ↔ i * s.columnCount % wordBound + s.columnCount ≤ s.values.length) ∧
    (0 < s.columnCount → (i + 1) * s.columnCount < wordBound →
      ∀ overflow, (∃ row, s.row? overflow i = some row) ↔ i < s.rowCount) ∧
    ∀ overflow row, s.row? overflow i = some row →
      row = (s.values.drop (i * s.columnCount % wordBound)).take s.columnCount := by
  have columns := built.columnCount_lt
  obtain ⟨t, rfl, buffer⟩ := built.exists_table
  have length : t.values.length = t.rowCount * t.columnCount := t.length_values
  have existing : ∀ overflow, i < t.rowCount → t.stored.row? overflow i = t.stored.rows[i]? := by
    intro overflow inside
    rw [Table.row?_stored buffer overflow inside, Table.row?_eq_getElem? inside, Table.rows_stored]
  have items : (∃ row, t.stored.rows[i]? = some row) ↔ i < t.rowCount := by
    rw [Table.rows_stored, ← t.length_rows]
    exact ⟨fun ⟨_, read⟩ => (List.getElem?_eq_some_iff.1 read).1, fun inside => ⟨_, List.getElem?_eq_getElem inside⟩⟩
  have wraps := exists_row?_wraps_iff (i := i) buffer columns
  have within : 0 < t.columnCount → ((i + 1) * t.columnCount ≤ t.values.length ↔ i < t.rowCount) := by
    intro positive
    rw [length, Nat.mul_le_mul_right_iff positive, Nat.succ_le_iff]
  have stops : (∃ row, t.stored.row? .stops i = some row) ↔ i < t.rowCount ∨ t.columnCount = 0 ∧ i + 1 < wordBound := by
    rw [exists_row?_stops_iff_words, Table.columnCount_stored, Table.values_stored]
    rcases Nat.eq_zero_or_pos t.columnCount with none | positive
    · rw [none, Nat.mul_zero, t.rowCount_of_no_columns none]
      exact ⟨fun fits => .inr ⟨rfl, fits.1⟩, fun fits => ⟨(fits.resolve_left (Nat.not_lt_zero i)).2, by decide, Nat.zero_le _⟩⟩
    · rw [within positive]
      constructor
      · exact fun fits => .inl fits.2.2
      · intro fits
        have inside : i < t.rowCount := fits.resolve_right fun hollow => absurd hollow.1 (Nat.pos_iff_ne_zero.1 positive)
        have product := Nat.lt_of_le_of_lt ((within positive).2 inside) buffer
        exact ⟨Nat.lt_of_le_of_lt (Nat.le_mul_of_pos_right _ positive) product, product, inside⟩
  refine ⟨items, existing, stops, wraps, fun positive product overflow => ?_, fun _ _ => row_eq_of_read buffer columns⟩
  cases overflow with
  | stops =>
    rw [stops]
    exact or_iff_left fun hollow => absurd hollow.1 (Nat.pos_iff_ne_zero.1 positive)
  | wraps =>
    have place : i * t.columnCount % wordBound + t.columnCount = (i + 1) * t.columnCount := by
      have first : i * t.columnCount < wordBound :=
        Nat.lt_of_le_of_lt (Nat.mul_le_mul_right _ (Nat.le_succ i)) product
      rw [Nat.mod_eq_of_lt first, Nat.succ_mul]
    rw [wraps, Table.columnCount_stored, Table.values_stored, place]
    exact within positive

/-- A table without rows and columns has a first row to read. -/
theorem row?_absent_read :
    (StoredTable.empty 0 : StoredTable Float).Built ∧ ∀ overflow,
      ¬ ((∃ row, (StoredTable.empty 0 : StoredTable Float).row? overflow 0 = some row) ↔
        0 < (StoredTable.empty 0 : StoredTable Float).rowCount) := by
  refine ⟨.empty (by decide), fun overflow claimed => ?_⟩
  have read : (StoredTable.empty 0 : StoredTable Float).row? overflow 0 = some [] := by
    cases overflow <;> decide
  exact absurd (claimed.1 ⟨_, read⟩) (Nat.lt_irrefl 0)

/-- A table of two columns has no row two, but where numbers wrap around its row 2 ^ 63 is its first one. -/
theorem row?_defined_pairs :
    let pairs : StoredTable Nat := ⟨[1, 2, 3, 4], 2, 2⟩
    pairs.Built ∧ (¬ ∃ row, pairs.row? .stops 2 = some row) ∧ (¬ ∃ row, pairs.row? .wraps 2 = some row) ∧
      (¬ ∃ row, pairs.row? .stops 9223372036854775808 = some row) ∧
      ∃ row, pairs.row? .wraps 9223372036854775808 = some row ∧ row = [1, 2] := by
  intro pairs
  have accepted : StoredTable.wrap [1, 2, 3, 4] 2 2 = .ok pairs := rfl
  have built : pairs.Built := .wrap (by decide) (by decide) accepted
  obtain ⟨-, -, -, -, near, -⟩ := row?_defined pairs built 2
  obtain ⟨-, -, stops, wraps, -, read⟩ := row?_defined pairs built 9223372036854775808
  have absent : ¬ 2 < pairs.rowCount := by decide
  obtain ⟨row, found⟩ := wraps.2 (by decide)
  refine ⟨built, fun r => absent ((near (by decide) (by decide) .stops).1 r),
    fun r => absent ((near (by decide) (by decide) .wraps).1 r), fun r => absurd (stops.1 r) (by decide), row, found, ?_⟩
  have first : (pairs.values.drop (9223372036854775808 * pairs.columnCount % wordBound)).take pairs.columnCount = [1, 2] := by
    decide
  exact (read .wraps row found).trans first

end DensityAudit.StoredTable
