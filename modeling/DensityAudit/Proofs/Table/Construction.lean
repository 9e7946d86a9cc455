import DensityAudit.Proofs.Table.Arrange
import DensityAudit.Proofs.Table.Stored

/-!
# Which tables can be built

Rows make a table iff they have one length, which is not zero unless there are no rows; `RowsOutcome` lists what comes of
any others. A buffer is cut into a table iff the extents multiply to its length, with the product taken as a number and not
as a word (`exists_wrap_iff`, `StoredTable.wrap_eq`). What was built is read back, and what is read builds the same table
again: `construction_exact` collects these. Before rows are looked at, room is asked for as if all were as long as the first,
and `construction_without_room` shows rows for which there is none.
-/

namespace DensityAudit.Table

variable {α : Type}

/-! ### Buffers -/

section

variable {values : List α} {rows columns : Nat}

/-- A buffer is cut into a table iff the extents multiply to its length and there are no rows without columns. -/
theorem exists_wrap_iff :
    (∃ t, wrap values rows columns = .ok t) ↔ rows * columns = values.length ∧ (columns = 0 → rows = 0) := by
  constructor
  · rintro ⟨t, wrapped⟩
    obtain ⟨rfl, rfl, rfl⟩ := wrap_eq_ok_iff.1 wrapped
    exact ⟨t.length_values.symm, t.rowCount_of_no_columns⟩
  · rintro ⟨length, shape⟩
    exact ⟨⟨values, rows, columns, length.symm, shape⟩, wrap_eq_ok_iff.2 ⟨rfl, rfl, rfl⟩⟩

/-- A buffer that is not cut into a table is refused with the three numbers. -/
theorem wrap_eq_error_iff {cause : TableError} : wrap values rows columns = .error cause ↔
    ¬ (rows * columns = values.length ∧ (columns = 0 → rows = 0)) ∧ cause = .shapeMismatch rows columns values.length := by
  rw [← exists_wrap_iff, wrap]
  split
  case isTrue =>
    refine iff_of_false (fun wrapped => ?_) fun refused => refused.1 ⟨_, rfl⟩
    cases wrapped
  case isFalse =>
    have unbuilt : ¬ ∃ t : Table α, Except.error (TableError.shapeMismatch rows columns values.length) = .ok t := by
      rintro ⟨t, built⟩
      cases built
    rw [Except.error.injEq, eq_comm, and_iff_right unbuilt]

end

/-! ### Rows -/

/-- What comes of rows: the faults in the order in which they are looked for, and the table. -/
inductive RowsOutcome (rows : List (List α)) : Except TableError (Table α) → Prop where
  /-- Row `i` is the first that is not as long as the first row. -/
  | ragged {first row : List α} {i : Nat} (start : rows[0]? = some first) (read : rows[i]? = some row)
      (other : row.length ≠ first.length)
      (before : ∀ j < i, ∀ row', rows[j]? = some row' → row'.length = first.length) :
      RowsOutcome rows (.error (.raggedRows i first.length row.length))
  /-- There are rows, but none of them has a value. -/
  | hollow (some : rows ≠ []) (all : ∀ row ∈ rows, row = []) : RowsOutcome rows (.error (.shapeMismatch rows.length 0 0))
  /-- The rows are those of the table, which has no columns if there are none. -/
  | table {t : Table α} (read : t.rows = rows) (columns : rows = [] → t.columnCount = 0) : RowsOutcome rows (.ok t)

section

variable {rows : List (List α)} {width : Nat} {result : Except TableError (Table α)}

/-- The length of the first row is expected of all. -/
theorem expected_eq {first : List α} (start : rows[0]? = some first) :
    (rows.head?.map List.length).getD 0 = first.length := by
  rw [List.head?_eq_getElem?, start, Option.map_some, Option.getD_some]

/-- Row `i` is named iff it is the first of another length. -/
theorem find?_ragged_iff {row : List α} {i : Nat} :
    rows.zipIdx.find? (fun row => row.1.length != width) = some (row, i) ↔
      rows[i]? = some row ∧ row.length ≠ width ∧ ∀ j < i, ∀ row', rows[j]? = some row' → row'.length = width := by
  rw [List.find?_eq_some_iff_getElem, bne_iff_ne]
  constructor
  · rintro ⟨other, j, inside, read, before⟩
    rw [List.getElem_zipIdx, Prod.mk.injEq, Nat.zero_add] at read
    obtain ⟨rfl, rfl⟩ := read
    rw [List.length_zipIdx] at inside
    refine ⟨List.getElem?_eq_getElem inside, other, fun k less row' read' => ?_⟩
    obtain ⟨inside', rfl⟩ := List.getElem?_eq_some_iff.1 read'
    have same := before k less
    rwa [List.getElem_zipIdx, Bool.not_eq_true', bne_eq_false_iff_eq] at same
  · rintro ⟨read, other, before⟩
    obtain ⟨inside, rfl⟩ := List.getElem?_eq_some_iff.1 read
    refine ⟨other, i, by rwa [List.length_zipIdx], by rw [List.getElem_zipIdx, Nat.zero_add], fun j less => ?_⟩
    rw [List.getElem_zipIdx, Bool.not_eq_true', bne_eq_false_iff_eq]
    exact before j less _ (List.getElem?_eq_getElem (Nat.lt_trans less inside))

/-- Rows of the expected length are joined into one buffer. -/
theorem ofRows_of_width {first : List α} (start : rows[0]? = some first) (same : ∀ row ∈ rows, row.length = first.length) :
    ofRows rows = wrap rows.flatten rows.length first.length := by
  simp only [ofRows, expected_eq start, find?_ragged_eq_none_iff.2 same]

/-- The rows have every outcome that applies. -/
theorem RowsOutcome.sound (h : RowsOutcome rows result) : ofRows rows = result := by
  cases h with
  | ragged start read other before =>
    simp only [ofRows, expected_eq start, find?_ragged_iff.2 ⟨read, other, before⟩]
  | hollow some all =>
    obtain ⟨first, start⟩ : ∃ first, rows[0]? = .some first := ⟨_, List.getElem?_eq_getElem (List.length_pos_iff.2 some)⟩
    have empty : first = [] := all first (List.mem_of_getElem? start)
    have joined : rows.flatten = [] := List.flatten_eq_nil_iff.2 all
    rw [ofRows_of_width start fun row member => by rw [all row member, empty], wrap_eq_error_iff, joined, empty]
    exact ⟨fun fits => some (List.length_eq_zero_iff.1 (fits.2 rfl)), rfl⟩
  | @table t read columns =>
    subst read
    cases start : t.rows[0]? with
    | none =>
      have none : t.rows = [] := by rwa [← List.head?_eq_getElem?, List.head?_eq_none_iff] at start
      have rowless : t.rowCount = 0 := by rw [← t.length_rows, none, List.length_nil]
      rw [none]
      refine wrap_eq_ok_iff.2 ⟨?_, rowless, columns none⟩
      rw [← t.flatten_rows, none]
    | some first =>
      have width : first.length = t.columnCount := length_of_mem_rows (List.mem_of_getElem? start)
      rw [ofRows_of_width start fun row member => by rw [length_of_mem_rows member, width], t.flatten_rows, t.length_rows,
        width, t.wrap_values]

/-- One of the outcomes applies. -/
theorem exists_rowsOutcome (rows : List (List α)) : ∃ result, RowsOutcome rows result := by
  cases start : rows[0]? with
  | none =>
    rw [← List.head?_eq_getElem?, List.head?_eq_none_iff] at start
    subst start
    exact ⟨.ok (.empty 0), .table rfl fun _ => rfl⟩
  | some first =>
    cases found : rows.zipIdx.find? fun row => row.1.length != first.length with
    | some ragged =>
      obtain ⟨read, other, before⟩ := find?_ragged_iff.1 found
      exact ⟨_, .ragged start read other before⟩
    | none =>
      have same := find?_ragged_eq_none_iff.1 found
      have member : first ∈ rows := List.mem_of_getElem? start
      cases width : first.length with
      | zero =>
        rw [width] at same
        exact ⟨_, .hollow (List.ne_nil_of_mem member) fun row member => List.length_eq_zero_iff.1 (same row member)⟩
      | succ k =>
        rw [width] at same
        exact ⟨.ok (.ofWidth (k + 1) rows same nofun), .table rows_ofWidth fun none => by
          rw [none] at member
          cases member⟩

/-- What comes of rows is the outcome that applies. -/
theorem ofRows_eq_iff : ofRows rows = result ↔ RowsOutcome rows result := by
  constructor
  · rintro rfl
    obtain ⟨result, outcome⟩ := exists_rowsOutcome rows
    rwa [outcome.sound]
  · exact RowsOutcome.sound

/-- Rows make a table iff they have one length, which is zero only if there are none. -/
theorem exists_ofRows_iff :
    (∃ t, ofRows rows = .ok t) ↔ ∃ width, (∀ row ∈ rows, row.length = width) ∧ (width = 0 → rows = []) := by
  constructor
  · rintro ⟨t, built⟩
    cases ofRows_eq_iff.1 built with
    | table read => exact ⟨t.columnCount, fun row member => length_of_mem_rows (read ▸ member), fun none =>
        read ▸ rows_eq_nil_of_no_columns none⟩
  · rintro ⟨width, same, none⟩
    by_cases empty : rows = []
    · exact ⟨.empty 0, RowsOutcome.sound (.table empty.symm fun _ => rfl)⟩
    · exact ⟨.ofWidth width rows same none, RowsOutcome.sound (.table rows_ofWidth fun none => absurd none empty)⟩

/-- A table with rows is built from them. -/
theorem ofRows_rows {t : Table α} (some : 0 < t.rowCount) : ofRows t.rows = .ok t :=
  RowsOutcome.sound (.table rfl fun none => by
    rw [← t.length_rows, none] at some
    exact absurd some (Nat.lt_irrefl 0))

end

/-! ### Stored tables -/

section

variable {overflow : Overflow} {size : Nat} {rows : List (List α)}

/-- What comes of rows that are stored: with room for them what comes of the rows, and else nothing. -/
theorem stored_ofRows_eq_iff {result : Option (Except TableError (StoredTable α))} :
    StoredTable.ofRows overflow size rows = result ↔
      (StoredTable.HasRoom overflow size rows ∧ ∃ outcome, RowsOutcome rows outcome ∧ result = some (outcome.map stored)) ∨
        ¬ StoredTable.HasRoom overflow size rows ∧ result = none := by
  by_cases room : StoredTable.HasRoom overflow size rows
  case neg =>
    rw [StoredTable.ofRows_eq_none room, eq_comm]
    exact ⟨fun stopped => .inr ⟨room, stopped⟩, fun h => h.elim (fun with_room => absurd with_room.1 room) And.right⟩
  case pos =>
    rw [StoredTable.ofRows_eq_some room, eq_comm]
    constructor
    · exact fun same => .inl ⟨room, _, ofRows_eq_iff.1 rfl, same⟩
    · rintro (⟨-, outcome, holds, rfl⟩ | ⟨full, -⟩)
      · rw [holds.sound]
      · exact absurd room full

/-- A table that memory holds is stored again from its rows. -/
theorem stored_ofRows_rows {t : Table α} (held : Holdable size t.values.length) (some : 0 < t.rowCount) :
    StoredTable.ofRows overflow size t.rows = .some (.ok t.stored) := by
  have columns : t.rows.length * StoredTable.width t.rows ≤ t.values.length := by
    rw [StoredTable.width]
    cases start : t.rows[0]? with
    | none =>
      rw [List.head?_eq_getElem?, start]
      exact Nat.zero_le _
    | some first =>
      refine Nat.le_of_eq ?_
      rw [expected_eq start, length_of_mem_rows (List.mem_of_getElem? start), t.length_rows, t.length_values]
  rw [StoredTable.ofRows_eq_some (.of_holdable (held.of_le columns)), ofRows_rows some]
  rfl

end

/-! ### Equality -/

theorem beq_self_iff [BEq α] (values : List α) : (values == values) = true ↔ ∀ x ∈ values, (x == x) = true := by
  induction values with
  | nil => exact iff_of_true rfl fun _ member => absurd member List.not_mem_nil
  | cons x rest ih => rw [List.cons_beq_cons, Bool.and_eq_true, ih, List.forall_mem_cons]

/-- A table equals itself iff its values do. -/
theorem equal_self_iff [BEq α] (t : Table α) : t.equal t = true ↔ ∀ x ∈ t.values, (x == x) = true := by
  rw [equal, beq_self_eq_true, beq_self_eq_true, Bool.true_and, Bool.true_and, beq_self_iff]

/-! ### Building and reading -/

/-- Tables are built from well-formed input only, and reading undoes building. Rows have the one outcome that applies to
them: the first row of another length, rows without a value, or the table with these rows. A buffer is cut into a table
iff its length is the product of the extents and there are no rows without columns, and else refused with the three
numbers. With numbers of one word nothing else comes of a buffer, and nothing else of rows for which there is room; without
room the program stops. There is room if memory can hold as many rows as there are, all as long as the first one, and if
numbers stop at the bound then only so. A table is cut again from its buffer, and one with rows is made again from its
rows: it has the same shape and the same values, and equals the table that it was cut from if each value equals itself. -/
theorem construction_exact {α : Type} :
    (∀ (rows : List (List α)) (result), ofRows rows = result ↔ RowsOutcome rows result) ∧
    (∀ rows : List (List α), (∃ t, ofRows rows = .ok t) ↔
      ∃ width, (∀ row ∈ rows, row.length = width) ∧ (width = 0 → rows = [])) ∧
    (∀ (values : List α) (rows columns : Nat), (∃ t, wrap values rows columns = .ok t) ↔
      rows * columns = values.length ∧ (columns = 0 → rows = 0)) ∧
    (∀ (values : List α) (rows columns : Nat) (cause), wrap values rows columns = .error cause ↔
      ¬ (rows * columns = values.length ∧ (columns = 0 → rows = 0)) ∧
        cause = .shapeMismatch rows columns values.length) ∧
    (∀ values : List α, values.length < wordBound → ∀ rows columns,
      StoredTable.wrap values rows columns = (wrap values rows columns).map stored) ∧
    (∀ overflow size (rows : List (List α)) result, StoredTable.ofRows overflow size rows = result ↔
      (StoredTable.HasRoom overflow size rows ∧ ∃ outcome, RowsOutcome rows outcome ∧ result = some (outcome.map stored)) ∨
        ¬ StoredTable.HasRoom overflow size rows ∧ result = none) ∧
    (∀ overflow size (rows : List (List α)), Holdable size (rows.length * StoredTable.width rows) →
      StoredTable.HasRoom overflow size rows) ∧
    (∀ size (rows : List (List α)), StoredTable.HasRoom .stops size rows →
      Holdable size (rows.length * StoredTable.width rows)) ∧
    (∀ t : Table α, wrap t.values t.rowCount t.columnCount = .ok t) ∧
    (∀ t : Table α, 0 < t.rowCount → ofRows t.rows = .ok t) ∧
    (∀ overflow size (t : Table α), Holdable size t.values.length →
      StoredTable.wrap t.values t.rowCount t.columnCount = .ok t.stored ∧
        (0 < t.rowCount → StoredTable.ofRows overflow size t.rows = some (.ok t.stored))) ∧
    ∀ [BEq α] (t : Table α), t.equal t = true ↔ ∀ x ∈ t.values, (x == x) = true := by
  refine ⟨fun _ _ => ofRows_eq_iff, fun _ => exists_ofRows_iff, fun _ _ _ => exists_wrap_iff, fun _ _ _ _ => wrap_eq_error_iff,
    fun _ buffer => StoredTable.wrap_eq buffer, fun _ _ _ _ => stored_ofRows_eq_iff, fun _ _ _ => .of_holdable,
    fun _ _ => StoredTable.hasRoom_stops_iff.1, wrap_values, fun _ => ofRows_rows, fun overflow size t held => ⟨?_, ?_⟩,
    equal_self_iff⟩
  · rw [StoredTable.wrap_eq held.1, wrap_values]
    rfl
  · exact stored_ofRows_rows held

/-- Extents whose product is a multiple of the bound fit no buffer, not even an empty one. -/
theorem construction_exact_overflow :
    let half := 4294967296
    ([] : List Nat).length < wordBound ∧ half * half = wordBound ∧
      StoredTable.wrap ([] : List Nat) half half = .error (.shapeMismatch half half 0) ∧
      (StoredTable.HasRoom .wraps 8 [[1, 2], [3, 4]] ∧
        StoredTable.ofRows .wraps 8 [[1, 2], [3, 4]] = some (.ok ⟨[1, 2, 3, 4], 2, 2⟩)) ∧
      0 < (Table.column [5, 6]).rowCount ∧ ofRows (Table.column [5, 6]).rows = .ok (Table.column [5, 6]) := by
  intro half
  have empty : ([] : List Nat).length < wordBound := by decide
  obtain ⟨outcomes, -, -, refused, wrapped, joined, roomy, -, -, again, -, -⟩ := construction_exact (α := Nat)
  have unfit : wrap ([] : List Nat) half half = .error (.shapeMismatch half half 0) :=
    (refused [] half half _).2 ⟨fun fits => absurd fits.1 (by decide), rfl⟩
  have room : StoredTable.HasRoom .wraps 8 [[1, 2], [3, 4]] := roomy .wraps 8 _ (by decide)
  have outcome : RowsOutcome [[1, 2], [3, 4]] (.ok ⟨[1, 2, 3, 4], 2, 2, rfl, nofun⟩) := (outcomes _ _).1 rfl
  refine ⟨empty, by decide, ?_, ⟨room, (joined .wraps 8 _ _).2 (.inl ⟨room, _, outcome, rfl⟩)⟩, by decide, again _ (by decide)⟩
  rw [wrapped [] empty, unfit]
  rfl

/-- Values may have no bytes, and then two rows of them may be longer together than a word can count. Such rows are not
stored although they have one length; and if numbers stop at the bound, no row is found to be of another length where all
rows would be too long. A table with an undefined value is cut again from its buffer, but is not equal to itself. -/
theorem construction_without_room :
    let row := List.replicate 9223372036854775808 ()
    (∀ overflow, StoredTable.ofRows overflow 0 [row, row] = none) ∧ StoredTable.ofRows .stops 0 [row, [()]] = none ∧
      let t : Table Float := column [0.0 / 0.0]
      wrap t.values t.rowCount t.columnCount = .ok t ∧ t.equal t = false := by
  intro row
  have length : row.length = 9223372036854775808 := List.length_replicate
  have together : ¬ Holdable 0 (2 * row.length) := by
    rw [length]
    decide
  obtain ⟨twice, other⟩ := StoredTable.ofRows_eq_none_of_two together
  exact ⟨twice, other [()], rfl, by decide +kernel⟩

end DensityAudit.Table
