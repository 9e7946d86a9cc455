import DensityAudit.Table.Lemmas
import DensityAudit.Table.Stored

/-!
# Stored tables are tables

What the constructors of a stored table accept is a `Table` (`StoredTable.Built.exists_table`): they find the same faults
as those of a `Table` and store the same buffer and extents (`StoredTable.wrap_eq`), where there is room for the rows
(`StoredTable.ofRows_eq_some`); without room the program stops (`StoredTable.ofRows_eq_none`). As the buffer of a stored
table fits into memory, so does every place up to its end. No reader of an existing row therefore meets a number too large for
a word or a place beyond the buffer, and each has the result of its counterpart (`Table.ReadsAs`).
-/

namespace DensityAudit

variable {α : Type}

theorem Overflow.word?_of_lt (overflow : Overflow) {n : Nat} (small : n < wordBound) : overflow.word? n = some n :=
  if_pos small

/-- A product of two words is accepted as the length of a buffer iff it is that length. -/
theorem checkedProduct?_eq_iff {m n length : Nat} (buffer : length < wordBound) :
    checkedProduct? m n = some length ↔ length = m * n := by
  rw [checkedProduct?]
  split
  case isTrue => rw [Option.some.injEq, eq_comm]
  case isFalse large => exact iff_of_false nofun fun same => large (same ▸ buffer)

theorem cut?_eq {values : List α} {start stop : Nat} (order : start ≤ stop) (inside : stop ≤ values.length) :
    cut? values start stop = some ((values.drop start).take (stop - start)) :=
  if_pos ⟨order, inside⟩

/-- A buffer of whole rows is cut into these rows. -/
theorem chunks_eq_pieces {size count : Nat} {values : List α} (positive : 0 < size) (length : values.length = count * size) :
    chunks size values = Table.pieces size count values := by
  induction count generalizing values with
  | zero =>
    rw [Nat.zero_mul] at length
    rw [chunks, if_neg (by omega), Table.pieces]
  | succ count ih =>
    rw [Nat.succ_mul] at length
    have rest : (values.drop size).length = count * size := by
      rw [List.length_drop]
      omega
    rw [chunks, if_pos ⟨positive, by omega⟩, ih rest, Table.pieces]

/-! ### Constructors -/

theorem map_eq_ok {ε β : Type} {f : α → β} {result : Except ε α} {y : β} (h : result.map f = .ok y) :
    ∃ x, result = .ok x ∧ f x = y := by
  cases result with
  | error e => cases h
  | ok x => exact ⟨x, rfl, Except.ok.inj h⟩

/-- No row is named iff all have the expected length. -/
theorem Table.find?_ragged_eq_none_iff {rows : List (List α)} {width : Nat} :
    rows.zipIdx.find? (fun row => row.1.length != width) = none ↔ ∀ row ∈ rows, row.length = width := by
  rw [List.find?_eq_none]
  simp only [bne_iff_ne, Decidable.not_not]
  constructor
  · intro same row member
    obtain ⟨i, inside, rfl⟩ := List.getElem_of_mem member
    exact same (rows[i], i) (List.mk_mem_zipIdx_iff_getElem?.2 (List.getElem?_eq_getElem inside))
  · intro same row member
    exact same row.1 (List.fst_mem_of_mem_zipIdx member)

theorem Holdable.of_le {size m n : Nat} (h : Holdable size n) (le : m ≤ n) : Holdable size m :=
  ⟨Nat.lt_of_le_of_lt le h.1, Nat.lt_of_le_of_lt (Nat.mul_le_mul_right size le) h.2⟩

theorem holdable_zero (size : Nat) : Holdable size 0 := ⟨by decide, by rw [Nat.zero_mul]; decide⟩

namespace StoredTable

/-- A buffer that fits into memory is cut by words as it is by numbers. -/
theorem wrap_eq {values : List α} (buffer : values.length < wordBound) (rows columns : Nat) :
    wrap values rows columns = (Table.wrap values rows columns).map Table.stored := by
  have product := checkedProduct?_eq_iff (m := rows) (n := columns) buffer
  rw [wrap, Table.wrap]
  split
  case isTrue refused =>
    rw [dif_neg fun fits => refused.elim (fun other => other (product.2 fits.1)) fun shape => shape.2 (fits.2 shape.1)]
    rfl
  case isFalse accepted =>
    rw [not_or, Decidable.not_not, not_and, Decidable.not_not] at accepted
    rw [dif_pos ⟨product.1 accepted.1, accepted.2⟩]
    rfl

/-! ### Rows -/

variable {overflow : Overflow} {size columns i : Nat} {values : List α} {rows : List (List α)}

/-- The length of the first row, which is expected of all. -/
def width (rows : List (List α)) : Nat := (rows.head?.map List.length).getD 0

/-- The program does not stop for want of a buffer. What is asked for in advance can be had, and so can what holds the rows
up to the first of another length. -/
structure HasRoom (overflow : Overflow) (size : Nat) (rows : List (List α)) : Prop where
  product : overflow = .stops → rows.length * width rows < wordBound
  bytes : rows.length * width rows % wordBound * size < byteBound
  held : ∀ k ≤ rows.length, (∀ row ∈ rows.take k, row.length = width rows) → Holdable size (k * width rows)

/-- A buffer that holds all rows, if they are as long as the first one, has room for them whatever their lengths are. -/
theorem HasRoom.of_holdable (fits : Holdable size (rows.length * width rows)) : HasRoom overflow size rows where
  product _ := fits.1
  bytes := by
    rw [Nat.mod_eq_of_lt fits.1]
    exact fits.2
  held k inside _ := fits.of_le (Nat.mul_le_mul_right _ inside)

/-- If numbers stop at the bound, nothing else has room. -/
theorem hasRoom_stops_iff : HasRoom .stops size rows ↔ Holdable size (rows.length * width rows) := by
  refine ⟨fun room => ⟨room.product rfl, ?_⟩, .of_holdable⟩
  have bytes := room.bytes
  rwa [Nat.mod_eq_of_lt (room.product rfl)] at bytes

/-- The buffer that is asked for in advance can be had. -/
theorem exists_reserve?_iff {m n : Nat} : (∃ count, reserve? overflow size m n = some count) ↔
    (overflow = .stops → m * n < wordBound) ∧ m * n % wordBound * size < byteBound := by
  have below : m * n % wordBound < wordBound := Nat.mod_lt _ (by decide)
  have kept : Holdable size (m * n % wordBound) ↔ m * n % wordBound * size < byteBound := and_iff_right below
  by_cases small : m * n < wordBound
  · rw [reserve?, overflow.word?_of_lt small, ← kept, Nat.mod_eq_of_lt small, and_iff_right fun _ => small]
    simp
  · cases overflow with
    | stops => simp [reserve?, Overflow.word?, small]
    | wraps => simp [reserve?, Overflow.word?, small, ← kept]

/-- Rows for which there is room are appended up to the first one of another length, which is named with its number. -/
theorem collect?_eq_some (room : ∀ k ≤ rows.length, (∀ row ∈ rows.take k, row.length = columns) →
    Holdable size (values.length + k * columns)) :
    collect? size columns i values rows = some (
      match (rows.zipIdx i).find? fun row => row.1.length != columns with
      | some (row, j) => .error (.raggedRows j columns row.length)
      | none => .ok (values ++ rows.flatten)) := by
  induction rows generalizing i values with
  | nil => rw [collect?, List.zipIdx_nil, List.find?_nil, List.flatten_nil, List.append_nil]
  | cons row rest ih =>
    rw [collect?, List.zipIdx_cons, List.find?_cons, List.flatten_cons, ← List.append_assoc]
    split
    case isTrue other => rw [bne_iff_ne.2 other]
    case isFalse same =>
      rw [Decidable.not_not] at same
      have fits : Holdable size (values.length + row.length) := by
        have first := room 1 (Nat.succ_le_succ (Nat.zero_le _)) (by simpa using same)
        rwa [Nat.one_mul, ← same] at first
      rw [if_pos fits, same, bne_self_eq_false, ih]
      intro k inside short
      have longer := room (k + 1) (Nat.succ_le_succ inside) (by simpa using ⟨same, short⟩)
      rwa [Nat.succ_mul, ← Nat.add_assoc, Nat.add_right_comm, ← same, ← List.length_append, same] at longer

/-- The program stops at the first row for which there is no room, if all up to there have one length. -/
theorem collect?_eq_none {k : Nat} (start : Holdable size values.length) (inside : k ≤ rows.length)
    (same : ∀ row ∈ rows.take k, row.length = columns) (large : ¬ Holdable size (values.length + k * columns)) :
    collect? size columns i values rows = none := by
  induction rows generalizing i k values with
  | nil =>
    obtain rfl : k = 0 := Nat.le_zero.1 inside
    rw [Nat.zero_mul] at large
    exact absurd start large
  | cons row rest ih =>
    cases k with
    | zero =>
      rw [Nat.zero_mul] at large
      exact absurd start large
    | succ k =>
      rw [List.take_succ_cons, List.forall_mem_cons] at same
      rw [collect?, if_neg (Decidable.not_not.2 same.1)]
      split
      case isFalse => rfl
      case isTrue fits =>
        refine ih (k := k) ?_ (Nat.le_of_succ_le_succ inside) same.2 ?_
        · rwa [List.length_append]
        · rwa [List.length_append, same.1, Nat.add_assoc, Nat.add_comm columns, ← Nat.succ_mul]

/-- With room for them the rows are stored as the table that they make, or have the same fault. -/
theorem ofRows_eq_some (room : HasRoom overflow size rows) :
    ofRows overflow size rows = some ((Table.ofRows rows).map Table.stored) := by
  obtain ⟨count, reserved⟩ := exists_reserve?_iff.2 ⟨room.product, room.bytes⟩
  have fits : ∀ k ≤ rows.length, (∀ row ∈ rows.take k, row.length = width rows) →
      Holdable size (([] : List α).length + k * width rows) := by simpa using room.held
  have collected := collect?_eq_some (i := 0) fits
  rw [width] at reserved collected
  simp only [ofRows, reserved, collected, Option.bind_eq_bind, Option.bind_some, Option.pure_def, Table.ofRows]
  cases found : (rows.zipIdx 0).find? fun row => row.1.length != (rows.head?.map List.length).getD 0 with
  | some ragged => rfl
  | none =>
    have same : ∀ row ∈ rows, row.length = width rows := Table.find?_ragged_eq_none_iff.1 found
    have length : rows.flatten.length = rows.length * width rows := Table.length_flatten_of_width same
    have held := room.held rows.length (Nat.le_refl _) (by rwa [List.take_length])
    exact congrArg some (wrap_eq (length ▸ held.1) rows.length _)

/-- Without room for them the program stops. -/
theorem ofRows_eq_none (full : ¬ HasRoom overflow size rows) : ofRows overflow size rows = none := by
  have columns : (rows.head?.map List.length).getD 0 = width rows := rfl
  rw [ofRows, columns]
  cases reserved : reserve? overflow size rows.length (width rows) with
  | none => rfl
  | some count =>
    obtain ⟨product, bytes⟩ := exists_reserve?_iff.1 ⟨count, reserved⟩
    obtain ⟨k, inside, same, large⟩ : ∃ k ≤ rows.length, (∀ row ∈ rows.take k, row.length = width rows) ∧
        ¬ Holdable size (k * width rows) := by
      refine Classical.byContradiction fun held => full ⟨product, bytes, fun k inside same => ?_⟩
      exact Classical.byContradiction fun large => held ⟨k, inside, same, large⟩
    rw [← Nat.zero_add (k * width rows)] at large
    have stopped : collect? size (width rows) 0 [] rows = none := collect?_eq_none (holdable_zero size) inside same large
    simp only [stopped, Option.bind_eq_bind, Option.bind_some, Option.bind_none]

/-- Two rows of a length that memory cannot hold twice are not stored, and if numbers stop at the bound, neither is one such
row before any other. -/
theorem ofRows_eq_none_of_two {row : List α} (long : ¬ Holdable size (2 * row.length)) :
    (∀ overflow, ofRows overflow size [row, row] = none) ∧ ∀ other, ofRows .stops size [row, other] = none := by
  refine ⟨fun overflow => ofRows_eq_none fun room => long ?_, fun other => ofRows_eq_none fun room => long ?_⟩
  · exact room.held 2 (Nat.le_refl 2) (List.forall_mem_cons.2 ⟨rfl, List.forall_mem_singleton.2 rfl⟩)
  · exact hasRoom_stops_iff.1 room

/-- Rows that are stored make a table, and its buffer fits into memory. -/
theorem exists_ofRows_eq {s : StoredTable α} (accepted : ofRows overflow size rows = some (.ok s)) :
    rows.flatten.length < wordBound ∧ ∃ t, Table.ofRows rows = .ok t ∧ t.stored = s := by
  by_cases room : HasRoom overflow size rows
  case neg =>
    rw [ofRows_eq_none room] at accepted
    cases accepted
  case pos =>
    rw [ofRows_eq_some room, Option.some.injEq] at accepted
    obtain ⟨t, joined, stored⟩ := map_eq_ok accepted
    refine ⟨?_, t, joined, stored⟩
    have same : ∀ row ∈ rows, row.length = width rows := by
      rw [← Table.find?_ragged_eq_none_iff]
      rw [Table.ofRows] at joined
      split at joined
      case h_1 => cases joined
      case h_2 none => exact none
    rw [Table.length_flatten_of_width same]
    exact (room.held rows.length (Nat.le_refl _) (by rwa [List.take_length])).1

/-- What is built is a table, and its buffer fits into memory. -/
theorem Built.exists_table {s : StoredTable α} (built : s.Built) : ∃ t : Table α, t.stored = s ∧ t.values.length < wordBound := by
  cases built with
  | wrap buffer extents accepted =>
    rw [wrap_eq buffer] at accepted
    obtain ⟨t, wrapped, rfl⟩ := map_eq_ok accepted
    exact ⟨t, rfl, by rwa [(Table.wrap_eq_ok_iff.1 wrapped).1]⟩
  | column buffer => exact ⟨Table.column _, rfl, buffer⟩
  | empty extent => exact ⟨Table.empty _, rfl, (by decide : 0 < wordBound)⟩
  | ofRows extent accepted =>
    obtain ⟨buffer, t, joined, rfl⟩ := exists_ofRows_eq accepted
    exact ⟨t, rfl, by rwa [Table.values_of_ofRows joined]⟩

end StoredTable

/-! ### Readers -/

namespace Table

/-- The readers of a stored table read it as a table: where there is something to read none of them stops, and each has the
result of its counterpart. -/
structure ReadsAs (t : Table α) (overflow : Overflow) (s : StoredTable α) : Prop where
  rows : s.rows = t.rows
  row : ∀ i < t.rowCount, s.row? overflow i = t.row? i
  get : ∀ row column, s.get? overflow row column = some (t.get? row column)
  pull : ∀ start stop, s.pullRows overflow start stop = some (t.pullRows start stop)

variable {t : Table α}

theorem rows_stored (t : Table α) : t.stored.rows = t.rows := by
  rw [StoredTable.rows, rows, values_stored, columnCount_stored]
  cases width : t.columnCount with
  | zero =>
    have none : t.rowCount = 0 := t.rowCount_of_no_columns width
    have empty : t.values.length = 0 * 1 := by rw [t.length_values, none, Nat.zero_mul, Nat.zero_mul]
    rw [none, Nat.zero_max, chunks_eq_pieces Nat.one_pos empty, pieces, pieces]
  | succ k =>
    have positive : 0 < k + 1 := Nat.succ_pos k
    rw [Nat.max_eq_left positive, chunks_eq_pieces positive (by rw [t.length_values, width])]

section

variable (buffer : t.values.length < wordBound) (overflow : Overflow)
include buffer

/-- The start of a row, or of the end, is a place of the buffer and so a word. -/
theorem word?_place {i : Nat} (inside : i ≤ t.rowCount) :
    overflow.word? (i * t.columnCount) = some (i * t.columnCount) :=
  overflow.word?_of_lt (Nat.lt_of_le_of_lt (place_le inside) buffer)

theorem row?_stored {i : Nat} (inside : i < t.rowCount) : t.stored.row? overflow i = t.row? i := by
  have columns : 0 < t.columnCount := Nat.pos_of_ne_zero fun none => by
    rw [t.rowCount_of_no_columns none] at inside
    exact Nat.not_lt_zero i inside
  have next : i + 1 < wordBound := by
    have rows : t.rowCount ≤ t.values.length := by
      rw [t.length_values]
      exact Nat.le_mul_of_pos_right _ columns
    omega
  have fits := place_le inside
  have width : (i + 1) * t.columnCount - i * t.columnCount = t.columnCount := by
    rw [Nat.succ_mul, Nat.add_sub_cancel_left]
  have order : i * t.columnCount ≤ (i + 1) * t.columnCount := Nat.mul_le_mul_right _ (Nat.le_succ i)
  simp only [StoredTable.row?, values_stored, columnCount_stored, word?_place buffer overflow (Nat.le_of_lt inside), overflow.word?_of_lt next,
    word?_place buffer overflow inside, Option.bind_eq_bind, Option.bind_some, cut?_eq order fits, width]
  rw [row?, if_pos fits]

theorem get?_stored (row column : Nat) : t.stored.get? overflow row column = some (t.get? row column) := by
  rw [StoredTable.get?, get?, rowCount_stored, columnCount_stored]
  split
  case isTrue inside =>
    have within := cell_lt inside.1 inside.2
    simp only [values_stored, word?_place buffer overflow (Nat.le_of_lt inside.1),
      overflow.word?_of_lt (Nat.lt_trans within buffer), List.getElem?_eq_getElem within, Option.bind_eq_bind,
      Option.bind_some, Option.pure_def]
  case isFalse => rfl

theorem pullRows_stored (start stop : Nat) : t.stored.pullRows overflow start stop = some (t.pullRows start stop) := by
  rw [StoredTable.pullRows, pullRows, rowCount_stored, columnCount_stored]
  split
  case isTrue => rfl
  case isFalse inside =>
    rw [not_or, Nat.not_lt, Nat.not_lt] at inside
    have order : start * t.columnCount ≤ stop * t.columnCount := Nat.mul_le_mul_right _ inside.1
    simp only [values_stored, word?_place buffer overflow (Nat.le_trans inside.1 inside.2), word?_place buffer overflow inside.2,
      Option.bind_eq_bind, Option.bind_some, cut?_eq order (place_le inside.2), Option.pure_def, Nat.sub_mul]

/-- Every reader of a stored table has the result of its counterpart. -/
theorem readsAs_stored : t.ReadsAs overflow t.stored :=
  ⟨t.rows_stored, fun _ => row?_stored buffer overflow, get?_stored buffer overflow, pullRows_stored buffer overflow⟩

end

end Table

end DensityAudit
