/-!
# Tables in row-major order

A `Table` is a flat list of values with a shape. The shape fits by construction: the number of values
is the product of the two extents, and a table without columns has no rows. The constructors that can
be given an unfitting shape answer a `TableError`; the readers `row?`, `rows`, `get?` and `pullRows`
all cut the flat list at multiples of the column count.
-/

namespace DensityAudit

/-- Why a table could not be built or read. -/
inductive TableError where
  /-- The buffer does not hold `rows * columns` values, or there are rows but no columns. -/
  | shapeMismatch (rows columns length : Nat)
  /-- A row's length differs from that of the first row. -/
  | raggedRows (row expected found : Nat)
  /-- A range of rows is reversed or ends beyond the last row. -/
  | rowRange (start stop rows : Nat)
deriving DecidableEq

def TableError.message : TableError → String
  | .shapeMismatch rows columns length => s!"buffer of {length} values cannot be wrapped as {rows}x{columns}"
  | .raggedRows row expected found => s!"row {row} has {found} columns, expected {expected}"
  | .rowRange start stop rows => s!"row range {start}..{stop} out of bounds for {rows} rows"

/-- A table of `rowCount` rows of `columnCount` values each, row after row. -/
structure Table (α : Type) where
  values : List α
  rowCount : Nat
  columnCount : Nat
  length_values : values.length = rowCount * columnCount
  rowCount_of_no_columns : columnCount = 0 → rowCount = 0

namespace Table

variable {α : Type}

/-- The flat buffer read as `rows` rows of `columns` values. -/
def wrap (values : List α) (rows columns : Nat) : Except TableError (Table α) :=
  if h : values.length = rows * columns ∧ (columns = 0 → rows = 0) then
    .ok ⟨values, rows, columns, h.1, h.2⟩
  else .error (.shapeMismatch rows columns values.length)

def column (values : List α) : Table α :=
  ⟨values, values.length, 1, by omega, by omega⟩

def empty (columns : Nat) : Table α :=
  ⟨[], 0, columns, by simp, fun _ => rfl⟩

/-- The table with the given rows, which must all be as long as the first one. -/
def ofRows (rows : List (List α)) : Except TableError (Table α) :=
  let columns := (rows.head?.map List.length).getD 0
  match rows.zipIdx.find? (fun row => row.1.length != columns) with
  | some (row, i) => .error (.raggedRows i columns row.length)
  | none => wrap rows.flatten rows.length columns

def isEmpty (t : Table α) : Bool := t.rowCount == 0

/-- The values of row `i`, if its cut lies within the buffer. Without columns every cut is empty
and so lies within it. -/
def row? (t : Table α) (i : Nat) : Option (List α) :=
  if (i + 1) * t.columnCount ≤ t.values.length then
    some ((t.values.drop (i * t.columnCount)).take t.columnCount)
  else none

/-- The first `count` pieces of `width` values each. -/
def pieces (width : Nat) : Nat → List α → List (List α)
  | 0, _ => []
  | count + 1, values => values.take width :: pieces width count (values.drop width)

/-- All rows in order. -/
def rows (t : Table α) : List (List α) := pieces t.columnCount t.rowCount t.values

/-- The value at a row and a column, if both exist. -/
def get? (t : Table α) (row column : Nat) : Option α :=
  if row < t.rowCount ∧ column < t.columnCount then t.values[row * t.columnCount + column]? else none

/-- The values of the rows from `start` up to but not including `stop`. -/
def pullRows (t : Table α) (start stop : Nat) : Except TableError (List α) :=
  if stop < start ∨ t.rowCount < stop then .error (.rowRange start stop t.rowCount)
  else .ok ((t.values.drop (start * t.columnCount)).take ((stop - start) * t.columnCount))

/-- Same shape and equal values, in the sense of equality that the values have. -/
def equal [BEq α] (s t : Table α) : Bool :=
  s.rowCount == t.rowCount && s.columnCount == t.columnCount && s.values == t.values

end Table

end DensityAudit
