import DensityAudit.Table.Basic

/-!
# Tables as they are stored

A `StoredTable` is a buffer with two extents of which nothing more is known. It is built and read with numbers of one
machine word. Where a shape is accepted the product of its extents is checked; elsewhere a number that does not fit into a
word either stops the program or loses its upper part (`Overflow`). A constructor or reader that has no result has stopped,
because of such a number, because it asks for a buffer that cannot be had, or because it reaches beyond the one there is.
-/

namespace DensityAudit

/-- Numbers of one word are below this bound, two to the power of 64. -/
def wordBound : Nat := 18446744073709551616

/-- What becomes of a number that does not fit into a word. -/
inductive Overflow where
  /-- The program stops. -/
  | stops
  /-- What is left is the remainder by the bound. -/
  | wraps
deriving DecidableEq

/-- A number as a word, unless the program stops. -/
def Overflow.word? (overflow : Overflow) (n : Nat) : Option Nat :=
  if n < wordBound then some n
  else match overflow with
    | .stops => none
    | .wraps => some (n % wordBound)

/-- The product of two words, if it fits into a word. -/
def checkedProduct? (m n : Nat) : Option Nat := if m * n < wordBound then some (m * n) else none

/-- The values of a buffer have fewer bytes than this, two to the power of 63. -/
def byteBound : Nat := 9223372036854775808

/-- A buffer can have `count` values of `size` bytes each. Values may have no bytes; they are counted by a word all the same. -/
def Holdable (size count : Nat) : Prop := count < wordBound ∧ count * size < byteBound

instance (size count : Nat) : Decidable (Holdable size count) := inferInstanceAs (Decidable (_ ∧ _))

/-- The number of values that a buffer is asked for which is to hold `rows` rows of `columns` values. -/
def reserve? (overflow : Overflow) (size rows columns : Nat) : Option Nat := do
  let count ← overflow.word? (rows * columns)
  if Holdable size count then return count else none

/-- The values from one place of a buffer up to another, if both are within it and in this order. -/
def cut? {α : Type} (values : List α) (start stop : Nat) : Option (List α) :=
  if start ≤ stop ∧ stop ≤ values.length then some ((values.drop start).take (stop - start)) else none

/-- The pieces of `size` values, cut off one after another as long as the values last. -/
def chunks {α : Type} (size : Nat) (values : List α) : List (List α) :=
  if 0 < size ∧ size ≤ values.length then values.take size :: chunks size (values.drop size) else []
termination_by values.length
decreasing_by
  rw [List.length_drop]
  omega

/-- A buffer and two extents. -/
structure StoredTable (α : Type) where
  values : List α
  rowCount : Nat
  columnCount : Nat

namespace StoredTable

variable {α : Type}

/-! ### Constructors -/

/-- The buffer with the two extents, if their product is its length and there are no rows without columns. -/
def wrap (values : List α) (rows columns : Nat) : Except TableError (StoredTable α) :=
  if checkedProduct? rows columns ≠ some values.length ∨ columns = 0 ∧ rows ≠ 0 then
    .error (.shapeMismatch rows columns values.length)
  else .ok ⟨values, rows, columns⟩

def column (values : List α) : StoredTable α := ⟨values, values.length, 1⟩

def empty (columns : Nat) : StoredTable α := ⟨[], 0, columns⟩

/-- Appends rows to a buffer, up to the first that is not as long as expected. The rows are numbered from `i` on. -/
def collect? (size columns i : Nat) (values : List α) : List (List α) → Option (Except TableError (List α))
  | [] => some (.ok values)
  | row :: rest =>
    if row.length ≠ columns then some (.error (.raggedRows i columns row.length))
    else if Holdable size (values.length + row.length) then collect? size columns (i + 1) (values ++ row) rest
    else none

/-- The rows in one buffer, with the length of the first row as the number of columns. Values have `size` bytes. Before any
row is looked at, the buffer is asked for at its full length, as if no row were longer or shorter than the first. -/
def ofRows (overflow : Overflow) (size : Nat) (rows : List (List α)) : Option (Except TableError (StoredTable α)) := do
  let columns := (rows.head?.map List.length).getD 0
  let _ ← reserve? overflow size rows.length columns
  let collected ← collect? size columns 0 [] rows
  return collected.bind fun values => wrap values rows.length columns

/-- What the constructors build from buffers and extents that fit into words. -/
inductive Built : StoredTable α → Prop where
  | wrap {values : List α} {rows columns : Nat} {s : StoredTable α} (buffer : values.length < wordBound)
      (extents : rows < wordBound ∧ columns < wordBound) (accepted : wrap values rows columns = .ok s) : Built s
  | column {values : List α} (buffer : values.length < wordBound) : Built (column values)
  | empty {columns : Nat} (extent : columns < wordBound) : Built (empty columns)
  | ofRows {overflow : Overflow} {size : Nat} {rows : List (List α)} {s : StoredTable α}
      (extent : rows.length < wordBound) (accepted : ofRows overflow size rows = some (.ok s)) : Built s

/-! ### Readers -/

/-- The values between the starts of row `i` and of the next one. -/
def row? (overflow : Overflow) (s : StoredTable α) (i : Nat) : Option (List α) := do
  let start ← overflow.word? (i * s.columnCount)
  let next ← overflow.word? (i + 1)
  let stop ← overflow.word? (next * s.columnCount)
  cut? s.values start stop

/-- All rows in order. They are not counted: the buffer is cut into pieces of one row each. -/
def rows (s : StoredTable α) : List (List α) := chunks (max s.columnCount 1) s.values

/-- The value at a row and a column, or that there is none. -/
def get? (overflow : Overflow) (s : StoredTable α) (row column : Nat) : Option (Option α) :=
  if row < s.rowCount ∧ column < s.columnCount then do
    let start ← overflow.word? (row * s.columnCount)
    let place ← overflow.word? (start + column)
    let value ← s.values[place]?
    return some value
  else some none

/-- The values of the rows from `start` up to but not including `stop`, or that there are no such rows. -/
def pullRows (overflow : Overflow) (s : StoredTable α) (start stop : Nat) : Option (Except TableError (List α)) :=
  if stop < start ∨ s.rowCount < stop then some (.error (.rowRange start stop s.rowCount))
  else do
    let first ← overflow.word? (start * s.columnCount)
    let last ← overflow.word? (stop * s.columnCount)
    let values ← cut? s.values first last
    return .ok values

end StoredTable

namespace Table

variable {α : Type}

/-- A table as it is stored. -/
def stored (t : Table α) : StoredTable α := ⟨t.values, t.rowCount, t.columnCount⟩

@[simp] theorem values_stored (t : Table α) : t.stored.values = t.values := rfl

@[simp] theorem rowCount_stored (t : Table α) : t.stored.rowCount = t.rowCount := rfl

@[simp] theorem columnCount_stored (t : Table α) : t.stored.columnCount = t.columnCount := rfl

end Table

end DensityAudit
