/-!
# Outputs and sets of outputs

A clustering engine can be asked for four outputs. A request names a set of them; `OutputSet` holds one
flag per output, so that sets with the same members are equal, and lists its members in the order in
which the outputs are declared.
-/

namespace DensityAudit

/-- What a clustering engine can be asked to return, besides the number of clusters. -/
inductive Output where
  /-- The label of every row. -/
  | labels
  /-- Whether each row is a core row. -/
  | coreFlags
  /-- The core rows themselves. -/
  | coreRows
  /-- The indices of the core rows. -/
  | coreIndices
deriving DecidableEq

namespace Output

/-- All outputs in the order of their declaration. -/
def all : List Output := [.labels, .coreFlags, .coreRows, .coreIndices]

/-- The name of an output in messages and documents. -/
def name : Output → String
  | .labels => "responses"
  | .coreFlags => "core_flags"
  | .coreRows => "core_observations"
  | .coreIndices => "core_observation_indices"

/-- The output of a given name. -/
def ofName? (name : String) : Option Output := all.find? (fun output => output.name == name)

end Output

/-- A set of outputs. -/
structure OutputSet where
  labels : Bool
  coreFlags : Bool
  coreRows : Bool
  coreIndices : Bool
deriving DecidableEq

namespace OutputSet

def none : OutputSet := ⟨false, false, false, false⟩

/-- The output belongs to the set. -/
def contains (s : OutputSet) : Output → Bool
  | .labels => s.labels
  | .coreFlags => s.coreFlags
  | .coreRows => s.coreRows
  | .coreIndices => s.coreIndices

/-- The set with one more member. -/
def insert (s : OutputSet) : Output → OutputSet
  | .labels => { s with labels := true }
  | .coreFlags => { s with coreFlags := true }
  | .coreRows => { s with coreRows := true }
  | .coreIndices => { s with coreIndices := true }

/-- The set of the listed outputs; repeats and order do not matter. -/
def ofList (outputs : List Output) : OutputSet := outputs.foldl insert none

/-- Every output. -/
def all : OutputSet := ofList Output.all

/-- The set with a single member. -/
def only (output : Output) : OutputSet := none.insert output

def union (s t : OutputSet) : OutputSet :=
  ⟨s.labels || t.labels, s.coreFlags || t.coreFlags, s.coreRows || t.coreRows, s.coreIndices || t.coreIndices⟩

/-- The members in the order of their declaration. -/
def toList (s : OutputSet) : List Output := Output.all.filter s.contains

def size (s : OutputSet) : Nat := s.toList.length

def isEmpty (s : OutputSet) : Bool := s.toList.isEmpty

/-- The text shown for a set: its members' names with bars between them. -/
def text (s : OutputSet) : String :=
  if s.isEmpty then "none" else String.intercalate "|" (s.toList.map Output.name)

/-- Every set, counting in binary with the first output as the lowest digit. -/
def subsets : List OutputSet :=
  (List.range 16).map fun n => ⟨n.testBit 0, n.testBit 1, n.testBit 2, n.testBit 3⟩

theorem contains_none (o : Output) : none.contains o = false := by cases o <;> rfl

theorem contains_insert (s : OutputSet) (o p : Output) :
    (s.insert o).contains p = (s.contains p || decide (p = o)) := by
  cases o <;> cases p <;> simp [insert, contains]

theorem contains_only (o p : Output) : (only o).contains p = decide (p = o) := by
  simp [only, contains_insert, contains_none]

theorem contains_all (o : Output) : all.contains o = true := by cases o <;> rfl

theorem contains_union (s t : OutputSet) (o : Output) :
    (s.union t).contains o = (s.contains o || t.contains o) := by cases o <;> rfl

theorem mem_toList {s : OutputSet} {o : Output} : o ∈ s.toList ↔ s.contains o = true := by
  rw [toList, List.mem_filter, and_iff_right_of_imp]
  intro _
  cases o <;> simp [Output.all]

theorem contains_ofList (outputs : List Output) (o : Output) :
    (ofList outputs).contains o = decide (o ∈ outputs) := by
  have grown : ∀ (s : OutputSet), (outputs.foldl insert s).contains o = (s.contains o || decide (o ∈ outputs)) := by
    induction outputs with
    | nil => intro s; simp
    | cons p rest ih => intro s; rw [List.foldl_cons, ih, contains_insert]; simp [Bool.or_assoc]
  rw [ofList, grown, contains_none, Bool.false_or]

/-- Two sets with the same members are equal. -/
theorem ext_contains {s t : OutputSet} (h : ∀ o, s.contains o = t.contains o) : s = t := by
  cases s; cases t
  simp only [mk.injEq]
  exact ⟨h .labels, h .coreFlags, h .coreRows, h .coreIndices⟩

end OutputSet

end DensityAudit
