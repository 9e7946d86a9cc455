import DensityAudit.Density.Graph
import DensityAudit.Engine.Answer

/-!
# Growing one cluster

`Graph.expand` labels a seed row and every row that can be reached from it through core rows that no
cluster had reached before. Rows wait on a stack; a row that has been labelled since it was pushed is
dropped. Each step either labels a row or shortens the stack, which is why the walk ends.
-/

namespace DensityAudit.Density

/-- The labels given so far, one entry per row; `none` marks a row that no cluster has reached. -/
abbrev Marks := Array (Option Label)

/-- The row exists and has no label yet. -/
def Marks.unreached (marks : Marks) (i : Nat) : Bool := marks[i]? == some none

/-- The number of rows without a label. -/
def Marks.unreachedCount (marks : Marks) : Nat := marks.count none

theorem Marks.unreached_iff {marks : Marks} {i : Nat} :
    marks.unreached i = true ↔ marks[i]? = some none := by
  simp [Marks.unreached]

/-- Labelling an unreached row leaves one unreached row fewer. -/
theorem Marks.unreachedCount_set_lt {marks : Marks} {i : Nat} (h : marks.unreached i = true) (label : Label) :
    Marks.unreachedCount (marks.setIfInBounds i (some label)) < marks.unreachedCount := by
  obtain ⟨inside, unlabelled⟩ := Array.getElem?_eq_some_iff.1 (Marks.unreached_iff.1 h)
  have counted : 0 < marks.count none := Array.count_pos_iff.2 (unlabelled ▸ Array.getElem_mem inside)
  have after : (marks.setIfInBounds i (some label)).count none = marks.count none - 1 := by
    rw [Array.setIfInBounds, dif_pos inside, Array.count_set inside, unlabelled]
    exact Nat.add_zero _
  rw [Marks.unreachedCount, Marks.unreachedCount, after]
  exact Nat.sub_one_lt_of_lt counted

/-- The rows to visit after `i` has been labelled: the unreached neighbours of a core row. -/
def Graph.onward (g : Graph) (marks : Marks) (i : Nat) : List Nat :=
  if g.core i then (g.near i).filter marks.unreached else []

/-- Visits the rows on a stack, giving the label to those that have none. -/
def Graph.visit (g : Graph) (label : Label) (stack : List Nat) (marks : Marks) : Marks :=
  match stack with
  | [] => marks
  | i :: rest =>
    if marks.unreached i then
      let labelled := marks.setIfInBounds i (some label)
      g.visit label (g.onward labelled i ++ rest) labelled
    else g.visit label rest marks
termination_by (marks.unreachedCount, stack.length)
decreasing_by
  · exact Prod.Lex.left _ _ (Marks.unreachedCount_set_lt (by assumption) label)
  · exact Prod.Lex.right _ (Nat.lt_succ_self _)

theorem Graph.visit_nil (g : Graph) (label : Label) (marks : Marks) : g.visit label [] marks = marks := by
  rw [Graph.visit]

/-- An unreached row is labelled, and the rows onward from it are visited before the others. -/
theorem Graph.visit_cons_of_unreached {g : Graph} {label : Label} {i : Nat} {rest : List Nat} {marks : Marks}
    (h : marks.unreached i = true) :
    g.visit label (i :: rest) marks =
      g.visit label (g.onward (marks.setIfInBounds i (some label)) i ++ rest) (marks.setIfInBounds i (some label)) := by
  rw [Graph.visit, if_pos h]

/-- A row with a label is passed over. -/
theorem Graph.visit_cons_of_reached {g : Graph} {label : Label} {i : Nat} {rest : List Nat} {marks : Marks}
    (h : marks.unreached i = false) : g.visit label (i :: rest) marks = g.visit label rest marks := by
  rw [Graph.visit, if_neg (by simp [h])]

/-- Visiting keeps one entry per row. -/
@[simp] theorem Graph.size_visit (g : Graph) (label : Label) (stack : List Nat) (marks : Marks) :
    (g.visit label stack marks).size = marks.size := by
  fun_induction Graph.visit g label stack marks with
  | case1 => rfl
  | case2 marks i rest _ labelled ih => rw [ih, Array.size_setIfInBounds]
  | case3 marks i rest _ ih => exact ih

/-- Labels the seed, whatever label it had, and then everything reached from its neighbours. -/
def Graph.expand (g : Graph) (label : Label) (seed : Nat) (marks : Marks) : Marks :=
  g.visit label (g.near seed) (marks.setIfInBounds seed (some label))

@[simp] theorem Graph.size_expand (g : Graph) (label : Label) (seed : Nat) (marks : Marks) :
    (g.expand label seed marks).size = marks.size := by
  rw [Graph.expand, Graph.size_visit, Array.size_setIfInBounds]

end DensityAudit.Density
