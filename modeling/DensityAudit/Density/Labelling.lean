import DensityAudit.Density.Expansion

/-!
# Labelling a whole graph

Rows are scanned in order. Each core row that no cluster has reached starts the next cluster; rows that
no cluster ever reaches are noise. Clusters are thus numbered by their first core row, and a row between
two clusters belongs to the one with the smaller number.
-/

namespace DensityAudit.Density

/-- The labels given so far and the number of the next cluster. -/
structure Progress where
  marks : Marks
  next : Nat

/-- Starts a cluster at row `i` if it is an unreached core row. -/
def Graph.scanRow (g : Graph) (progress : Progress) (i : Nat) : Progress :=
  if progress.marks.unreached i && g.core i then
    ⟨g.expand progress.next i progress.marks, progress.next + 1⟩
  else progress

/-- The state after all rows have been scanned. -/
def Graph.scan (g : Graph) : Progress :=
  (List.range g.size).foldl g.scanRow ⟨Array.replicate g.size none, 0⟩

theorem Graph.size_scanRow (g : Graph) (progress : Progress) (i : Nat) :
    (g.scanRow progress i).marks.size = progress.marks.size := by
  unfold Graph.scanRow
  split
  · exact g.size_expand _ _ _
  · rfl

/-- Every row has an entry after the scan. -/
theorem Graph.size_scan (g : Graph) : g.scan.marks.size = g.size := by
  have kept : ∀ (rows : List Nat) (progress : Progress),
      (rows.foldl g.scanRow progress).marks.size = progress.marks.size := by
    intro rows
    induction rows with
    | nil => exact fun _ => rfl
    | cons i rest ih => exact fun progress => (ih _).trans (g.size_scanRow progress i)
  rw [Graph.scan, kept, Array.size_replicate]

/-- The label of a row: that of its cluster, or noise. -/
def labelOf (mark : Option Label) : Label := mark.getD noise

def Graph.labels (g : Graph) : List Label := g.scan.marks.toList.map labelOf

theorem Graph.length_labels (g : Graph) : g.labels.length = g.size := by
  rw [Graph.labels, List.length_map, Array.length_toList, g.size_scan]

def Graph.clusterCount (g : Graph) : Nat := g.scan.next

end DensityAudit.Density
