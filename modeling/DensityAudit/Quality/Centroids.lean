import DensityAudit.Failure

/-!
# Centroids of clusters

The mean position of every cluster, found in one pass over the rows: each row with a non-negative label is
added to the tally of its cluster, and a cluster gets a tally when its first row is met. Noise rows are left
out.
-/

namespace DensityAudit

/-- The number of different clusters in a labelling. -/
def clusterCount (labels : List Label) : Nat := ((labels.filter fun l => decide (0 ≤ l)).eraseDups).length

/-- The centers of clusters, in ascending order of their labels. -/
structure Centroids where
  labels : List Label
  /-- The number of rows of each cluster. -/
  sizes : List Nat
  /-- One row per cluster. -/
  centers : Table Float

namespace Centroids

def count (c : Centroids) : Nat := c.labels.length

def isEmpty (c : Centroids) : Bool := c.labels.isEmpty

/-- The place of a cluster in the order of labels. -/
def place? (c : Centroids) (label : Label) : Option Nat := c.labels.findIdx? (fun l => l == label)

def center? (c : Centroids) (label : Label) : Option (List Float) := (c.place? label).bind c.centers.row?

/-- The centers of all clusters in order. -/
def positions (c : Centroids) : List (List Float) := c.centers.rows

end Centroids

/-- The rows of one cluster seen so far: how many, and the sums of their coordinates. -/
structure Tally where
  label : Label
  size : Nat
  sums : List Float

namespace Tally

/-- The tally with one more row. -/
def add (t : Tally) (point : List Float) : Tally :=
  { t with size := t.size + 1, sums := List.zipWith (· + ·) t.sums point }

/-- The tally of a cluster's first row; sums start at zero. -/
def first (label : Label) (point : List Float) : Tally :=
  add ⟨label, 0, List.replicate point.length 0.0⟩ point

def mean (t : Tally) : List Float := t.sums.map (· / Binary64.ofCount t.size)

/-- Adds a row to the tally of its cluster, among tallies in ascending order of labels. -/
def credit (label : Label) (point : List Float) : List Tally → List Tally
  | [] => [first label point]
  | t :: rest =>
    if label < t.label then first label point :: t :: rest
    else if label = t.label then t.add point :: rest
    else t :: credit label point rest

/-- The tallies after one more row; a noise row changes none. -/
def step (tallies : List Tally) (row : List Float × Label) : List Tally :=
  if row.2 < 0 then tallies else credit row.2 row.1 tallies

end Tally

/-- The tallies of all clusters of a labelling. -/
def tallies (points : Table Float) (labels : List Label) : List Tally :=
  (points.rows.zip labels).foldl Tally.step []

/-- The centroids of the clusters that tallies stand for. -/
def Tally.centroids (columns : Nat) (ts : List Tally) : Except Failure Centroids :=
  match Table.wrap (ts.map Tally.mean).flatten ts.length columns with
  | .ok centers => .ok ⟨ts.map Tally.label, ts.map Tally.size, centers⟩
  | .error cause => .error (.table cause)

/-- The centroids of the clusters of a labelling, which must have one label per point. -/
def centroids (points : Table Float) (labels : List Label) : Except Failure Centroids :=
  if labels.length ≠ points.rowCount then .error (.shape "label count" points.rowCount labels.length)
  else Tally.centroids points.columnCount (tallies points labels)

end DensityAudit
