import DensityAudit.Density.Neighbourhood
import DensityAudit.Quality.Centroids

/-!
# The Davies–Bouldin index

The scatter of a cluster is the mean distance of its rows from its center. Two clusters are similar in the
measure in which their scatters, added, exceed the distance of their centers. The index is the mean, over
all clusters, of the similarity to the most similar other cluster; lower is better. It has no value for
fewer than two clusters, or if two centers coincide.
-/

namespace DensityAudit

/-- The summed distances of rows from a center, and how many they are. -/
structure Spread where
  total : Float
  size : Nat

namespace Spread

def zero : Spread := ⟨0.0, 0⟩

/-- The spread with one more distance. -/
def add (s : Spread) (d : Float) : Spread := ⟨s.total + d, s.size + 1⟩

/-- The mean distance, or zero without rows. -/
def mean (s : Spread) : Float := if 0 < s.size then s.total / Binary64.ofCount s.size else s.total

end Spread

/-- The spreads, in the order of the centers, after one more row. Noise is left out, and a row whose
cluster has no center is an error. -/
def spreadStep (c : Centroids) (centers : List (List Float)) (spreads : List Spread)
    (row : List Float × Label) : Except Failure (List Spread) :=
  if row.2 < 0 then .ok spreads
  else match c.place? row.2 with
    | none => .error (.undefinedQuality (.missingCentroid row.2))
    | some place =>
      .ok (spreads.modify place fun s => s.add (distance row.1 ((centers[place]?).getD [])))

/-- The spreads of all clusters, in the order of the centers. -/
def spreads (points : Table Float) (c : Centroids) (labels : List Label) : Except Failure (List Spread) :=
  (points.rows.zip labels).foldlM (spreadStep c c.positions) (List.replicate c.count Spread.zero)

/-- A cluster as the index sees it. -/
structure Ball where
  label : Label
  center : List Float
  scatter : Float

namespace Ball

/-- The similarity of two clusters. -/
def similarity (a b : Ball) : Float := (a.scatter + b.scatter) / distance a.center b.center

/-- The first pair of clusters whose centers are at no distance. -/
def coincident? : List Ball → Option (Label × Label)
  | [] => none
  | a :: rest =>
    match rest.find? (fun b => distance a.center b.center == 0.0) with
    | some b => some (a.label, b.label)
    | none => coincident? rest

/-- The similarity of a cluster to the most similar other one, at least zero. -/
def worst (balls : List Ball) (a : Ball) : Float :=
  ((balls.filter fun b => b.label != a.label).map a.similarity).foldl Binary64.maximum 0.0

def meanWorst (balls : List Ball) : Float :=
  (balls.map (worst balls)).foldl (· + ·) 0.0 / Binary64.ofCount balls.length

end Ball

/-- The clusters with their centers and scatters, in the order of their labels. -/
def balls (c : Centroids) (spreads : List Spread) : List Ball :=
  List.zipWith (fun label (center, spread) => ⟨label, center, Spread.mean spread⟩)
    c.labels (c.positions.zip spreads)

/-- The index of clusters, unless two of their centers coincide. -/
def Ball.index (balls : List Ball) : Except Failure Float :=
  match Ball.coincident? balls with
  | some (first, second) => .error (.undefinedQuality (.coincidentCentroids first second))
  | none => .ok (Ball.meanWorst balls)

/-- The Davies–Bouldin index of a labelling, for given centers. -/
def daviesBouldin (points : Table Float) (c : Centroids) (labels : List Label) : Except Failure Float :=
  if labels.length ≠ points.rowCount then .error (.shape "label count" points.rowCount labels.length)
  else if c.centers.columnCount ≠ points.columnCount then
    .error (.shape "centroid dimension" points.columnCount c.centers.columnCount)
  else if c.count < 2 then .error (.undefinedQuality (.tooFewClusters c.count))
  else (spreads points c labels).bind fun found => Ball.index (balls c found)

/-- The Davies–Bouldin index of a labelling, for its own centers. -/
def quality (points : Table Float) (labels : List Label) : Except Failure Float :=
  (centroids points labels).bind fun c => daviesBouldin points c labels

end DensityAudit
