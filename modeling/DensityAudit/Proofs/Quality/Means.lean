import Mathlib.Algebra.BigOperators.Group.List.Lemmas
import Mathlib.Algebra.GroupWithZero.Nat
import Mathlib.Data.List.GetD
import DensityAudit.Proofs.Quality.DaviesBouldin
import DensityAudit.Proofs.Quality.Tallies

/-!
# Centroids as means

The pass over the rows adds up all clusters side by side, point by point. `MeansOf` says what it leaves, cluster by
cluster and coordinate by coordinate: every label that is not negative has its number of rows and, in each coordinate,
the running sum over its own rows divided by that number (`centroids_means`). No number of rows is zero, so nothing is
divided by zero.
-/

namespace DensityAudit

/-- The sum of coordinate `j` of the points of a cluster, in the order of the rows and from zero. -/
def clusterTotal (points : Table Float) (labels : List Label) (l : Label) (j : Nat) : Float :=
  ((clusterPoints (points.rows.zip labels) l).map fun p => p.getD j 0.0).foldl (· + ·) 0.0

/-- The centroids are the means of the clusters of a labelling. -/
structure MeansOf (points : Table Float) (labels : List Label) (c : Centroids) : Prop where
  ascending : c.labels.Pairwise (· < ·)
  mem_labels : ∀ l, l ∈ c.labels ↔ l ∈ labels ∧ 0 ≤ l
  sizes : c.sizes = c.labels.map fun l => labels.count l
  positive : ∀ n ∈ c.sizes, 0 < n
  total : c.sizes.sum = labels.countP fun l => decide (0 ≤ l)
  /-- One center for each cluster. -/
  rows : c.centers.rowCount = c.labels.length
  columns : c.centers.columnCount = points.columnCount
  exists_center_iff : ∀ l, (∃ p, c.center? l = some p) ↔ l ∈ labels ∧ 0 ≤ l
  mean : ∀ l p, c.center? l = some p → p.length = points.columnCount ∧
    ∀ j < points.columnCount, p[j]? = some (clusterTotal points labels l j / Binary64.ofCount (labels.count l))

variable {points : Table Float} {labels : List Label} {c : Centroids} {l : Label} {j : Nat}

/-! ### Sizes -/

theorem length_clusterPoints (rows : List (List Float × Label)) (l : Label) :
    (clusterPoints rows l).length = (rows.map Prod.snd).count l := by
  rw [clusterPoints, List.length_map, ← List.countP_eq_length_filter, List.count, List.countP_map]
  rfl

theorem length_sizes_of_centroids (built : centroids points labels = .ok c) : c.sizes.length = c.labels.length := by
  rw [centroids, if_neg (not_not_intro (rowCount_of_centroids built)), Tally.centroids] at built
  split at built
  case h_1 =>
    cases built
    rw [List.length_map, List.length_map]
  case h_2 => cases built

/-- The sizes stand in the order of the labels. -/
theorem CentersOf.sizes_eq (h : CentersOf points labels c) (fits : labels.length = points.rowCount)
    (filled : c.sizes.length = c.labels.length) : c.sizes = c.labels.map fun l => labels.count l := by
  apply List.ext_getElem
  · rw [filled, List.length_map]
  · intro i inside inside'
    rw [List.length_map] at inside'
    have size := h.size _ (List.getElem_mem inside')
    rw [Centroids.size?, h.ordered.place?_getElem inside', Option.bind_some, List.getElem?_eq_getElem inside,
      Option.some.injEq, length_clusterPoints, map_snd_zip points fits] at size
    rw [size, List.getElem_map]

/-- The clusters of a labelling are its different labels without noise. -/
theorem CentersOf.labels_perm (h : CentersOf points labels c) :
    c.labels.Perm (labels.dedup.filter fun l => decide (0 ≤ l)) := by
  refine (List.perm_ext_iff_of_nodup h.ordered.nodup (labels.nodup_dedup.filter _)).2 fun l => ?_
  rw [h.mem_labels, List.mem_filter, List.mem_dedup, decide_eq_true_iff]

/-- Every row outside noise counts for one cluster. -/
theorem CentersOf.sum_count (h : CentersOf points labels c) :
    (c.labels.map fun l => labels.count l).sum = labels.countP fun l => decide (0 ≤ l) :=
  calc (c.labels.map fun l => labels.count l).sum
      = ((labels.dedup.filter fun l => decide (0 ≤ l)).map fun l => labels.count l).sum := (h.labels_perm.map _).sum_nat
    _ = labels.countP fun l => decide (0 ≤ l) := List.sum_map_count_dedup_filter_eq_countP _ labels

/-! ### Coordinates -/

/-- Each coordinate of a sum of points is summed on its own. -/
theorem getElem?_coordinateSums {columns : Nat} {points : List (List Float)} (widths : ∀ p ∈ points, p.length = columns)
    (inside : j < columns) :
    (coordinateSums columns points)[j]? = some ((points.map fun p => p.getD j 0.0).foldl (· + ·) 0.0) := by
  induction points using List.reverseRecOn with
  | nil => rw [coordinateSums, List.foldl_nil, List.getElem?_replicate, if_pos inside, List.map_nil, List.foldl_nil]
  | append_singleton points p ih =>
    have before := ih fun q member => widths q (List.mem_append_left _ member)
    have width := widths p (List.mem_append_right _ (List.mem_singleton.2 rfl))
    have last : p[j]? = some (p.getD j 0.0) := by
      rw [List.getElem?_eq_getElem (width ▸ inside), List.getD_eq_getElem _ _ (width ▸ inside)]
    rw [coordinateSums_snoc, List.getElem?_zipWith, before, last, List.map_append, List.foldl_append]
    rfl

/-- A coordinate of a center is the sum over the rows of the cluster, divided by their number. -/
theorem CentersOf.mean (h : CentersOf points labels c) (fits : labels.length = points.rowCount) (member : l ∈ c.labels)
    (inside : j < points.columnCount) :
    (c.centerOf l)[j]? = some (clusterTotal points labels l j / Binary64.ofCount (labels.count l)) := by
  rw [h.center l member, meanPoint, List.getElem?_map, getElem?_coordinateSums clusterPoints_widths inside, Option.map_some,
    length_clusterPoints, map_snd_zip points fits]
  rfl

/-! ### The means -/

/-- The centroids of a labelling are the means of its clusters. -/
theorem meansOf_of_centroids (built : centroids points labels = .ok c) : MeansOf points labels c := by
  have centers := centersOf_of_centroids built
  have fits := rowCount_of_centroids built
  have sizes := centers.sizes_eq fits (length_sizes_of_centroids built)
  refine ⟨centers.ordered.clusters.ascending, centers.mem_labels, sizes, ?positive, ?total, centers.ordered.fits,
    centers.columns, fun l => ?exists_center_iff, fun l p found => ?mean⟩
  case positive =>
    intro n member
    rw [sizes] at member
    obtain ⟨l, cluster, rfl⟩ := List.mem_map.1 member
    exact List.count_pos_iff.2 ((centers.mem_labels l).1 cluster).1
  case total => rw [sizes, centers.sum_count]
  case exists_center_iff =>
    rw [← centers.mem_labels]
    constructor
    · rintro ⟨p, found⟩
      exact (Centroids.mem_labels_of_center? found).1
    · exact fun member => ⟨_, (centers.ordered.center?_eq member).1⟩
  case mean =>
    obtain ⟨member, rfl⟩ := Centroids.mem_labels_of_center? found
    refine ⟨?_, fun j inside => centers.mean fits member inside⟩
    rw [(centers.ordered.center?_eq member).2, centers.columns]

/-- A labelling has centroids iff it has one label per point, and fails with the wrong shape otherwise; the centroids are
the means of its clusters. -/
theorem centroids_means (points : Table Float) (labels : List Label) :
    (∀ f, centroids points labels = .error f ↔
      labels.length ≠ points.rowCount ∧ f = .shape "label count" points.rowCount labels.length) ∧
    (labels.length = points.rowCount → ∃ c, centroids points labels = .ok c ∧ MeansOf points labels c) := by
  constructor
  · intro f
    by_cases fits : labels.length = points.rowCount
    · obtain ⟨c, built, -⟩ := exists_centroids fits
      rw [built]
      exact iff_of_false nofun fun h => h.1 fits
    · rw [centroids, if_pos fits, Except.error.injEq, eq_comm]
      exact (and_iff_right fits).symm
  · intro fits
    obtain ⟨c, built, -⟩ := exists_centroids fits
    exact ⟨c, built, meansOf_of_centroids built⟩

/-- Three corners in two clusters, and one left out. -/
theorem centroids_means_corners :
    corners.rowCount = 4 ∧ ∃ c, centroids corners [7, 3, -1, 7] = .ok c ∧ MeansOf corners [7, 3, -1, 7] c :=
  ⟨rfl, (centroids_means corners [7, 3, -1, 7]).2 rfl⟩

end DensityAudit
