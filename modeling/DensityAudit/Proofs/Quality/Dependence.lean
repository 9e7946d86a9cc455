import Mathlib.Data.List.Forall2
import DensityAudit.Proofs.Quality.DaviesBouldin
import DensityAudit.Proofs.Quality.Tallies

/-!
# What the index depends on

Both passes over the rows leave out noise, so they are passes over the other rows only (`tallies_eq`, `spreads_eq`), and
labelled tables with the same rows outside noise have the same index (`SameClusters.quality_eq`). It does not matter
whether a row of noise is there, what it holds or which negative label it has (`noise_ignored`); and of the other rows a
center depends on those of its own cluster.
-/

namespace DensityAudit

/-- The places of the labels with a property, in order. -/
def placesWhere (p : Label → Bool) (labels : List Label) : List Nat :=
  (List.range labels.length).filter fun i => p (labels.getD i noise)

/-- The label is that of a cluster. -/
def isCluster (l : Label) : Bool := decide (0 ≤ l)

/-- The second table has the shape of the first and the same rows at some places. The other rows may hold anything. -/
structure SameRowsAt (places : List Nat) (points points' : Table Float) : Prop where
  rowCount : points'.rowCount = points.rowCount
  columnCount : points'.columnCount = points.columnCount
  rows : ∀ i ∈ places, points'.rows[i]? = points.rows[i]?

/-- The labels are the same but for the names of noise. -/
def SameButNoise (labels labels' : List Label) : Prop :=
  List.Forall₂ (fun l l' => l' = l ∨ l < 0 ∧ l' < 0) labels labels'

/-- The index of a labelling does not depend on noise, and the center and the size of a cluster do not depend on the
rows of other clusters. -/
structure NoiseIgnored (points : Table Float) (labels : List Label) : Prop where
  deleted : quality (points.pick (placesWhere isCluster labels)) (labels.filter isCluster) = quality points labels
  overwritten : ∀ points', SameRowsAt (placesWhere isCluster labels) points points' →
    quality points' labels = quality points labels
  renamed : ∀ labels', SameButNoise labels labels' → quality points labels' = quality points labels
  ownRows : ∀ l points', SameRowsAt (placesWhere (· == l) labels) points points' →
    ∃ c c', centroids points labels = .ok c ∧ centroids points' labels = .ok c' ∧ c'.center? l = c.center? l ∧
      c'.size? l = c.size? l

variable {points points' : Table Float} {labels labels' : List Label} {c c' : Centroids} {p : Label → Bool} {l : Label}
  {i : Nat}

/-! ### Passes over the rows outside noise -/

/-- The rows outside noise with their labels, in order. -/
def clusterRows (points : Table Float) (labels : List Label) : List (List Float × Label) :=
  (points.rows.zip labels).filter fun row => isCluster row.2

theorem isCluster_iff : isCluster l = true ↔ ¬ l < 0 := by rw [isCluster, decide_eq_true_iff, Int.not_lt]

/-- Tallies are made from the rows outside noise. -/
theorem tallies_eq (points : Table Float) (labels : List Label) :
    tallies points labels = (clusterRows points labels).foldl Tally.step [] := by
  have skip : (fun ts row => if isCluster row.2 = true then Tally.step ts row else ts) = Tally.step := by
    funext ts row
    rw [Tally.step]
    simp only [isCluster_iff, ite_not]
    split
    · rfl
    · rfl
  rw [clusterRows, List.foldl_filter, skip, tallies]

theorem spreads_eq (points : Table Float) (c : Centroids) (labels : List Label) :
    spreads points c labels =
      (clusterRows points labels).foldlM (spreadStep c c.positions) (List.replicate c.count Spread.zero) := by
  have skip : (fun s row => if isCluster row.2 = true then spreadStep c c.positions s row else pure s) =
      spreadStep c c.positions := by
    funext s row
    rw [spreadStep]
    simp only [isCluster_iff, ite_not]
    split
    · rfl
    · rfl
  rw [clusterRows, List.foldlM_filter, skip, spreads]

/-- Two labelled tables have the same rows outside noise. -/
structure SameClusters (points points' : Table Float) (labels labels' : List Label) : Prop where
  fits : labels.length = points.rowCount
  fits' : labels'.length = points'.rowCount
  columns : points'.columnCount = points.columnCount
  rows : clusterRows points' labels' = clusterRows points labels

namespace SameClusters

variable (same : SameClusters points points' labels labels')
include same

theorem centroids_eq : centroids points' labels' = centroids points labels := by
  rw [centroids, centroids, if_neg (not_not_intro same.fits), if_neg (not_not_intro same.fits'), tallies_eq, tallies_eq,
    same.rows, same.columns]

theorem daviesBouldin_eq (c : Centroids) : daviesBouldin points' c labels' = daviesBouldin points c labels := by
  rw [daviesBouldin, daviesBouldin, if_neg (not_not_intro same.fits), if_neg (not_not_intro same.fits'), spreads_eq,
    spreads_eq, same.rows, same.columns]

/-- Labelled tables with the same rows outside noise have the same index. -/
theorem quality_eq : quality points' labels' = quality points labels := by
  have index : (fun c => daviesBouldin points' c labels') = fun c => daviesBouldin points c labels :=
    funext same.daviesBouldin_eq
  rw [quality, quality, same.centroids_eq, index]

end SameClusters

/-! ### Rows by their places -/

theorem mem_placesWhere : i ∈ placesWhere p labels ↔ i < labels.length ∧ p (labels.getD i noise) = true := by
  rw [placesWhere, List.mem_filter, List.mem_range]

/-- The labels at their places are the labels with the property. -/
theorem map_placesWhere (p : Label → Bool) (labels : List Label) :
    ((placesWhere p labels).map fun i => labels.getD i noise) = labels.filter p := by
  rw [← pick_filter_range p labels noise]
  exact (pick_eq_map_getD (fun i member => (mem_placesWhere.1 member).1) noise).symm

theorem filter_zip_eq (fits : labels.length = points.rowCount) (p : Label → Bool) :
    ((points.rows.zip labels).filter fun row => p row.2) =
      (placesWhere p labels).map fun i => (points.rows.getD i [], labels.getD i noise) := by
  have rows := map_getD_range points.rows []
  rw [Table.length_rows, ← fits] at rows
  have pairs : ((List.range labels.length).map fun i => points.rows.getD i []).zip
      ((List.range labels.length).map fun i => labels.getD i noise) =
      (List.range labels.length).map fun i => (points.rows.getD i [], labels.getD i noise) := List.zip_map'
  rw [rows, map_getD_range] at pairs
  rw [pairs, List.filter_map]
  rfl

theorem clusterPoints_eq_map (fits : labels.length = points.rowCount) (l : Label) :
    clusterPoints (points.rows.zip labels) l = (placesWhere (· == l) labels).map fun i => points.rows.getD i [] := by
  rw [clusterPoints, filter_zip_eq fits (· == l), List.map_map]
  rfl

namespace SameRowsAt

variable {places : List Nat}

theorem getD_eq (h : SameRowsAt places points points') (member : i ∈ places) :
    points'.rows.getD i [] = points.rows.getD i [] := by
  rw [List.getD_eq_getElem?_getD, List.getD_eq_getElem?_getD, h.rows i member]

/-- Rows of noise may hold anything. -/
theorem sameClusters (h : SameRowsAt (placesWhere isCluster labels) points points')
    (fits : labels.length = points.rowCount) : SameClusters points points' labels labels where
  fits := fits
  fits' := fits.trans h.rowCount.symm
  columns := h.columnCount
  rows := by
    rw [clusterRows, clusterRows, filter_zip_eq fits, filter_zip_eq (fits.trans h.rowCount.symm)]
    apply List.map_congr_left
    intro i member
    rw [h.getD_eq member]

/-- A cluster whose rows are the same has the same points. -/
theorem clusterPoints_eq (h : SameRowsAt (placesWhere (· == l) labels) points points')
    (fits : labels.length = points.rowCount) :
    clusterPoints (points'.rows.zip labels) l = clusterPoints (points.rows.zip labels) l := by
  rw [clusterPoints_eq_map fits, clusterPoints_eq_map (fits.trans h.rowCount.symm)]
  exact List.map_congr_left fun i member => h.getD_eq member

end SameRowsAt

theorem SameButNoise.filter_zip_eq (h : SameButNoise labels labels') (rows : List (List Float)) :
    ((rows.zip labels').filter fun row => isCluster row.2) = (rows.zip labels).filter fun row => isCluster row.2 := by
  induction h generalizing rows with
  | nil => rfl
  | cons first _ ih =>
    cases rows with
    | nil => rfl
    | cons row rows =>
      rw [List.zip_cons_cons, List.zip_cons_cons, List.filter_cons, List.filter_cons, ih]
      rcases first with rfl | ⟨noisy, noisy'⟩
      · rfl
      · rw [if_neg fun h => isCluster_iff.1 h noisy, if_neg fun h => isCluster_iff.1 h noisy']

/-- Noise may have any names. -/
theorem SameButNoise.sameClusters (h : SameButNoise labels labels') (fits : labels.length = points.rowCount) :
    SameClusters points points labels labels' where
  fits := fits
  fits' := h.length_eq.symm.trans fits
  columns := rfl
  rows := h.filter_zip_eq points.rows

/-- Rows of noise may be missing. -/
theorem sameClusters_pick (fits : labels.length = points.rowCount) :
    SameClusters points (points.pick (placesWhere isCluster labels)) labels (labels.filter isCluster) where
  fits := fits
  fits' := by
    have inside : ∀ i ∈ placesWhere isCluster labels, i < points.rowCount :=
      fun i member => fits ▸ (mem_placesWhere.1 member).1
    rw [Table.rowCount_pick inside, ← map_placesWhere, List.length_map]
  columns := rfl
  rows := by
    have inside : ∀ i ∈ placesWhere isCluster labels, i < points.rows.length := by
      intro i member
      rw [Table.length_rows, ← fits]
      exact (mem_placesWhere.1 member).1
    have kept : (points.pick (placesWhere isCluster labels)).rows.zip (labels.filter isCluster) = clusterRows points labels := by
      rw [Table.rows_pick, pick_eq_map_getD inside [], ← map_placesWhere, List.zip_map', clusterRows, filter_zip_eq fits]
    rw [clusterRows, kept, clusterRows, List.filter_filter]
    simp only [Bool.and_self]

/-! ### Centers -/

/-- Clusters with the same points have the same center and size. -/
theorem CentersOf.center?_congr (h : CentersOf points labels c) (h' : CentersOf points' labels c')
    (columns : points'.columnCount = points.columnCount)
    (same : clusterPoints (points'.rows.zip labels) l = clusterPoints (points.rows.zip labels) l) :
    c'.center? l = c.center? l ∧ c'.size? l = c.size? l := by
  have clusters : l ∈ c'.labels ↔ l ∈ c.labels := (h'.mem_labels l).trans (h.mem_labels l).symm
  by_cases member : l ∈ c.labels
  · have member' := clusters.2 member
    rw [(h.ordered.center?_eq member).1, (h'.ordered.center?_eq member').1, h.center l member, h'.center l member',
      h.size l member, h'.size l member', same, columns]
    exact ⟨rfl, rfl⟩
  · have place := Centroids.place?_eq_none_iff.2 member
    have place' := Centroids.place?_eq_none_iff.2 (mt clusters.1 member)
    rw [Centroids.center?, Centroids.center?, Centroids.size?, Centroids.size?, place, place']
    exact ⟨rfl, rfl⟩

/-- Noise does not influence the index. The index of a labelling with one label per point, be it a number or a failure,
stays the same if rows of noise are deleted, overwritten or given other negative labels; and no row changes the center or
the size of a cluster that it is not in. -/
theorem noise_ignored (points : Table Float) (labels : List Label) (fits : labels.length = points.rowCount) :
    NoiseIgnored points labels where
  deleted := (sameClusters_pick fits).quality_eq
  overwritten _ h := (h.sameClusters fits).quality_eq
  renamed _ h := (h.sameClusters fits).quality_eq
  ownRows l points' h := by
    obtain ⟨c, built, centers⟩ := exists_centroids fits
    obtain ⟨c', built', centers'⟩ := exists_centroids (fits.trans h.rowCount.symm)
    exact ⟨c, c', built, built', centers.center?_congr centers' h.columnCount (h.clusterPoints_eq fits)⟩

/-- The corners of a rectangle, the last of which has got lost. -/
def lostCorner : Table Float :=
  { corners with values := [0.0, 0.0, 0.0, 2.0, 4.0, 0.0, 0.0 / 0.0, 1.0 / 0.0], length_values := rfl }

theorem noise_ignored_lostCorner :
    NoiseIgnored corners [3, 3, 7, -1] ∧ quality lostCorner [3, 3, 7, -1] = quality corners [3, 3, 7, -1] := by
  have ignored := noise_ignored corners [3, 3, 7, -1] rfl
  refine ⟨ignored, ignored.overwritten lostCorner ⟨rfl, rfl, ?_⟩⟩
  have places : placesWhere isCluster [3, 3, 7, -1] = [0, 1, 2] := by decide
  rw [places]
  exact List.forall_mem_cons.2 ⟨rfl, List.forall_mem_cons.2 ⟨rfl, List.forall_mem_cons.2 ⟨rfl, nofun⟩⟩⟩

end DensityAudit
