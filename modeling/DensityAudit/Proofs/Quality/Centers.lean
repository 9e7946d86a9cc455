import Mathlib.Data.List.Basic
import DensityAudit.Quality.Centroids
import DensityAudit.Table.Lemmas

/-!
# Centroids in the order of their labels

Crediting rows keeps the tallies in strictly ascending order of labels that are not negative (`isClusters_step`),
so the centroids of any labelling have one center for each label (`ordered_of_centroids`), and the place of a label
is where it stands in the list (`Ordered.place?_getElem`).
-/

namespace DensityAudit

/-- The labels of clusters, each once, in ascending order. -/
structure IsClusters (labels : List Label) : Prop where
  ascending : labels.Pairwise (· < ·)
  nonneg : ∀ l ∈ labels, 0 ≤ l

namespace Tally

/-- A credit adds the label of its row to those of the tallies. -/
theorem mem_labels_credit {label l : Label} {point : List Float} {ts : List Tally} :
    l ∈ (credit label point ts).map Tally.label ↔ l = label ∨ l ∈ ts.map Tally.label := by
  induction ts with
  | nil => simp [credit, first, add]
  | cons t rest ih =>
    unfold credit
    split
    case isTrue => simp [first, add]
    case isFalse =>
      split
      case isTrue same => simp [add, same]
      case isFalse => rw [List.map_cons, List.map_cons, List.mem_cons, List.mem_cons, ih, or_left_comm]

/-- A credit leaves the tallies in ascending order. -/
theorem ascending_credit {label : Label} {point : List Float} {ts : List Tally}
    (h : (ts.map Tally.label).Pairwise (· < ·)) : ((credit label point ts).map Tally.label).Pairwise (· < ·) := by
  induction ts with
  | nil => exact List.pairwise_singleton ..
  | cons t rest ih =>
    have ⟨least, tail⟩ := List.pairwise_cons.1 h
    unfold credit
    split
    case isTrue less =>
      refine List.pairwise_cons.2 ⟨fun l member => ?_, h⟩
      rcases List.mem_cons.1 member with rfl | member
      · exact less
      · exact Int.lt_trans less (least l member)
    case isFalse above =>
      split
      case isTrue => exact h
      case isFalse other =>
        refine List.pairwise_cons.2 ⟨fun l member => ?_, ih tail⟩
        rcases mem_labels_credit.1 member with rfl | member
        · exact (Int.lt_or_gt_of_ne other).resolve_left above
        · exact least l member

/-- Every row keeps the labels of the tallies in order. -/
theorem isClusters_step {ts : List Tally} (h : IsClusters (ts.map Tally.label)) (row : List Float × Label) :
    IsClusters ((step ts row).map Tally.label) := by
  unfold step
  split
  case isTrue => exact h
  case isFalse cluster =>
    refine ⟨ascending_credit h.ascending, fun l member => ?_⟩
    rcases mem_labels_credit.1 member with rfl | member
    · exact Int.not_lt.1 cluster
    · exact h.nonneg l member

/-- Any number of rows keeps the tallies those of clusters. -/
theorem isClusters_foldl_step {ts : List Tally} (h : IsClusters (ts.map Tally.label)) (rows : List (List Float × Label)) :
    IsClusters ((rows.foldl step ts).map Tally.label) := by
  induction rows generalizing ts with
  | nil => exact h
  | cons row rest ih => exact ih (isClusters_step h row)

end Tally

namespace Centroids

/-- The center of a cluster, or the empty point if there is none. -/
def centerOf (c : Centroids) (label : Label) : List Float := (c.center? label).getD []

/-- One center for each label, the labels being those of clusters in ascending order. -/
structure Ordered (c : Centroids) : Prop where
  clusters : IsClusters c.labels
  fits : c.centers.rowCount = c.labels.length

/-- A cluster without a center has no place. -/
theorem place?_eq_none_iff {c : Centroids} {label : Label} : c.place? label = none ↔ label ∉ c.labels := by
  rw [place?, List.findIdx?_eq_none_iff]
  constructor
  · intro absent member
    exact absurd (absent label member) (by simp)
  · intro absent l member
    rw [beq_eq_false_iff_ne]
    rintro rfl
    exact absent member

/-- Only clusters have a center. -/
theorem mem_labels_of_center? {c : Centroids} {label : Label} {p : List Float} (found : c.center? label = some p) :
    label ∈ c.labels ∧ c.centerOf label = p := by
  refine ⟨?_, by rw [centerOf, found, Option.getD_some]⟩
  by_contra absent
  rw [center?, place?_eq_none_iff.2 absent] at found
  cases found

namespace Ordered

variable {c : Centroids} (ordered : c.Ordered)
include ordered

theorem nodup : c.labels.Nodup := ordered.clusters.ascending.imp Int.ne_of_lt

/-- Each label is found at its own place. -/
theorem place?_getElem {i : Nat} (inside : i < c.labels.length) : c.place? c.labels[i] = some i := by
  rw [place?, List.findIdx?_eq_some_iff_getElem]
  refine ⟨inside, beq_self_eq_true _, fun j before => ?_⟩
  have less := List.pairwise_iff_getElem.1 ordered.clusters.ascending j i (by omega) inside before
  rw [Bool.not_eq_true, beq_eq_false_iff_ne]
  exact Int.ne_of_lt less

/-- The centers stand in the order of the labels. -/
theorem positions_eq : c.positions = c.labels.map c.centerOf := by
  have rows : c.positions.length = c.labels.length := by rw [positions, Table.length_rows, ordered.fits]
  apply List.ext_getElem
  · rw [rows, List.length_map]
  · intro i inside inside'
    rw [List.length_map] at inside'
    have read : c.centers.row? i = some c.positions[i] := by
      rw [Table.row?_eq_getElem? (by rw [ordered.fits]; exact inside')]
      exact List.getElem?_eq_getElem inside
    rw [List.getElem_map, centerOf, center?, ordered.place?_getElem inside', Option.bind_some, read, Option.getD_some]

/-- Every cluster has a center with a coordinate for each column. -/
theorem center?_eq {label : Label} (member : label ∈ c.labels) :
    c.center? label = some (c.centerOf label) ∧ (c.centerOf label).length = c.centers.columnCount := by
  obtain ⟨i, inside, rfl⟩ := List.mem_iff_getElem.1 member
  have listed : i < c.centers.rows.length := by rwa [Table.length_rows, ordered.fits]
  have read : c.center? c.labels[i] = some c.centers.rows[i] := by
    rw [center?, ordered.place?_getElem inside, Option.bind_some,
      Table.row?_eq_getElem? (by rwa [ordered.fits]), List.getElem?_eq_getElem listed]
  rw [centerOf, read]
  exact ⟨rfl, Table.length_of_mem_rows (List.getElem_mem listed)⟩

end Ordered

end Centroids

/-- There are centroids only if there is a label for each row. -/
theorem rowCount_of_centroids {points : Table Float} {labels : List Label} {c : Centroids}
    (built : centroids points labels = .ok c) : labels.length = points.rowCount := by
  by_contra other
  rw [centroids, if_pos other] at built
  cases built

/-- The centroids of a labelling stand in the order of their labels. -/
theorem ordered_of_centroids {points : Table Float} {labels : List Label} {c : Centroids}
    (built : centroids points labels = .ok c) : c.Ordered := by
  rw [centroids] at built
  split at built
  case isTrue => cases built
  case isFalse =>
    rw [Tally.centroids] at built
    split at built
    case h_1 centers wrapped =>
      cases built
      obtain ⟨-, rows, -⟩ := Table.wrap_eq_ok_iff.1 wrapped
      refine ⟨Tally.isClusters_foldl_step ⟨.nil, fun l member => absurd member List.not_mem_nil⟩ _, ?_⟩
      rw [rows, List.length_map]
    case h_2 => cases built

end DensityAudit
