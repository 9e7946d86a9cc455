import Mathlib.Data.List.Induction
import DensityAudit.Proofs.Quality.Centers
import DensityAudit.Proofs.Table.Arrange

/-!
# Tallies by definition

A tally is the number of the rows of one cluster and the sums of their coordinates, whatever other rows stand between
them. `Tallied` says so of all tallies after some rows, one more row preserves it (`Tallied.step`), and so the
centroids of a labelling are found whenever it has one label per point, each center being the mean of the rows of its
cluster (`exists_centroids`).
-/

namespace DensityAudit

/-- The points of the rows with a label, in the order of the rows. -/
def clusterPoints (rows : List (List Float × Label)) (l : Label) : List (List Float) :=
  (rows.filter fun row => row.2 == l).map Prod.fst

/-- The sums of the coordinates of points, in the order of the points. -/
def coordinateSums (columns : Nat) (points : List (List Float)) : List Float :=
  points.foldl (List.zipWith (· + ·)) (List.replicate columns 0.0)

def meanPoint (columns : Nat) (points : List (List Float)) : List Float :=
  (coordinateSums columns points).map (· / Binary64.ofCount points.length)

theorem clusterPoints_cons (row : List Float × Label) (rows : List (List Float × Label)) (l : Label) :
    clusterPoints (row :: rows) l = if row.2 = l then row.1 :: clusterPoints rows l else clusterPoints rows l := by
  rw [clusterPoints, List.filter_cons]
  by_cases own : row.2 = l
  · rw [if_pos own, if_pos (beq_iff_eq.2 own)]
    rfl
  · rw [if_neg own, if_neg (mt beq_iff_eq.1 own)]
    rfl

theorem clusterPoints_snoc (rows : List (List Float × Label)) (row : List Float × Label) (l : Label) :
    clusterPoints (rows ++ [row]) l = if row.2 = l then clusterPoints rows l ++ [row.1] else clusterPoints rows l := by
  rw [clusterPoints, List.filter_append, List.map_append]
  show clusterPoints rows l ++ clusterPoints [row] l = _
  rw [clusterPoints_cons]
  split
  case isTrue => rfl
  case isFalse => exact List.append_nil _

theorem coordinateSums_snoc (columns : Nat) (points : List (List Float)) (p : List Float) :
    coordinateSums columns (points ++ [p]) = List.zipWith (· + ·) (coordinateSums columns points) p := by
  rw [coordinateSums, List.foldl_append]
  rfl

theorem length_coordinateSums {columns : Nat} {points : List (List Float)} (widths : ∀ p ∈ points, p.length = columns) :
    (coordinateSums columns points).length = columns := by
  induction points using List.reverseRecOn with
  | nil => exact List.length_replicate ..
  | append_singleton points p ih =>
    have before := ih fun q member => widths q (List.mem_append_left _ member)
    have last := widths p (List.mem_append_right _ (List.mem_singleton.2 rfl))
    rw [coordinateSums_snoc, List.length_zipWith, before, last, Nat.min_self]

variable {columns : Nat} {rows : List (List Float × Label)} {ts : List Tally} {l : Label}

/-- The tallies of the clusters of some rows, in ascending order. -/
structure Tallied (columns : Nat) (rows : List (List Float × Label)) (ts : List Tally) : Prop where
  clusters : IsClusters (ts.map Tally.label)
  mem_labels : ∀ l, l ∈ ts.map Tally.label ↔ l ∈ rows.map Prod.snd ∧ 0 ≤ l
  size : ∀ t ∈ ts, t.size = (clusterPoints rows t.label).length
  sums : ∀ t ∈ ts, t.sums = coordinateSums columns (clusterPoints rows t.label)

/-- What is among the tallies after a credit: the tallies of other clusters as they were, and that of the cluster
with one more row. -/
theorem Tally.mem_credit {label : Label} {point : List Float} (ascending : (ts.map Tally.label).Pairwise (· < ·)) {t : Tally}
    (h : t ∈ credit label point ts) :
    (t ∈ ts ∧ t.label ≠ label) ∨ (∃ s ∈ ts, s.label = label ∧ t = s.add point) ∨
      (label ∉ ts.map Tally.label ∧ t = first label point) := by
  induction ts with
  | nil => exact .inr (.inr ⟨List.not_mem_nil, List.mem_singleton.1 h⟩)
  | cons s rest ih =>
    obtain ⟨least, tail⟩ := List.pairwise_cons.1 ascending
    have later : ∀ u ∈ rest, s.label < u.label := fun u member => least _ (List.mem_map_of_mem member)
    unfold credit at h
    split at h
    case isTrue less =>
      have fresh : ∀ u ∈ s :: rest, label < u.label := by
        intro u member
        rcases List.mem_cons.1 member with rfl | member
        · exact less
        · exact Int.lt_trans less (later u member)
      rcases List.mem_cons.1 h with new | old
      · refine .inr (.inr ⟨fun member => ?_, new⟩)
        obtain ⟨u, inside, rfl⟩ := List.mem_map.1 member
        exact Int.lt_irrefl _ (fresh u inside)
      · exact .inl ⟨old, (Int.ne_of_lt (fresh t old)).symm⟩
    case isFalse above =>
      split at h
      case isTrue same =>
        rcases List.mem_cons.1 h with new | old
        · exact .inr (.inl ⟨s, List.mem_cons_self .., same.symm, new⟩)
        · refine .inl ⟨.tail _ old, ?_⟩
          rw [same]
          exact (Int.ne_of_lt (later t old)).symm
      case isFalse other =>
        rcases List.mem_cons.1 h with rfl | h
        · exact .inl ⟨List.mem_cons_self .., Ne.symm other⟩
        · rcases ih tail h with ⟨member, unlike⟩ | ⟨u, member, own, added⟩ | ⟨absent, new⟩
          · exact .inl ⟨.tail _ member, unlike⟩
          · exact .inr (.inl ⟨u, .tail _ member, own, added⟩)
          · refine .inr (.inr ⟨fun member => ?_, new⟩)
            rcases List.mem_cons.1 member with own | member
            · exact other own
            · exact absent member

namespace Tallied

theorem nil : Tallied columns [] [] where
  clusters := ⟨.nil, nofun⟩
  mem_labels _ := iff_of_false nofun fun h => nomatch h.1
  size := nofun
  sums := nofun

/-- A tally of a new cluster is that of its only row. -/
theorem clusterPoints_eq_nil (h : Tallied columns rows ts) (cluster : 0 ≤ l) (absent : l ∉ ts.map Tally.label) :
    clusterPoints rows l = [] := by
  have none : rows.filter (fun row => row.2 == l) = [] := by
    rw [List.filter_eq_nil_iff]
    intro row member own
    rw [beq_iff_eq] at own
    rw [h.mem_labels, ← own] at absent
    exact absent ⟨List.mem_map_of_mem member, own ▸ cluster⟩
  rw [clusterPoints, none]
  rfl

/-- One more row keeps the tallies those of the rows so far. -/
theorem step (h : Tallied columns rows ts) {row : List Float × Label} (width : row.1.length = columns) :
    Tallied columns (rows ++ [row]) (Tally.step ts row) := by
  have clusters := Tally.isClusters_step h.clusters row
  by_cases noisy : row.2 < 0
  · rw [Tally.step, if_pos noisy] at clusters ⊢
    have kept : ∀ t ∈ ts, clusterPoints (rows ++ [row]) t.label = clusterPoints rows t.label := by
      intro t member
      have cluster := h.clusters.nonneg t.label (List.mem_map_of_mem member)
      rw [clusterPoints_snoc, if_neg]
      rintro same
      exact Int.not_lt.2 cluster (same ▸ noisy)
    refine ⟨clusters, fun l => ?_, fun t member => ?_, fun t member => ?_⟩
    · rw [h.mem_labels, List.map_append, List.mem_append, or_and_right, List.map_singleton, List.mem_singleton]
      refine (or_iff_left ?_).symm
      rintro ⟨rfl, cluster⟩
      exact Int.not_lt.2 cluster noisy
    · rw [kept t member, h.size t member]
    · rw [kept t member, h.sums t member]
  · have cluster := Int.not_lt.1 noisy
    rw [Tally.step, if_neg noisy] at clusters ⊢
    have each : ∀ t ∈ Tally.credit row.2 row.1 ts, t.size = (clusterPoints (rows ++ [row]) t.label).length ∧
        t.sums = coordinateSums columns (clusterPoints (rows ++ [row]) t.label) := by
      intro t member
      rw [clusterPoints_snoc]
      rcases Tally.mem_credit h.clusters.ascending member with ⟨old, other⟩ | ⟨s, old, own, rfl⟩ | ⟨absent, rfl⟩
      · rw [if_neg (Ne.symm other)]
        exact ⟨h.size t old, h.sums t old⟩
      · have label : row.2 = (s.add row.1).label := own.symm
        rw [if_pos label, List.length_append, coordinateSums_snoc]
        exact ⟨congrArg (· + 1) (h.size s old), congrArg (List.zipWith _ · row.1) (h.sums s old)⟩
      · have label : row.2 = (Tally.first row.2 row.1).label := rfl
        rw [if_pos label, ← label, h.clusterPoints_eq_nil cluster absent, ← width]
        exact ⟨rfl, rfl⟩
    refine ⟨clusters, fun l => ?_, fun t member => (each t member).1, fun t member => (each t member).2⟩
    rw [Tally.mem_labels_credit, h.mem_labels, List.map_append, List.mem_append, List.map_singleton, List.mem_singleton]
    constructor
    · rintro (rfl | ⟨member, nonneg⟩)
      · exact ⟨.inr rfl, cluster⟩
      · exact ⟨.inl member, nonneg⟩
    · rintro ⟨member | rfl, nonneg⟩
      · exact .inr ⟨member, nonneg⟩
      · exact .inl rfl

/-- More rows, one after another, keep the tallies those of the rows so far. -/
theorem foldl_step (h : Tallied columns rows ts) {more : List (List Float × Label)}
    (widths : ∀ row ∈ more, row.1.length = columns) : Tallied columns (rows ++ more) (more.foldl Tally.step ts) := by
  induction more generalizing rows ts with
  | nil => rwa [List.append_nil]
  | cons row rest ih =>
    have later := ih (h.step (widths row (List.mem_cons_self ..))) fun other member => widths other (.tail _ member)
    rwa [List.append_assoc, List.singleton_append] at later

end Tallied

variable {points : Table Float} {labels : List Label} {c : Centroids}

/-- The tallies of a labelling are those of all its rows. -/
theorem tallied_tallies (points : Table Float) (labels : List Label) :
    Tallied points.columnCount (points.rows.zip labels) (tallies points labels) :=
  Tallied.nil.foldl_step fun _ member => Table.length_of_mem_rows (List.of_mem_zip member).1

/-! ### Centroids -/

/-- The number of rows of a cluster, if it has a center. -/
def Centroids.size? (c : Centroids) (label : Label) : Option Nat := (c.place? label).bind fun i => c.sizes[i]?

/-- The centroids are those of the clusters of a labelling: one for each label that is not negative, with the number of
its rows and their mean. -/
structure CentersOf (points : Table Float) (labels : List Label) (c : Centroids) : Prop where
  ordered : c.Ordered
  mem_labels : ∀ l, l ∈ c.labels ↔ l ∈ labels ∧ 0 ≤ l
  columns : c.centers.columnCount = points.columnCount
  size : ∀ l ∈ c.labels, c.size? l = some (clusterPoints (points.rows.zip labels) l).length
  center : ∀ l ∈ c.labels, c.centerOf l = meanPoint points.columnCount (clusterPoints (points.rows.zip labels) l)

theorem clusterPoints_widths : ∀ p ∈ clusterPoints (points.rows.zip labels) l, p.length = points.columnCount := by
  intro p member
  obtain ⟨row, kept, rfl⟩ := List.mem_map.1 member
  exact Table.length_of_mem_rows (List.of_mem_zip (List.mem_filter.1 kept).1).1

/-- The mean of a tally of the rows of a cluster. -/
theorem Tallied.mean_eq (h : Tallied columns rows ts) {t : Tally} (member : t ∈ ts) :
    t.mean = meanPoint columns (clusterPoints rows t.label) := by
  rw [Tally.mean, h.sums t member, h.size t member]
  rfl

/-- A labelling with one label per point has centroids, the means of its clusters. -/
theorem exists_centroids (fits : labels.length = points.rowCount) :
    ∃ c, centroids points labels = .ok c ∧ CentersOf points labels c := by
  have tallied := tallied_tallies points labels
  have widths : ∀ row ∈ (tallies points labels).map Tally.mean, row.length = points.columnCount := by
    intro row member
    obtain ⟨t, inside, rfl⟩ := List.mem_map.1 member
    rw [tallied.mean_eq inside, meanPoint, List.length_map, length_coordinateSums clusterPoints_widths]
  -- centers without columns would be refused as a table, but points without columns have no rows
  have none : points.columnCount = 0 → (tallies points labels).map Tally.mean = [] := by
    intro empty
    have rows : points.rows = [] := Table.rows_eq_nil_of_no_columns empty
    rw [tallies, rows]
    rfl
  let centers := Table.ofWidth points.columnCount ((tallies points labels).map Tally.mean) widths none
  have wrapped : Table.wrap ((tallies points labels).map Tally.mean).flatten (tallies points labels).length
      points.columnCount = .ok centers := Table.wrap_eq_ok_iff.2 ⟨rfl, List.length_map .., rfl⟩
  have built : centroids points labels =
      .ok ⟨(tallies points labels).map Tally.label, (tallies points labels).map Tally.size, centers⟩ := by
    rw [centroids, if_neg (not_not_intro fits), Tally.centroids, wrapped]
  have ordered := ordered_of_centroids built
  refine ⟨_, built, ordered, fun l => ?mem_labels, rfl, ?size, ?center⟩
  case mem_labels =>
    have columns : (points.rows.zip labels).map Prod.snd = labels :=
      List.map_snd_zip (Nat.le_of_eq (by rw [Table.length_rows, fits]))
    rw [tallied.mem_labels, columns]
  case size =>
    intro l member
    obtain ⟨i, inside, rfl⟩ := List.mem_iff_getElem.1 member
    rw [Centroids.size?, ordered.place?_getElem inside]
    rw [List.length_map] at inside
    simp only [Option.bind_some, List.getElem?_map, List.getElem_map, List.getElem?_eq_getElem inside, Option.map_some]
    rw [tallied.size _ (List.getElem_mem inside)]
  case center =>
    have positions := ordered.positions_eq
    rw [Centroids.positions, Table.rows_ofWidth, List.map_map, List.map_inj_left] at positions
    intro l member
    obtain ⟨t, inside, rfl⟩ := List.mem_map.1 member
    rw [← tallied.mean_eq inside, positions t inside]
    rfl

/-- The centroids of a labelling are those of its clusters. -/
theorem centersOf_of_centroids (built : centroids points labels = .ok c) : CentersOf points labels c := by
  obtain ⟨c', built', centers⟩ := exists_centroids (rowCount_of_centroids built)
  rw [built] at built'
  cases built'
  exact centers

end DensityAudit
