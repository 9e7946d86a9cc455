import DensityAudit.Proofs.Doubles.Defined
import DensityAudit.Proofs.Quality.Renaming

/-!
# Similarities behind a finite index

A worst similarity is a running maximum that starts at zero, so a similarity that is undefined passes unseen. Which
similarities are defined can still be told from a finite index: those of clusters whose scatters have a finite sum, and
no others (`similarity_of_score`). A finite scatter has a finite center behind it (`isFinite_center`), so the distance of
two such centers is defined. The other way round, a similarity that is defined is at most the worst one, which the finite
index bounds, so it is finite itself and so is the sum that it is made of.
-/

namespace DensityAudit

open Binary64 (Taints)

/-! ### Distances -/

section

variable {p q : List Float}

theorem squaredDistance_eq (p q : List Float) :
    squaredDistance p q = ((p.zip q).map fun z => (z.1 - z.2) * (z.1 - z.2)).foldl (· + ·) 0.0 := by
  rw [squaredDistance, List.map_zip_eq_zipWith]
  rfl

/-- A difference of coordinates that is undefined or infinite makes the distance so. -/
theorem taints_distance {z : Float × Float} (member : z ∈ p.zip q) : Taints (z.1 - z.2) (distance p q) := by
  have sum : Taints ((z.1 - z.2) * (z.1 - z.2)) (squaredDistance p q) := by
    rw [squaredDistance_eq]
    exact (Taints.foldl_add _ 0.0).2 _ (List.mem_map_of_mem member)
  exact ((Taints.mul_self _).trans sum).trans (Taints.sqrt _)

/-- If the differences of coordinates are defined, so is the distance, and it is not negative. -/
theorem distance_nonneg_of_sub (defined : ∀ z ∈ p.zip q, (z.1 - z.2).isNaN = false) : 0.0 ≤ distance p q := by
  apply Binary64.sqrt_nonneg
  rw [squaredDistance_eq]
  refine (Binary64.le_foldl_add (fun v member => ?_) Binary64.zero_le_zero).1
  obtain ⟨z, inside, rfl⟩ := List.mem_map.1 member
  exact Binary64.zero_le_square (defined z inside)

/-- A distance that is defined is not negative. -/
theorem distance_nonneg (defined : (distance p q).isNaN = false) : 0.0 ≤ distance p q :=
  distance_nonneg_of_sub fun _ member => (taints_distance member).defined defined

/-- Points with finite coordinates have a distance. -/
theorem distance_nonneg_of_isFinite (finite : ∀ x ∈ p, x.isFinite = true) (finite' : ∀ y ∈ q, y.isFinite = true) :
    0.0 ≤ distance p q := by
  apply distance_nonneg_of_sub
  intro z member
  obtain ⟨left, right⟩ := List.of_mem_zip member
  exact Binary64.isNaN_sub_of_isFinite (finite _ left) (finite' _ right)

/-- A point at a finite distance from a point with as many coordinates has finite coordinates. -/
theorem isFinite_of_distance (finite : (distance p q).isFinite = true) (fits : q.length ≤ p.length) :
    ∀ y ∈ q, y.isFinite = true := by
  intro y member
  rw [← List.map_snd_zip fits] at member
  obtain ⟨z, inside, rfl⟩ := List.mem_map.1 member
  exact ((Taints.sub_right z.1 z.2).trans (taints_distance inside)).finite finite

end

/-! ### Scatters -/

variable {points : Table Float} {labels : List Label} {c : Centroids} {l a b : Label}

/-- A distance that is undefined or infinite makes the scatter so. -/
theorem taints_scatter {d : Float} (member : d ∈ clusterDistances points c labels l) :
    Taints d (clusterScatter points c labels l) := by
  have some : (clusterDistances points c labels l).isEmpty = false := by
    rw [List.isEmpty_eq_false_iff]
    exact List.ne_nil_of_mem member
  simp only [clusterScatter, some, Bool.false_eq_true, if_false]
  exact ((Taints.foldl_add _ 0.0).2 d member).trans (Taints.dividend ..)

theorem clusterScatter_nonneg (defined : (clusterScatter points c labels l).isNaN = false) :
    0.0 ≤ clusterScatter points c labels l := by
  have distances : ∀ d ∈ clusterDistances points c labels l, 0.0 ≤ d := by
    intro d member
    have number := (taints_scatter member).defined defined
    obtain ⟨row, -, rfl⟩ := List.mem_map.1 member
    exact distance_nonneg number
  have total := (Binary64.le_foldl_add distances Binary64.zero_le_zero).1
  simp only [clusterScatter] at defined ⊢
  split
  case isTrue => exact Binary64.zero_le_zero
  case isFalse some =>
    have positive : 0 < (clusterDistances points c labels l).length := by
      rwa [List.length_pos_iff, ne_eq, ← List.isEmpty_iff]
    rw [if_neg some] at defined
    exact Binary64.div_nonneg total (Binary64.ofCount_nonneg _) (Binary64.ofCount_beq_zero positive) defined

/-- Every cluster has a row. -/
theorem exists_mem_clusterPoints (fits : labels.length = points.rowCount) (member : l ∈ labels) :
    ∃ p, p ∈ clusterPoints (points.rows.zip labels) l := by
  rw [← map_snd_zip points fits] at member
  obtain ⟨row, inside, rfl⟩ := List.mem_map.1 member
  exact ⟨row.1, List.mem_map_of_mem (List.mem_filter.2 ⟨inside, beq_self_eq_true _⟩)⟩

/-- A cluster with a finite scatter has a center with finite coordinates. -/
theorem isFinite_center (fits : labels.length = points.rowCount) (centers : CentersOf points labels c)
    (member : l ∈ c.labels) (finite : (clusterScatter points c labels l).isFinite = true) : ∀ y ∈ c.centerOf l, y.isFinite = true := by
  obtain ⟨p, inside⟩ := exists_mem_clusterPoints fits ((centers.mem_labels l).1 member).1
  have width : (c.centerOf l).length = p.length := by
    rw [centers.center l member, meanPoint, List.length_map, length_coordinateSums clusterPoints_widths,
      clusterPoints_widths p inside]
  have far : distance p (c.centerOf l) ∈ clusterDistances points c labels l := by
    rw [clusterDistances_eq]
    exact List.mem_map_of_mem inside
  exact isFinite_of_distance ((taints_scatter far).finite finite) width.le

/-! ### Similarities -/

section

variable (apart : (distance (c.centerOf a) (c.centerOf b) == 0.0) = false)
include apart

/-- Clusters whose scatters have a finite sum have a similarity. -/
theorem isNaN_clusterSimilarity (fits : labels.length = points.rowCount) (centers : CentersOf points labels c)
    (first : a ∈ c.labels) (second : b ∈ c.labels)
    (finite : (clusterScatter points c labels a + clusterScatter points c labels b).isFinite = true) :
    (clusterSimilarity points c labels a b).isNaN = false := by
  have center := isFinite_center fits centers first ((Taints.add_left ..).finite finite)
  have center' := isFinite_center fits centers second ((Taints.add_right ..).finite finite)
  have separation := (Binary64.zero_le_iff.1 (distance_nonneg_of_isFinite center center')).1
  exact Binary64.isNaN_div_of_isFinite finite separation apart

/-- A similarity that is defined is not negative. -/
theorem clusterSimilarity_nonneg (defined : (clusterSimilarity points c labels a b).isNaN = false) :
    0.0 ≤ clusterSimilarity points c labels a b := by
  have sum : (clusterScatter points c labels a + clusterScatter points c labels b).isNaN = false :=
    (Taints.dividend _ (distance (c.centerOf a) (c.centerOf b))).defined defined
  have scatter := clusterScatter_nonneg ((Taints.add_left ..).defined sum)
  have scatter' := clusterScatter_nonneg ((Taints.add_right ..).defined sum)
  have separation := distance_nonneg (Binary64.defined_of_div defined)
  exact Binary64.div_nonneg (Binary64.add_nonneg scatter scatter') separation apart defined

omit apart in
/-- A finite similarity is that of clusters whose scatters have a finite sum. -/
theorem isFinite_scatters (finite : (clusterSimilarity points c labels a b).isFinite = true) :
    (clusterScatter points c labels a + clusterScatter points c labels b).isFinite = true :=
  (Taints.dividend _ (distance (c.centerOf a) (c.centerOf b))).finite finite

end

/-! ### Worst similarities -/

/-- A worst similarity is never below zero, nor a negative zero. -/
theorem unsigned_clusterWorst (points : Table Float) (c : Centroids) (labels : List Label) (l : Label) :
    Binary64.Unsigned (clusterWorst points c labels l) :=
  Binary64.unsigned_zero.foldl_maximum _

/-- The worst similarity is at least each one that is defined. -/
theorem clusterSimilarity_le_worst (second : b ∈ c.labels) (other : b ≠ a)
    (defined : (clusterSimilarity points c labels a b).isNaN = false) :
    clusterSimilarity points c labels a b ≤ clusterWorst points c labels a := by
  have listed : b ∈ c.labels.filter fun m => m != a := List.mem_filter.2 ⟨second, bne_iff_ne.2 other⟩
  exact (Binary64.le_foldl_maximum Binary64.unsigned_zero _).2 _ (List.mem_map_of_mem listed) defined

/-- Behind a finite index every worst similarity is finite. -/
theorem isFinite_clusterWorst (finite : (clusterIndex points c labels).isFinite = true) (member : l ∈ c.labels) :
    (clusterWorst points c labels l).isFinite = true := by
  have total := (Taints.dividend _ (Binary64.ofCount c.count)).finite finite
  have nonneg : ∀ v ∈ c.labels.map (clusterWorst points c labels), 0.0 ≤ v := by
    intro v inside
    obtain ⟨m, -, rfl⟩ := List.mem_map.1 inside
    exact (unsigned_clusterWorst points c labels m).nonneg
  have below := (Binary64.le_foldl_add nonneg Binary64.zero_le_zero).2 _ (List.mem_map_of_mem member)
  exact Binary64.isFinite_of_le (unsigned_clusterWorst points c labels l).nonneg below total

/-- Behind a finite index every similarity that is defined is finite. -/
theorem isFinite_clusterSimilarity (finite : (clusterIndex points c labels).isFinite = true) (first : a ∈ c.labels)
    (second : b ∈ c.labels) (other : b ≠ a) (apart : (distance (c.centerOf a) (c.centerOf b) == 0.0) = false)
    (defined : (clusterSimilarity points c labels a b).isNaN = false) :
    (clusterSimilarity points c labels a b).isFinite = true :=
  Binary64.isFinite_of_le (clusterSimilarity_nonneg apart defined) (clusterSimilarity_le_worst second other defined)
    (isFinite_clusterWorst finite first)

/-- Behind a finite index a similarity is defined iff the scatters have a finite sum. -/
theorem isNaN_clusterSimilarity_iff (fits : labels.length = points.rowCount) (centers : CentersOf points labels c)
    (finite : (clusterIndex points c labels).isFinite = true) (first : a ∈ c.labels) (second : b ∈ c.labels)
    (other : b ≠ a) (apart : (distance (c.centerOf a) (c.centerOf b) == 0.0) = false) :
    (clusterSimilarity points c labels a b).isNaN = false ↔
      (clusterScatter points c labels a + clusterScatter points c labels b).isFinite = true :=
  ⟨fun defined => isFinite_scatters (isFinite_clusterSimilarity finite first second other apart defined),
    isNaN_clusterSimilarity apart fits centers first second⟩

theorem exists_other (ordered : c.Ordered) (enough : 2 ≤ c.count) (a : Label) : ∃ b ∈ c.labels, b ≠ a := by
  have first : 0 < c.labels.length := Nat.lt_of_lt_of_le Nat.zero_lt_two enough
  have second : 1 < c.labels.length := enough
  have distinct : c.labels[0] ≠ c.labels[1] := fun same => absurd (ordered.nodup.getElem_inj_iff.1 same) Nat.zero_ne_one
  by_cases same : c.labels[0] = a
  · exact ⟨c.labels[1], List.getElem_mem second, fun same' => distinct (same.trans same'.symm)⟩
  · exact ⟨c.labels[0], List.getElem_mem first, same⟩

/-- If every similarity of a cluster is defined, the worst one is one of them, up to the sign of zero. -/
theorem exists_clusterWorst (some : ∃ b ∈ c.labels, b ≠ a)
    (apart : ∀ b ∈ c.labels, b ≠ a → (distance (c.centerOf a) (c.centerOf b) == 0.0) = false)
    (defined : ∀ b ∈ c.labels, b ≠ a → (clusterSimilarity points c labels a b).isNaN = false) :
    ∃ b ∈ c.labels, b ≠ a ∧ (clusterWorst points c labels a == clusterSimilarity points c labels a b) = true := by
  have worst := Binary64.zero_le_iff.1 (unsigned_clusterWorst points c labels a).nonneg
  rcases Binary64.foldl_maximum_cases Binary64.unsigned_zero
    ((c.labels.filter fun m => m != a).map (clusterSimilarity points c labels a)) with zero | member
  · -- the maximum never left zero, so any other cluster has a similarity of zero
    obtain ⟨b, second, other⟩ := some
    have number := defined b second other
    have above := (Binary64.le_iff_units.1 (clusterSimilarity_nonneg (apart b second other) number)).2.2
    have below := (Binary64.le_iff_units.1 (clusterSimilarity_le_worst second other number)).2.2
    have same : clusterWorst points c labels a = 0.0 := zero
    rw [same] at below
    refine ⟨b, second, other, (Binary64.beq_iff_units worst.1 number).2 ?_⟩
    rw [same]
    omega
  · obtain ⟨b, listed, same⟩ := List.mem_map.1 member
    obtain ⟨second, other⟩ := List.mem_filter.1 listed
    have equal : clusterSimilarity points c labels a b = clusterWorst points c labels a := same
    refine ⟨b, second, bne_iff_ne.1 other, ?_⟩
    rw [equal]
    exact (Binary64.beq_iff_units worst.1 worst.1).2 rfl

/-! ### The index -/

/-- The worst similarity of a cluster is the largest of its similarities to the other clusters. -/
structure Ball.WorstIsLargest (clusters : List Ball) (x : Ball) : Prop where
  above : ∀ y ∈ clusters, y.label ≠ x.label → x.similarity y ≤ Ball.worst clusters x
  attained : ∃ y ∈ clusters, y.label ≠ x.label ∧ (Ball.worst clusters x == x.similarity y) = true

/-- Where all similarities are defined the worst one is the largest. -/
theorem worstIsLargest_clusterBall (some : ∃ b ∈ c.labels, b ≠ a)
    (apart : ∀ b ∈ c.labels, b ≠ a → (distance (c.centerOf a) (c.centerOf b) == 0.0) = false)
    (defined : ∀ b ∈ c.labels, b ≠ a → (clusterSimilarity points c labels a b).isNaN = false) :
    Ball.WorstIsLargest (c.labels.map (clusterBall points c labels)) (clusterBall points c labels a) := by
  constructor
  case above =>
    intro y inside other
    obtain ⟨b, second, rfl⟩ := List.mem_map.1 inside
    rw [worst_eq]
    exact clusterSimilarity_le_worst second other (defined b second other)
  case attained =>
    obtain ⟨b, second, other, same⟩ := exists_clusterWorst some apart defined
    refine ⟨_, List.mem_map_of_mem second, other, ?_⟩
    rw [worst_eq]
    exact same

/-- Clusters that are scored have no coincident centers. -/
theorem apart_of_score (centers : CentersOf points labels c) {s : Float}
    (scored : Ball.index (c.labels.map (clusterBall points c labels)) = .ok s) :
    s = clusterIndex points c labels ∧
      ∀ a ∈ c.labels, ∀ b ∈ c.labels, b ≠ a → (distance (c.centerOf a) (c.centerOf b) == 0.0) = false := by
  rw [Ball.index] at scored
  rcases coincident?_cases centers.ordered points labels with ⟨none, apart⟩ | ⟨a, b, found, -⟩
  · rw [none, meanWorst_eq] at scored
    cases scored
    refine ⟨rfl, fun a first b second other => ?_⟩
    by_contra zero
    obtain ⟨a', b', together⟩ := exists_coincide_iff.2 ⟨a, first, b, second, other.symm, Bool.not_eq_false _ ▸ zero⟩
    exact apart a' b' together
  · rw [found] at scored
    cases scored

/-- Behind a finite index the similarity of two clusters is defined iff their scatters have a finite sum. If that holds of
a cluster and all others, its worst similarity is the largest one. -/
theorem similarity_of_score (points : Table Float) (labels : List Label) (s : Float)
    (scored : quality points labels = .ok s) (finite : s.isFinite = true) :
    ∃ c clusters, Measured points labels c clusters ∧ s = Ball.meanWorst clusters ∧ ∀ x ∈ clusters,
      (∀ y ∈ clusters, y.label ≠ x.label → ((x.similarity y).isNaN = false ↔ (x.scatter + y.scatter).isFinite = true)) ∧
      ((∀ y ∈ clusters, y.label ≠ x.label → (x.scatter + y.scatter).isFinite = true) → Ball.WorstIsLargest clusters x) := by
  have fits : labels.length = points.rowCount := by
    by_contra other
    rw [quality_of_labelCount other] at scored
    cases scored
  obtain ⟨c, built, centers⟩ := exists_centroids fits
  rw [quality_of_centers fits built centers] at scored
  split at scored
  case isTrue => cases scored
  case isFalse enough =>
    obtain ⟨rfl, apart⟩ := apart_of_score centers scored
    have enough : 2 ≤ c.count := Nat.not_lt.1 enough
    have defined_iff := fun a first b second other =>
      isNaN_clusterSimilarity_iff fits centers finite first second other (apart a first b second other)
    refine ⟨c, _, measured_of_centers built centers, meanWorst_eq.symm, fun x inside => ?_⟩
    obtain ⟨a, first, rfl⟩ := List.mem_map.1 inside
    refine ⟨fun y inside' => ?_, fun sums => ?_⟩
    · obtain ⟨b, second, rfl⟩ := List.mem_map.1 inside'
      exact defined_iff a first b second
    · refine worstIsLargest_clusterBall (exists_other centers.ordered enough a) (apart a first) fun b second other => ?_
      exact (defined_iff a first b second other).2 (sums (clusterBall points c labels b) (List.mem_map_of_mem second) other)

theorem similarity_of_score_corners : ∃ s c clusters, quality corners [3, 3, 7, 7] = .ok s ∧ s.isFinite = true ∧
    Measured corners [3, 3, 7, 7] c clusters ∧ ∀ x ∈ clusters, ∀ y ∈ clusters, y.label ≠ x.label →
      ((x.similarity y).isNaN = false ↔ (x.scatter + y.scatter).isFinite = true) := by
  have checked : (quality corners [3, 3, 7, 7]).toOption.any Float.isFinite = true := by decide +kernel
  cases scored : quality corners [3, 3, 7, 7] with
  | error cause => rw [scored] at checked; cases checked
  | ok s =>
    rw [scored] at checked
    obtain ⟨c, clusters, measured, -, each⟩ := similarity_of_score corners [3, 3, 7, 7] s scored checked
    exact ⟨s, c, clusters, rfl, checked, measured, fun x inside => (each x inside).1⟩

/-- Three rows on a line, the last one so far from the others that squared distances are infinite. -/
def farRows : Table Float := Table.column [1e200, -1e200, 1e300]

/-- The clusters of a labelling, if they can be measured. -/
def measured? (points : Table Float) (labels : List Label) : Option (List Ball) :=
  match centroids points labels with
  | .ok c =>
    match spreads points c labels with
    | .ok found => some (balls c found)
    | .error _ => none
  | .error _ => none

theorem exists_measured {clusters : List Ball} (found : measured? points labels = some clusters) :
    ∃ c, Measured points labels c clusters := by
  unfold measured? at found
  split at found
  case h_1 c built =>
    split at found
    case h_1 spread seen =>
      cases found
      exact ⟨c, built, spread, seen, rfl⟩
    case h_2 => cases found
  case h_2 => cases found

/-- The first two rows, one cluster, and the last one have the finite index zero and no similarity. -/
theorem similarity_undefined_farRows : (∀ v ∈ farRows.values, v.isFinite = true) ∧
    ∃ s c clusters, quality farRows [0, 0, 1] = .ok s ∧ s.isFinite = true ∧ Measured farRows [0, 0, 1] c clusters ∧
      ∃ x ∈ clusters, ∃ y ∈ clusters, y.label ≠ x.label ∧ (x.similarity y).isNaN = true := by
  refine ⟨by decide +kernel, ?_⟩
  have finite : (quality farRows [0, 0, 1]).toOption.any Float.isFinite = true := by decide +kernel
  have undefined : ((measured? farRows [0, 0, 1]).any fun clusters =>
      clusters.any fun x => clusters.any fun y => y.label != x.label && (x.similarity y).isNaN) = true := by
    decide +kernel
  cases scored : quality farRows [0, 0, 1] with
  | error cause => rw [scored] at finite; cases finite
  | ok s =>
    rw [scored] at finite
    cases found : measured? farRows [0, 0, 1] with
    | none => rw [found] at undefined; cases undefined
    | some clusters =>
      obtain ⟨c, measured⟩ := exists_measured found
      rw [found, Option.any_some] at undefined
      simp only [List.any_eq_true, Bool.and_eq_true, bne_iff_ne] at undefined
      obtain ⟨x, inside, y, inside', other, none⟩ := undefined
      exact ⟨s, c, clusters, rfl, finite, measured, x, inside, y, inside', other, none⟩

end DensityAudit
