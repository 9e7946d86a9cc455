import DensityAudit.Proofs.Doubles.Vanishing
import DensityAudit.Proofs.Quality.Similarity

/-!
# Coincident centers

Centers coincide for the index if their distance is zero, that is, if the square of every difference of coordinates is
(`distance_beq_zero_iff`). Squares of small differences are zero as well, so coordinates that coincide are less than two
to the power of minus 537 apart, and the same number only from a certain magnitude on (`Indistinct`). Up to two to the
power of minus 538 apart they coincide (`Touching`). Which clusters an index without value names is said in
`coincident_centers`.
-/

namespace DensityAudit

open Binary64 (value)

/-- What is known of two coordinates that coincide. -/
structure Indistinct (x y : Float) : Prop where
  finite : x.isFinite = true ∧ y.isFinite = true
  close : |value x - value y| < 2 ^ (-537 : ℤ)
  /-- Coordinates that are not tiny are the same number. -/
  equal : 2 ^ (-485 : ℤ) < |value x| ∨ 2 ^ (-485 : ℤ) < |value y| → value x = value y

/-- What makes two coordinates coincide. -/
structure Touching (x y : Float) : Prop where
  finite : x.isFinite = true ∧ y.isFinite = true
  close : |value x - value y| ≤ 2 ^ (-538 : ℤ)

variable {x y : Float}

/-- Coordinates whose difference has a square of zero are indistinct. -/
theorem indistinct_of_square (zero : ((x - y) * (x - y) == 0.0) = true) : Indistinct x y := by
  obtain ⟨finite, close⟩ := Binary64.natAbs_sub_lt_of_square zero
  refine ⟨finite, (Binary64.abs_value_sub_lt_zpow_iff (n := 537) (by decide)).2 close, fun large => ?_⟩
  have units : 2 ^ 589 < (Binary64.units x).natAbs ∨ 2 ^ 589 < (Binary64.units y).natAbs := by
    simpa only [← not_le, Binary64.abs_value_le_zpow_iff (n := 589) (show (-485 : ℤ) + 1074 = _ by decide)] using large
  exact Binary64.value_eq_iff.2 (Binary64.units_eq_of_close finite.1 finite.2 close units)

/-- The difference of touching coordinates has a square of zero. -/
theorem Touching.square (h : Touching x y) : ((x - y) * (x - y) == 0.0) = true :=
  Binary64.square_beq_zero_of_close h.finite.1 h.finite.2
    ((Binary64.abs_value_sub_le_zpow_iff (n := 536) (by decide)).1 h.close)

/-- A finite coordinate touches itself. -/
theorem touching_self (finite : x.isFinite = true) : Touching x x where
  finite := ⟨finite, finite⟩
  close := by
    rw [sub_self, abs_zero]
    positivity

/-! ### Distances that are zero -/

section

variable {p q : List Float}

/-- A distance is zero iff the square of every difference of coordinates is. -/
theorem distance_beq_zero_iff :
    (distance p q == 0.0) = true ↔ ∀ z ∈ p.zip q, ((z.1 - z.2) * (z.1 - z.2) == 0.0) = true := by
  have squares (nonneg : ∀ z ∈ p.zip q, 0.0 ≤ (z.1 - z.2) * (z.1 - z.2)) :
      (distance p q == 0.0) = true ↔ ∀ z ∈ p.zip q, ((z.1 - z.2) * (z.1 - z.2) == 0.0) = true := by
    rw [distance, Binary64.sqrt_beq_zero, squaredDistance_eq,
      Binary64.foldl_add_beq_zero_iff (List.forall_mem_map.2 nonneg), List.forall_mem_map]
  constructor
  · intro zero
    refine (squares fun z member => ?_).1 zero
    exact Binary64.zero_le_square ((taints_distance member).defined (Binary64.beq_zero_iff.1 zero).1)
  · intro zeros
    refine (squares fun z member => ?_).2 zeros
    obtain ⟨defined, none⟩ := Binary64.beq_zero_iff.1 (zeros z member)
    exact Binary64.zero_le_iff.2 ⟨defined, none.ge⟩

/-- Points at no distance are indistinct in every coordinate. -/
theorem indistinct_of_distance (width : p.length = q.length) (zero : (distance p q == 0.0) = true) :
    List.Forall₂ Indistinct p q := by
  refine List.forall₂_iff_zip.2 ⟨width, fun {x y} member => ?_⟩
  have square := distance_beq_zero_iff.1 zero (x, y) member
  exact indistinct_of_square square

/-- Points that touch in every coordinate are at no distance. -/
theorem distance_beq_zero_of_touching (touching : List.Forall₂ Touching p q) : (distance p q == 0.0) = true := by
  refine distance_beq_zero_iff.2 fun (x, y) member => ?_
  have near : Touching x y := List.forall₂_zip touching member
  exact near.square

end

/-! ### Centers -/

variable {points : Table Float} {labels : List Label} {c : Centroids} {l a b : Label} {p q : List Float}

/-- Different clusters with coincident centers are more than one. -/
theorem Coincide.two_le_count (together : Coincide c.labels c.centerOf a b) : 2 ≤ c.count := by
  obtain ⟨i, inside, same⟩ := List.mem_iff_getElem.1 together.first
  obtain ⟨j, inside', same'⟩ := List.mem_iff_getElem.1 together.second
  have different : i ≠ j := by
    rintro rfl
    exact Int.ne_of_lt together.before (same.symm.trans same')
  rw [Centroids.count]
  omega

/-! ### The index -/

/-- The clusters that are named have coincident centers. -/
theorem coincide_of_quality (failed : quality points labels = .error (.undefinedQuality (.coincidentCentroids a b))) :
    ∃ c, centroids points labels = .ok c ∧ Coincide c.labels c.centerOf a b := by
  have fits : labels.length = points.rowCount := by
    by_contra other
    rw [quality_of_labelCount other] at failed
    cases failed
  obtain ⟨c, built, centers⟩ := exists_centroids fits
  rw [quality_of_centers fits built centers] at failed
  split at failed
  case isTrue => cases failed
  case isFalse =>
    rw [Ball.index] at failed
    rcases coincident?_cases centers.ordered points labels with ⟨none, -⟩ | ⟨a', b', found, together, -⟩
    · rw [none] at failed
      cases failed
    · rw [found] at failed
      cases failed
      exact ⟨c, built, together⟩

/-- If any centers coincide, some pair of clusters is named. -/
theorem quality_of_coincide (built : centroids points labels = .ok c) (together : Coincide c.labels c.centerOf a b) :
    ∃ a' b', quality points labels = .error (.undefinedQuality (.coincidentCentroids a' b')) := by
  have centers := centersOf_of_centroids built
  rw [quality_of_centers (rowCount_of_centroids built) built centers, if_neg (Nat.not_lt.2 together.two_le_count), Ball.index]
  rcases coincident?_cases centers.ordered points labels with ⟨-, apart⟩ | ⟨a', b', found, -⟩
  · exact absurd together (apart a b)
  · rw [found]
    exact ⟨a', b', rfl⟩

/-- If an index has no value because of coincident centers, the clusters it names occur, in ascending order, and their
centers are the same up to differences that are too small to be squared. Clusters whose centers have touching coordinates,
in particular the same ones, leave the index without value for that reason. -/
theorem coincident_centers (points : Table Float) (labels : List Label) :
    (∀ a b, quality points labels = .error (.undefinedQuality (.coincidentCentroids a b)) →
      (0 ≤ a ∧ a < b) ∧ a ∈ labels ∧ b ∈ labels ∧ ∃ c p q, centroids points labels = .ok c ∧
        c.center? a = some p ∧ c.center? b = some q ∧ List.Forall₂ Indistinct p q) ∧
    (∀ c a b p q, centroids points labels = .ok c → a ≠ b → c.center? a = some p → c.center? b = some q →
      List.Forall₂ Touching p q →
        ∃ a' b', quality points labels = .error (.undefinedQuality (.coincidentCentroids a' b'))) := by
  constructor
  · intro a b failed
    obtain ⟨c, built, together⟩ := coincide_of_quality failed
    have centers := centersOf_of_centroids built
    obtain ⟨listed, cluster⟩ := (centers.mem_labels a).1 together.first
    obtain ⟨listed', -⟩ := (centers.mem_labels b).1 together.second
    obtain ⟨center, width⟩ := centers.ordered.center?_eq together.first
    obtain ⟨center', width'⟩ := centers.ordered.center?_eq together.second
    exact ⟨⟨cluster, together.before⟩, listed, listed', c, _, _, built, center, center',
      indistinct_of_distance (width.trans width'.symm) together.zero⟩
  · intro c a b p q built other center center' touching
    obtain ⟨first, rfl⟩ := Centroids.mem_labels_of_center? center
    obtain ⟨second, rfl⟩ := Centroids.mem_labels_of_center? center'
    obtain ⟨a', b', together⟩ :=
      exists_coincide_iff.2 ⟨a, first, b, second, other, distance_beq_zero_of_touching touching⟩
    exact quality_of_coincide built together

/-- The centers that a labelling gives to two clusters, if it has both. -/
def centerPair? (points : Table Float) (labels : List Label) (a b : Label) : Option (List Float × List Float) :=
  match centroids points labels with
  | .ok c => (c.center? a).bind fun p => (c.center? b).map fun q => (p, q)
  | .error _ => none

theorem exists_centerPair (found : centerPair? points labels a b = some (p, q)) :
    ∃ c, centroids points labels = .ok c ∧ c.center? a = some p ∧ c.center? b = some q := by
  unfold centerPair? at found
  split at found
  case h_1 c built =>
    simp only [Option.bind_eq_some_iff, Option.map_eq_some_iff] at found
    obtain ⟨p', center, q', center', same⟩ := found
    cases same
    exact ⟨c, built, center, center'⟩
  case h_2 => cases found

/-- Why an index has no value, if that is so. -/
def undefined? : Except Failure Float → Option UndefinedQuality
  | .error (.undefinedQuality reason) => some reason
  | _ => none

theorem eq_of_undefined? {r : Except Failure Float} {reason : UndefinedQuality} (found : undefined? r = some reason) :
    r = .error (.undefinedQuality reason) := by
  unfold undefined? at found
  split at found
  case h_1 => cases found; rfl
  case h_2 => cases found

/-- Two numbers and their mean. -/
def middle : Table Float := Table.column [-1.0, 1.0, 0.0]

/-- The center of two numbers and the number between them. -/
theorem coincident_centers_middle :
    (∃ c p q, centroids middle [0, 0, 1] = .ok c ∧ c.center? 0 = some p ∧ c.center? 1 = some q ∧
      List.Forall₂ Indistinct p q) ∧
    ∃ a b, quality middle [0, 0, 1] = .error (.undefinedQuality (.coincidentCentroids a b)) := by
  have pair : centerPair? middle [0, 0, 1] 0 1 = some ([0.0], [0.0]) := by decide +kernel
  have reason : undefined? (quality middle [0, 0, 1]) = some (.coincidentCentroids 0 1) := by decide +kernel
  obtain ⟨c, built, center, center'⟩ := exists_centerPair pair
  have touching : List.Forall₂ Touching [0.0] [0.0] := .cons (touching_self (by decide +kernel)) .nil
  exact ⟨((coincident_centers middle [0, 0, 1]).1 0 1 (eq_of_undefined? reason)).2.2.2,
    (coincident_centers middle [0, 0, 1]).2 c 0 1 _ _ built (by decide) center center' touching⟩

/-- Two numbers that are too close for a distance. -/
def closePoints : Table Float := Table.column [0.0, 1e-200]

/-- Different centers coincide. -/
theorem unequal_centers_closePoints : (∀ v ∈ closePoints.values, v.isFinite = true) ∧
    quality closePoints [0, 1] = .error (.undefinedQuality (.coincidentCentroids 0 1)) ∧
    ∃ c, centroids closePoints [0, 1] = .ok c ∧ c.center? 0 = some [0.0] ∧ c.center? 1 = some [1e-200] ∧
      ((0.0 : Float) == 1e-200) = false := by
  have pair : centerPair? closePoints [0, 1] 0 1 = some ([0.0], [1e-200]) := by decide +kernel
  have reason : undefined? (quality closePoints [0, 1]) = some (.coincidentCentroids 0 1) := by decide +kernel
  obtain ⟨c, built, center, center'⟩ := exists_centerPair pair
  exact ⟨by decide +kernel, eq_of_undefined? reason, c, built, center, center', by decide +kernel⟩

end DensityAudit
