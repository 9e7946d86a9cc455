import Mathlib.Data.List.Nodup
import DensityAudit.Proofs.Quality.Centers
import DensityAudit.Quality.DaviesBouldin

/-!
# The Davies–Bouldin index by its definition

The definition looks at one cluster at a time: its rows, its scatter, its worst similarity. The one pass over the
rows keeps exactly these scatters side by side (`foldlM_spreadStep`), and the search for coincident centers meets
the least pair first (`coincident?_map`). `IndexOutcome` lists what can come out of the index and when; exactly one of
its cases applies (`daviesBouldin_eq_iff`).
-/

namespace DensityAudit

/-! ### The definition -/

/-- Clusters `a` and `b`, the first before the second, have centers at no distance. -/
structure Coincide (clusters : List Label) (center : Label → List Float) (a b : Label) : Prop where
  first : a ∈ clusters
  second : b ∈ clusters
  before : a < b
  zero : (distance (center a) (center b) == 0.0) = true

section

variable (points : Table Float) (c : Centroids) (labels : List Label)

/-- The distances of the rows of a cluster from its center, in the order of the rows. -/
def clusterDistances (l : Label) : List Float :=
  ((points.rows.zip labels).filter fun row => row.2 == l).map fun row => distance row.1 (c.centerOf l)

/-- The mean distance of the rows of a cluster from its center, zero without rows. -/
def clusterScatter (l : Label) : Float :=
  let distances := clusterDistances points c labels l
  if distances.isEmpty then 0.0 else distances.foldl (· + ·) 0.0 / Binary64.ofCount distances.length

/-- The scatters of two clusters, added, in relation to the distance of their centers. -/
def clusterSimilarity (a b : Label) : Float :=
  (clusterScatter points c labels a + clusterScatter points c labels b) / distance (c.centerOf a) (c.centerOf b)

/-- The similarity of a cluster to the most similar other one, at least zero. -/
def clusterWorst (l : Label) : Float :=
  ((c.labels.filter fun m => m != l).map (clusterSimilarity points c labels l)).foldl Binary64.maximum 0.0

/-- The mean over the clusters, in the order of their labels, of the similarity to the most similar other one. -/
def clusterIndex : Float :=
  (c.labels.map (clusterWorst points c labels)).foldl (· + ·) 0.0 / Binary64.ofCount c.count

/-- Label `l` is the first of a row whose cluster has no center. -/
def FirstMissing (l : Label) : Prop :=
  ∃ before after, labels = before ++ l :: after ∧ 0 ≤ l ∧ l ∉ c.labels ∧ ∀ m ∈ before, 0 ≤ m → m ∈ c.labels

/-- Every row of a cluster has its center. -/
def AllKnown : Prop := ∀ l ∈ labels, 0 ≤ l → l ∈ c.labels

/-- The points, the centroids and the labels fit together, and there are clusters to compare. -/
structure Comparable : Prop where
  rows : labels.length = points.rowCount
  columns : c.centers.columnCount = points.columnCount
  clusters : 2 ≤ c.count

/-- What the index of a labelling is, for given centroids. -/
inductive IndexOutcome : Except Failure Float → Prop where
  | labelCount (other : labels.length ≠ points.rowCount) :
      IndexOutcome (.error (.shape "label count" points.rowCount labels.length))
  | dimension (rows : labels.length = points.rowCount) (other : c.centers.columnCount ≠ points.columnCount) :
      IndexOutcome (.error (.shape "centroid dimension" points.columnCount c.centers.columnCount))
  | tooFew (rows : labels.length = points.rowCount) (columns : c.centers.columnCount = points.columnCount)
      (few : c.count < 2) : IndexOutcome (.error (.undefinedQuality (.tooFewClusters c.count)))
  | missing (comparable : Comparable points c labels) {l : Label} (first : FirstMissing c labels l) :
      IndexOutcome (.error (.undefinedQuality (.missingCentroid l)))
  | coincident (comparable : Comparable points c labels) (known : AllKnown c labels) {a b : Label}
      (together : Coincide c.labels c.centerOf a b)
      (least : ∀ a' b', Coincide c.labels c.centerOf a' b' → a < a' ∨ a = a' ∧ b ≤ b') :
      IndexOutcome (.error (.undefinedQuality (.coincidentCentroids a b)))
  | value (comparable : Comparable points c labels) (known : AllKnown c labels)
      (apart : ∀ a b, ¬ Coincide c.labels c.centerOf a b) : IndexOutcome (.ok (clusterIndex points c labels))

end

variable {points : Table Float} {c : Centroids} {labels : List Label}

/-! ### Scatters -/

/-- Distances are summed and counted one after another. -/
theorem Spread.foldl_add (s : Spread) (distances : List Float) :
    distances.foldl Spread.add s = ⟨distances.foldl (· + ·) s.total, s.size + distances.length⟩ := by
  induction distances generalizing s with
  | nil => rfl
  | cons d rest ih =>
    rw [List.foldl_cons, ih, List.foldl_cons, List.length_cons, Nat.add_comm rest.length, ← Nat.add_assoc]
    rfl

/-- The mean of a spread is that of the distances in it. -/
theorem Spread.mean_foldl (distances : List Float) :
    Spread.mean (distances.foldl Spread.add Spread.zero) =
      if distances.isEmpty then 0.0 else distances.foldl (· + ·) 0.0 / Binary64.ofCount distances.length := by
  rw [Spread.foldl_add, Spread.mean]
  cases distances with
  | nil => rfl
  | cons d rest =>
    simp only [Spread.zero, List.length_cons, Nat.zero_add, Nat.zero_lt_succ, if_true, List.isEmpty_cons,
      Bool.false_eq_true, if_false]

/-- A spread with the distance of a row from the center of cluster `l`, if the row is one of the cluster. -/
def Spread.collect (c : Centroids) (l : Label) (s : Spread) (row : List Float × Label) : Spread :=
  if row.2 == l then s.add (distance row.1 (c.centerOf l)) else s

theorem Spread.foldl_collect (l : Label) (s : Spread) (rows : List (List Float × Label)) :
    rows.foldl (Spread.collect c l) s =
      ((rows.filter fun row => row.2 == l).map fun row => distance row.1 (c.centerOf l)).foldl Spread.add s := by
  induction rows generalizing s with
  | nil => rfl
  | cons row rest ih =>
    rw [List.foldl_cons, ih, Spread.collect]
    cases own : row.2 == l with
    | true => simp only [List.filter_cons, own, if_true, List.map_cons, List.foldl_cons]
    | false => simp only [List.filter_cons, own, Bool.false_eq_true, if_false]

/-! ### The pass over the rows -/

theorem modify_map_of_nodup {α β : Type} [DecidableEq α] {xs : List α} (nodup : xs.Nodup) (g : α → β) (f : β → β) {i : Nat}
    (inside : i < xs.length) :
    (xs.map g).modify i f = xs.map fun x => if xs[i] = x then f (g x) else g x := by
  apply List.ext_getElem
  · simp
  · intro j hj hj'
    rw [List.length_map] at hj'
    simp only [List.getElem_modify, List.getElem_map, nodup.getElem_inj_iff]

/-- One row changes the spread of its own cluster only. -/
theorem spreadStep_of_known (ordered : c.Ordered) (s : Label → Spread) (row : List Float × Label)
    (known : 0 ≤ row.2 → row.2 ∈ c.labels) :
    spreadStep c c.positions (c.labels.map s) row = .ok (c.labels.map fun l => Spread.collect c l (s l) row) := by
  by_cases cluster : row.2 < 0
  · rw [spreadStep, if_pos cluster]
    congr 1
    apply List.map_congr_left
    intro l member
    have nonneg := ordered.clusters.nonneg l member
    have other : ¬ (row.2 == l) = true := by
      rw [beq_iff_eq]
      rintro rfl
      exact Int.not_lt.2 nonneg cluster
    rw [Spread.collect, if_neg other]
  · obtain ⟨i, inside, found⟩ := List.mem_iff_getElem.1 (known (Int.not_lt.1 cluster))
    have center : (c.positions[i]?).getD [] = c.centerOf row.2 := by
      rw [ordered.positions_eq, List.getElem?_map, List.getElem?_eq_getElem inside, found]
      rfl
    rw [spreadStep, if_neg cluster, ← found, ordered.place?_getElem inside, found]
    simp only [center]
    rw [modify_map_of_nodup ordered.nodup _ _ inside, found]
    congr 1
    apply List.map_congr_left
    intro l _
    rw [Spread.collect]
    by_cases own : row.2 = l
    · rw [if_pos own, if_pos (beq_iff_eq.2 own), own]
    · rw [if_neg own, if_neg (mt beq_iff_eq.1 own)]

/-- Rows of known clusters leave, cluster by cluster, the distances of the cluster's rows. -/
theorem foldlM_spreadStep (ordered : c.Ordered) {rows : List (List Float × Label)}
    (known : ∀ row ∈ rows, 0 ≤ row.2 → row.2 ∈ c.labels) (s : Label → Spread) :
    rows.foldlM (spreadStep c c.positions) (c.labels.map s) =
      .ok (c.labels.map fun l => rows.foldl (Spread.collect c l) (s l)) := by
  induction rows generalizing s with
  | nil => rfl
  | cons row rest ih =>
    rw [List.foldlM_cons, spreadStep_of_known ordered s row (known row (List.mem_cons_self ..))]
    exact ih (fun other member => known other (.tail _ member)) _

/-- The first row of a cluster without a center ends the pass. -/
theorem foldlM_spreadStep_of_missing (ordered : c.Ordered) {before after : List (List Float × Label)}
    {row : List Float × Label} (known : ∀ other ∈ before, 0 ≤ other.2 → other.2 ∈ c.labels) (cluster : 0 ≤ row.2)
    (absent : row.2 ∉ c.labels) (s : Label → Spread) :
    (before ++ row :: after).foldlM (spreadStep c c.positions) (c.labels.map s) =
      .error (.undefinedQuality (.missingCentroid row.2)) := by
  have stopped : ∀ spreads, spreadStep c c.positions spreads row =
      .error (.undefinedQuality (.missingCentroid row.2)) := by
    intro spreads
    rw [spreadStep, if_neg (Int.not_lt.2 cluster), Centroids.place?_eq_none_iff.2 absent]
  rw [List.foldlM_append, foldlM_spreadStep ordered known]
  show (row :: after).foldlM (spreadStep c c.positions) _ = _
  rw [List.foldlM_cons, stopped]
  rfl

theorem map_snd_zip (points : Table Float) (fits : labels.length = points.rowCount) : (points.rows.zip labels).map Prod.snd = labels :=
  List.map_snd_zip (Nat.le_of_eq (by rw [Table.length_rows, fits]))

theorem replicate_zero_eq (c : Centroids) : List.replicate c.count Spread.zero = c.labels.map fun _ => Spread.zero :=
  List.map_const'.symm

/-- If every cluster has its center, the spreads hold the distances of the rows of each cluster. -/
theorem spreads_of_known (ordered : c.Ordered) (known : AllKnown c labels) :
    spreads points c labels =
      .ok (c.labels.map fun l => (clusterDistances points c labels l).foldl Spread.add Spread.zero) := by
  have rows : ∀ row ∈ points.rows.zip labels, 0 ≤ row.2 → row.2 ∈ c.labels := by
    intro row member
    exact known row.2 (List.of_mem_zip member).2
  rw [spreads, replicate_zero_eq, foldlM_spreadStep ordered rows]
  simp only [Spread.foldl_collect]
  rfl

/-- The first row whose cluster has no center is an error. -/
theorem spreads_of_missing (ordered : c.Ordered) (fits : labels.length = points.rowCount) {l : Label}
    (missing : FirstMissing c labels l) :
    spreads points c labels = .error (.undefinedQuality (.missingCentroid l)) := by
  obtain ⟨before, after, split, cluster, absent, known⟩ := missing
  have columns := map_snd_zip points fits
  rw [split] at columns
  obtain ⟨first, rest, rows, left, right⟩ := List.map_eq_append_iff.1 columns
  obtain ⟨row, later, cut, same, -⟩ := List.map_eq_cons_iff.1 right
  subst same
  have known' : ∀ other ∈ first, 0 ≤ other.2 → other.2 ∈ c.labels := by
    intro other member
    apply known
    rw [← left]
    exact List.mem_map_of_mem member
  rw [spreads, replicate_zero_eq, split, rows, cut]
  exact foldlM_spreadStep_of_missing ordered known' cluster absent _

/-- Every cluster has its center, or there is a first row whose cluster has none. -/
theorem known_or_missing (c : Centroids) (labels : List Label) : AllKnown c labels ∨ ∃ l, FirstMissing c labels l := by
  induction labels with
  | nil => exact .inl nofun
  | cons m rest ih =>
    by_cases good : 0 ≤ m → m ∈ c.labels
    · rcases ih with known | ⟨l, before, after, rfl, cluster, absent, known⟩
      · exact .inl (List.forall_mem_cons.2 ⟨good, known⟩)
      · exact .inr ⟨l, m :: before, after, rfl, cluster, absent, List.forall_mem_cons.2 ⟨good, known⟩⟩
    · rw [Classical.not_imp] at good
      exact .inr ⟨m, [], rest, rfl, good.1, good.2, nofun⟩

/-! ### Clusters and their centers -/

/-- A cluster as the definition sees it. -/
def clusterBall (points : Table Float) (c : Centroids) (labels : List Label) (l : Label) : Ball :=
  ⟨l, c.centerOf l, clusterScatter points c labels l⟩

/-- The clusters that the spreads make are those of the definition. -/
theorem balls_eq (ordered : c.Ordered) :
    balls c (c.labels.map fun l => (clusterDistances points c labels l).foldl Spread.add Spread.zero) =
      c.labels.map (clusterBall points c labels) := by
  rw [balls, ordered.positions_eq, List.zip_map', List.zipWith_map_right, List.zipWith_self]
  apply List.map_congr_left
  intro l _
  show Ball.mk l (c.centerOf l) (Spread.mean _) = _
  rw [Spread.mean_foldl]
  rfl

theorem worst_eq (l : Label) :
    Ball.worst (c.labels.map (clusterBall points c labels)) (clusterBall points c labels l) =
      clusterWorst points c labels l := by
  rw [Ball.worst, clusterWorst, List.filter_map, List.map_map]
  rfl

/-- The mean of the worst similarities is the index of the definition. -/
theorem meanWorst_eq : Ball.meanWorst (c.labels.map (clusterBall points c labels)) = clusterIndex points c labels := by
  rw [Ball.meanWorst, clusterIndex, List.map_map, List.length_map]
  congr 2
  exact List.map_congr_left fun l _ => worst_eq l

/-- A coincidence among clusters in ascending order is one with the first of them or one among the others. -/
theorem Coincide.cons_cases {x a b : Label} {rest : List Label} {center : Label → List Float}
    (least : ∀ l ∈ rest, x < l) (h : Coincide (x :: rest) center a b) :
    (a = x ∧ b ∈ rest) ∨ Coincide rest center a b := by
  have behind : b ∈ rest := by
    refine (List.mem_cons.1 h.second).resolve_left ?_
    rintro rfl
    rcases List.mem_cons.1 h.first with rfl | member
    · exact Int.lt_irrefl _ h.before
    · exact Int.lt_asymm h.before (least a member)
  rcases List.mem_cons.1 h.first with same | member
  · exact .inl ⟨same, behind⟩
  · exact .inr ⟨member, behind, h.before, h.zero⟩

/-- The first later cluster that coincides with `x` is the least one that does. -/
theorem le_of_find? {rest : List Label} {p : Label → Bool} {b b' : Label} (ascending : rest.Pairwise (· < ·))
    (found : rest.find? p = some b) (member : b' ∈ rest) (holds : p b' = true) : b ≤ b' := by
  obtain ⟨-, front, back, rfl, skipped⟩ := List.find?_eq_some_iff_append.1 found
  rcases List.mem_append.1 member with early | late
  · have other := skipped b' early
    rw [holds] at other
    cases other
  · rcases List.mem_cons.1 late with rfl | late
    · exact Int.le_refl _
    · rw [List.pairwise_append, List.pairwise_cons] at ascending
      exact Int.le_of_lt (ascending.2.1.1 b' late)

/-- The search among clusters in ascending order finds the least coincidence. -/
theorem coincident?_map {ls : List Label} (ascending : ls.Pairwise (· < ·)) (ball : Label → Ball)
    (named : ∀ l, (ball l).label = l) :
    (Ball.coincident? (ls.map ball) = none ∧ ∀ a b, ¬ Coincide ls (fun l => (ball l).center) a b) ∨
    ∃ a b, Ball.coincident? (ls.map ball) = some (a, b) ∧ Coincide ls (fun l => (ball l).center) a b ∧
      ∀ a' b', Coincide ls (fun l => (ball l).center) a' b' → a < a' ∨ a = a' ∧ b ≤ b' := by
  induction ls with
  | nil => exact .inl ⟨rfl, fun a b together => absurd together.first List.not_mem_nil⟩
  | cons x rest ih =>
    obtain ⟨least, tail⟩ := List.pairwise_cons.1 ascending
    rw [List.map_cons, Ball.coincident?, List.find?_map]
    cases found : rest.find? ((fun b => distance (ball x).center b.center == 0.0) ∘ ball) with
    | some b =>
      have member : b ∈ rest := List.mem_of_find?_eq_some found
      have zero := List.find?_some found
      refine .inr ⟨x, b, ?_, ⟨List.mem_cons_self .., .tail _ member, least b member, zero⟩, ?_⟩
      · simp only [Option.map_some, named]
      · intro a' b' together
        rcases together.cons_cases least with ⟨rfl, member'⟩ | later
        · exact .inr ⟨rfl, le_of_find? tail found member' together.zero⟩
        · exact .inl (least a' later.first)
    | none =>
      have later : ∀ {a b : Label}, Coincide (x :: rest) (fun l => (ball l).center) a b →
          Coincide rest (fun l => (ball l).center) a b := by
        intro a b together
        rcases together.cons_cases least with ⟨rfl, member⟩ | later
        · exact absurd together.zero (List.find?_eq_none.1 found b member)
        · exact later
      rcases ih tail with ⟨none, apart⟩ | ⟨a, b, some, together, first⟩
      · exact .inl ⟨none, fun a b together => apart a b (later together)⟩
      · exact .inr ⟨a, b, some, ⟨.tail _ together.first, .tail _ together.second, together.before, together.zero⟩,
          fun a' b' other => first a' b' (later other)⟩

/-- The pair of coincident clusters that is reported is the least one. -/
theorem coincident?_cases (ordered : c.Ordered) (points : Table Float) (labels : List Label) :
    (Ball.coincident? (c.labels.map (clusterBall points c labels)) = none ∧
      ∀ a b, ¬ Coincide c.labels c.centerOf a b) ∨
    ∃ a b, Ball.coincident? (c.labels.map (clusterBall points c labels)) = some (a, b) ∧
      Coincide c.labels c.centerOf a b ∧ ∀ a' b', Coincide c.labels c.centerOf a' b' → a < a' ∨ a = a' ∧ b ≤ b' :=
  coincident?_map ordered.clusters.ascending (clusterBall points c labels) fun _ => rfl

/-! ### The index -/

theorem daviesBouldin_of_comparable (comparable : Comparable points c labels) :
    daviesBouldin points c labels = (spreads points c labels).bind fun found => Ball.index (balls c found) := by
  have enough := comparable.clusters
  rw [daviesBouldin, if_neg (not_not_intro comparable.rows), if_neg (not_not_intro comparable.columns),
    if_neg (by omega)]

/-- Where every row has a center the index is that of the definition, unless centers coincide. -/
theorem daviesBouldin_of_known (ordered : c.Ordered) (comparable : Comparable points c labels)
    (known : AllKnown c labels) :
    daviesBouldin points c labels = Ball.index (c.labels.map (clusterBall points c labels)) := by
  rw [daviesBouldin_of_comparable comparable, spreads_of_known ordered known]
  show Ball.index (balls c _) = _
  rw [balls_eq ordered]

theorem pair_eq_of_least {a b a' b' : Int} (h : a < a' ∨ a = a' ∧ b ≤ b') (h' : a' < a ∨ a' = a ∧ b' ≤ b) :
    a = a' ∧ b = b' := by omega

/-- The index has every outcome that applies. -/
theorem IndexOutcome.sound (ordered : c.Ordered) {r : Except Failure Float} (h : IndexOutcome points c labels r) :
    daviesBouldin points c labels = r := by
  cases h with
  | labelCount other => rw [daviesBouldin, if_pos other]
  | dimension rows other => rw [daviesBouldin, if_neg (not_not_intro rows), if_pos other]
  | tooFew rows columns few =>
    rw [daviesBouldin, if_neg (not_not_intro rows), if_neg (not_not_intro columns), if_pos few]
  | missing comparable first =>
    rw [daviesBouldin_of_comparable comparable, spreads_of_missing ordered comparable.rows first]
    rfl
  | coincident comparable known together least =>
    rename_i a b
    rw [daviesBouldin_of_known ordered comparable known, Ball.index]
    rcases coincident?_cases ordered points labels with ⟨-, apart⟩ | ⟨a', b', found, together', least'⟩
    · exact absurd together (apart a b)
    · obtain ⟨rfl, rfl⟩ := pair_eq_of_least (least a' b' together') (least' a b together)
      rw [found]
  | value comparable known apart =>
    rw [daviesBouldin_of_known ordered comparable known, Ball.index]
    rcases coincident?_cases ordered points labels with ⟨none, -⟩ | ⟨a, b, -, together, -⟩
    · rw [none, meanWorst_eq]
    · exact absurd together (apart a b)

/-- One of the outcomes applies. -/
theorem exists_outcome (ordered : c.Ordered) (points : Table Float) (labels : List Label) :
    ∃ r, IndexOutcome points c labels r := by
  by_cases rows : labels.length = points.rowCount
  case neg => exact ⟨_, .labelCount rows⟩
  by_cases columns : c.centers.columnCount = points.columnCount
  case neg => exact ⟨_, .dimension rows columns⟩
  by_cases few : c.count < 2
  case pos => exact ⟨_, .tooFew rows columns few⟩
  have comparable : Comparable points c labels := ⟨rows, columns, by omega⟩
  rcases known_or_missing c labels with known | ⟨l, first⟩
  · rcases coincident?_cases ordered points labels with ⟨-, apart⟩ | ⟨a, b, -, together, least⟩
    · exact ⟨_, .value comparable known apart⟩
    · exact ⟨_, .coincident comparable known together least⟩
  · exact ⟨_, .missing comparable first⟩

/-- For the centroids of any labelling of any points, the index has the outcome that applies to the points and the
labels, and no other. -/
theorem daviesBouldin_eq_iff (source : Table Float) (sourceLabels : List Label) (c : Centroids)
    (built : centroids source sourceLabels = .ok c) (points : Table Float) (labels : List Label)
    (r : Except Failure Float) : daviesBouldin points c labels = r ↔ IndexOutcome points c labels r := by
  have ordered := ordered_of_centroids built
  constructor
  · rintro rfl
    obtain ⟨r, outcome⟩ := exists_outcome ordered points labels
    rwa [outcome.sound ordered]
  · exact fun outcome => outcome.sound ordered

/-- The corners of a rectangle. -/
def corners : Table Float := ⟨[0.0, 0.0, 0.0, 2.0, 4.0, 0.0, 4.0, 2.0], 4, 2, rfl, by decide⟩

theorem daviesBouldin_eq_iff_corners :
    ∃ c, centroids corners [3, 3, 7, 7] = .ok c ∧
      ∀ r, daviesBouldin corners c [3, -1, 7, 7] = r ↔ IndexOutcome corners c [3, -1, 7, 7] r := by
  have found : (centroids corners [3, 3, 7, 7]).isOk = true := by decide +kernel
  cases built : centroids corners [3, 3, 7, 7] with
  | error e => rw [built] at found; cases found
  | ok c => exact ⟨c, rfl, daviesBouldin_eq_iff corners [3, 3, 7, 7] c built corners [3, -1, 7, 7]⟩

end DensityAudit
