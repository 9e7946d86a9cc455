import DensityAudit.Proofs.Density.Characterization
import DensityAudit.Proofs.Density.Placement
import DensityAudit.Proofs.Doubles.Sums

/-!
# Whole weights as copies

A weight that is a whole number counts as that many copies of its row. Each copy is placed at the row that it comes
from (`origin`); the copies near it are as many as the weights near its row sum up to (`countP_origins`), so both
densities are the double of one count, and the labels and the core flags are copied with the rows
(`clustering_copies`).
-/

namespace DensityAudit

/-! ### Copies and their origins -/

variable {α β : Type} {counts : List Nat} {values : List α}

theorem copies_cons (n : Nat) (v : α) (counts : List Nat) (values : List α) :
    copies (n :: counts) (v :: values) = List.replicate n v ++ copies counts values := rfl

theorem copies_map (f : α → β) (counts : List Nat) (values : List α) :
    copies counts (values.map f) = (copies counts values).map f := by
  induction counts generalizing values with
  | nil => rfl
  | cons n counts ih =>
    cases values with
    | nil => rfl
    | cons v values => rw [List.map_cons, copies_cons, copies_cons, ih, List.map_append, List.map_replicate]

theorem pairwise_copies {R : α → α → Prop} (refl : ∀ a, R a a) (h : values.Pairwise R) :
    (copies counts values).Pairwise R := by
  induction counts generalizing values with
  | nil => exact .nil
  | cons n counts ih =>
    cases values with
    | nil => exact .nil
    | cons v values =>
      obtain ⟨first, rest⟩ := List.pairwise_cons.1 h
      rw [copies_cons, List.pairwise_append]
      refine ⟨List.pairwise_replicate.2 (.inr (refl v)), ih rest, fun a copy b later => ?_⟩
      rw [List.eq_of_mem_replicate copy]
      exact first b (mem_of_mem_copies later)

/-- Positive counts leave no value out. -/
theorem mem_copies (positive : ∀ n ∈ counts, 0 < n) (same : values.length = counts.length) {v : α} (h : v ∈ values) :
    v ∈ copies counts values := by
  induction counts generalizing values with
  | nil =>
    rw [List.length_eq_zero_iff.1 same] at h
    exact absurd h List.not_mem_nil
  | cons n counts ih =>
    cases values with
    | nil => cases same
    | cons w values =>
      rw [copies_cons, List.mem_append]
      rcases List.mem_cons.1 h with rfl | later
      · exact .inl (List.mem_replicate.2 ⟨(positive n (List.mem_cons_self ..)).ne', rfl⟩)
      · exact .inr (ih (fun k member => positive k (.tail _ member)) (Nat.succ.inj same) later)

/-- The copies of the values with a property are as many as the counts of these values together. -/
theorem countP_copies (p : α → Bool) (counts : List Nat) (values : List α) :
    (copies counts values).countP p = (((counts.zip values).filter fun e => p e.2).map Prod.fst).sum := by
  induction counts generalizing values with
  | nil => rfl
  | cons n counts ih =>
    cases values with
    | nil => rfl
    | cons v values =>
      rw [copies_cons, List.countP_append, List.countP_replicate, ih, List.zip_cons_cons]
      cases h : p v with
      | true => simp only [List.filter_cons, h, if_true, List.map_cons, List.sum_cons]
      | false => simp only [List.filter_cons, h, Bool.false_eq_true, if_false, Nat.zero_add]

/-- For every copy the place of its value, the copies in order. -/
def origins (counts : List Nat) : List Nat := copies counts (List.range counts.length)

/-- The place of the value that copy `k` is of. -/
def origin (counts : List Nat) (k : Nat) : Nat := (origins counts).getD k 0

theorem origins_eq_map_origin (counts : List Nat) :
    origins counts = (List.range (origins counts).length).map (origin counts) :=
  (map_getD_range (origins counts) 0).symm

theorem mem_origins_of_origin {k : Nat} (inside : k < (origins counts).length) : origin counts k ∈ origins counts := by
  rw [origin, List.getD_eq_getElem _ _ inside]
  exact List.getElem_mem inside

theorem origin_lt {k : Nat} (inside : k < (origins counts).length) : origin counts k < counts.length :=
  List.mem_range.1 (mem_of_mem_copies (mem_origins_of_origin inside))

/-- Later copies are of later values. -/
theorem origin_mono {k l : Nat} (inside : l < (origins counts).length) (le : k ≤ l) : origin counts k ≤ origin counts l := by
  have sorted : (origins counts).Pairwise (· ≤ ·) :=
    pairwise_copies Nat.le_refl (List.pairwise_lt_range.imp Nat.le_of_lt)
  rcases Nat.eq_or_lt_of_le le with rfl | less
  · exact Nat.le_refl _
  · rw [origin, origin, List.getD_eq_getElem _ _ inside, List.getD_eq_getElem _ _ (Nat.lt_trans less inside)]
    exact List.pairwise_iff_getElem.1 sorted k l _ inside less

/-- With positive counts every place is the origin of a copy. -/
theorem exists_origin (positive : ∀ n ∈ counts, 0 < n) {i : Nat} (inside : i < counts.length) :
    ∃ k < (origins counts).length, origin counts k = i := by
  have member : i ∈ origins counts := mem_copies positive List.length_range (List.mem_range.2 inside)
  obtain ⟨k, hk, found⟩ := List.mem_iff_getElem.1 member
  exact ⟨k, hk, by rw [origin, List.getD_eq_getElem _ _ hk, found]⟩

theorem zip_range_eq_map (counts : List Nat) :
    counts.zip (List.range counts.length) = (List.range counts.length).map fun i => (counts.getD i 0, i) := by
  have read := map_getD_range counts 0
  calc counts.zip (List.range counts.length)
      = ((List.range counts.length).map fun i => counts.getD i 0).zip ((List.range counts.length).map id) := by
        rw [read, List.map_id]
    _ = (List.range counts.length).map fun i => (counts.getD i 0, i) := List.zip_map'

/-- The copies from places with a property are as many as the counts at these places together. -/
theorem countP_origins (p : Nat → Bool) (counts : List Nat) :
    (origins counts).countP p = (((List.range counts.length).filter p).map fun i => counts.getD i 0).sum := by
  rw [origins, countP_copies, zip_range_eq_map, List.filter_map, List.map_map]
  rfl

/-- There are as many copies as the counts add up to. -/
theorem length_origins (counts : List Nat) : (origins counts).length = counts.sum := by
  have all := countP_origins (fun _ => true) counts
  rwa [List.countP_true, List.filter_true, map_getD_range] at all

/-- Copies of values are read at their origins. -/
theorem copies_eq_map_origins (same : values.length = counts.length) (d : α) :
    copies counts values = (origins counts).map fun i => values.getD i d := by
  rw [origins, ← copies_map, ← same, map_getD_range]

/-! ### A job and its copies -/

/-- The job without weights in which every row stands as often as its count says. -/
def Job.unfolded (job : Job) (counts : List Nat) : Job := ⟨job.request, job.data.repeated counts, none⟩

namespace Density

/-- The weights of the job are the given counts, none of them zero, and all together not more than doubles count. -/
structure Counted (job : Job) (counts : List Nat) : Prop where
  weights : ∃ w, job.weights? = some w ∧ w.values = counts.map Binary64.ofCount
  positive : ∀ n ∈ counts, 0 < n
  total : counts.sum ≤ 2 ^ 53

/-- The second clustering is the first with a copy of every row for each unit of its weight. -/
structure Copied (counts : List Nat) (c d : Clustering) : Prop where
  clusterCount : d.clusterCount = c.clusterCount
  labels : d.labels = copies counts c.labels
  coreFlags : d.coreFlags = copies counts c.coreFlags

section

variable {job : Job} {counts : List Nat} {i k : Nat} (accepted : Accepted job) (counted : Counted job counts)
include accepted counted

theorem length_counts : counts.length = job.data.rowCount := by
  obtain ⟨w, given, values⟩ := counted.weights
  rw [← length_weights accepted given, values, List.length_map]

theorem rows_unfolded : (job.unfolded counts).data.rows = (origins counts).map job.rowAt := by
  have same : job.data.rows.length = counts.length := by rw [Table.length_rows, length_counts accepted counted]
  rw [Job.unfolded, Table.rows_repeated, copies_eq_map_origins same []]
  rfl

theorem rowCount_unfolded : (job.unfolded counts).data.rowCount = (origins counts).length := by
  rw [← Table.length_rows, rows_unfolded accepted counted, List.length_map]

/-- Every copy has the coordinates of the row that it comes from. -/
theorem placed_unfolded : Placed (origin counts) (job.unfolded counts) job where
  epsilon := rfl
  minObservations := rfl
  inside k hk := by
    rw [rowCount_unfolded accepted counted] at hk
    rw [← length_counts accepted counted]
    exact origin_lt hk
  rowAt k hk := by
    rw [rowCount_unfolded accepted counted] at hk
    have fits : k < ((origins counts).map job.rowAt).length := by rwa [List.length_map]
    have read : (job.unfolded counts).rowAt k = ((origins counts).map job.rowAt).getD k [] := by
      rw [Job.rowAt, rows_unfolded accepted counted]
    rw [read, List.getD_eq_getElem _ _ fits, List.getElem_map, origin, List.getD_eq_getElem _ _ hk]

/-- A job with copies instead of weights is accepted. -/
theorem accepted_unfolded : Accepted (job.unfolded counts) where
  rows := by
    have rows := accepted.rows
    rw [← length_counts accepted counted] at rows
    obtain ⟨k, hk, -⟩ := exists_origin counted.positive rows
    rw [rowCount_unfolded accepted counted]
    exact Nat.zero_lt_of_lt hk
  columns := accepted.columns
  finite := by
    have finite := accepted.finite
    rw [allFinite, List.all_eq_true, ← Table.flatten_rows] at finite ⊢
    intro x member
    obtain ⟨row, copy, coordinate⟩ := List.mem_flatten.1 member
    rw [Job.unfolded, Table.rows_repeated] at copy
    exact finite x (List.mem_flatten.2 ⟨row, mem_of_mem_copies copy, coordinate⟩)
  radius := accepted.radius
  threshold := accepted.threshold
  weights _ given := nomatch given

/-! ### Densities as counts of copies -/

theorem weightAt_eq (inside : i < job.data.rowCount) : job.weightAt i = Binary64.ofCount (counts.getD i 0) := by
  obtain ⟨w, given, values⟩ := counted.weights
  have fits : i < counts.length := by rwa [length_counts accepted counted]
  rw [Job.weightAt, given]
  show w.values.getD i 0.0 = _
  rw [values, List.getD_eq_getElem _ _ (by rwa [List.length_map]), List.getElem_map, List.getD_eq_getElem _ _ fits]

omit accepted in
/-- Copies are few enough to be counted by doubles. -/
theorem countP_origins_le (p : Nat → Bool) : (origins counts).countP p ≤ 2 ^ 53 := by
  calc (origins counts).countP p ≤ (origins counts).length := List.countP_le_length
    _ = counts.sum := length_origins counts
    _ ≤ 2 ^ 53 := counted.total

/-- The weight near a row is the number of copies near it. -/
theorem densityAt_eq (i : Nat) :
    job.densityAt i = Binary64.ofCount ((origins counts).countP fun j => decide (job.Near i j)) := by
  have weights : ((List.range job.data.rowCount).filter fun j => decide (job.Near i j)).map job.weightAt =
      (((List.range job.data.rowCount).filter fun j => decide (job.Near i j)).map fun j => counts.getD j 0).map
        Binary64.ofCount := by
    rw [List.map_map]
    apply List.map_congr_left
    intro j member
    exact weightAt_eq accepted counted (List.mem_range.1 (List.mem_filter.1 member).1)
  have total := countP_origins (fun j => decide (job.Near i j)) counts
  rw [length_counts accepted counted] at total
  have few := countP_origins_le counted fun j => decide (job.Near i j)
  rw [Job.densityAt, weights, ← Binary64.ofCount_zero, Binary64.foldl_add_ofCount (by omega), Nat.zero_add, ← total]

/-- A copy has as many copies near it as the row that it comes from. -/
theorem densityAt_unfolded (inside : k < (job.unfolded counts).data.rowCount) :
    job.densityAt (origin counts k) = (job.unfolded counts).densityAt k := by
  have placed := placed_unfolded accepted counted
  have ones : ∀ rows : List Nat, rows.map (job.unfolded counts).weightAt =
      (List.replicate rows.length 1).map Binary64.ofCount := by
    intro rows
    rw [List.map_replicate, Binary64.ofCount_one, ← List.map_const']
    rfl
  have number : (List.range (origins counts).length).countP (fun l => decide ((job.unfolded counts).Near k l)) =
      (origins counts).countP fun j => decide (job.Near (origin counts k) j) := by
    rw [origins_eq_map_origin, List.countP_map, ← origins_eq_map_origin]
    apply List.countP_congr
    intro l member
    rw [List.mem_range, ← rowCount_unfolded accepted counted] at member
    rw [Function.comp_apply, decide_eq_true_iff, decide_eq_true_iff]
    exact placed.near_iff inside member
  have few := countP_origins_le counted fun j => decide (job.Near (origin counts k) j)
  have sum : ∀ n : Nat, 0 + (List.replicate n 1).sum = n := by
    intro n
    rw [List.sum_replicate_nat, Nat.mul_one, Nat.zero_add]
  rw [densityAt_eq accepted counted, Job.densityAt, rowCount_unfolded accepted counted, ones, ← List.countP_eq_length_filter,
    number, ← Binary64.ofCount_zero, Binary64.foldl_add_ofCount (by rw [sum]; exact few), sum]

/-! ### The clustering of the copies -/

/-- A copy stands for its original. -/
theorem represents_unfolded : Represents (origin counts) (job.unfolded counts).data.rowCount (job.unfolded counts).Near
    (job.unfolded counts).IsCore job.Near job.IsCore := by
  have placed := placed_unfolded accepted counted
  have rows := rowCount_unfolded accepted counted
  apply placed.represents (accepted_unfolded accepted counted)
  · intro i j inside le
    rw [rows] at inside
    exact origin_mono inside le
  · intro k inside
    exact placed.isCore_iff inside (densityAt_unfolded accepted counted inside)
  · intro k t _ core _
    rw [rows]
    apply exists_origin counted.positive
    rw [length_counts accepted counted]
    exact core.1

/-- Every row has a copy. -/
theorem exists_copy (inside : i < job.data.rowCount) :
    ∃ k < (job.unfolded counts).data.rowCount, origin counts k = i := by
  rw [rowCount_unfolded accepted counted]
  apply exists_origin counted.positive
  rwa [length_counts accepted counted]

/-- Every copy has the label of its row. -/
theorem labels_unfolded {c d : Clustering} (described : Describes job c) (described' : Describes (job.unfolded counts) d) :
    d.labels = copies counts c.labels := by
  have placed := placed_unfolded accepted counted
  have r := represents_unfolded accepted counted
  have rows := rowCount_unfolded accepted counted
  have length := described.reference.length
  have length' := described'.reference.length
  rw [rows] at length'
  have numbered : ∀ s, Leads (job.unfolded counts).Near (job.unfolded counts).IsCore s →
      ordinal job.Near job.IsCore (origin counts s) =
        ordinal (job.unfolded counts).Near (job.unfolded counts).IsCore s :=
    fun s => r.ordinal_apply fun t leads => exists_copy accepted counted leads.1.1
  rw [copies_eq_map_origins (length.trans (length_counts accepted counted).symm) noise]
  apply List.ext_getElem
  · rw [List.length_map, length']
  · intro k inside inside'
    rw [List.length_map] at inside'
    have hk : k < (job.unfolded counts).data.rowCount := by rwa [rows]
    have label := r.labels_eq described'.reference described.reference numbered hk (placed.inside k hk)
    rw [List.getElem?_eq_getElem inside] at label
    rw [List.getElem_map, ← List.getD_eq_getElem _ 0 inside', List.getD_eq_getElem?_getD]
    show _ = (c.labels[origin counts k]?).getD noise
    rw [label, Option.getD_some]

/-- Every copy has the core flag of its row. -/
theorem coreFlags_unfolded {c d : Clustering} (described : Describes job c)
    (described' : Describes (job.unfolded counts) d) : d.coreFlags = copies counts c.coreFlags := by
  have rows := rowCount_unfolded accepted counted
  rw [described.coreFlags, described'.coreFlags, copies_map, ← length_counts accepted counted, rows]
  show _ = (origins counts).map _
  rw [origins_eq_map_origin, List.map_map, ← origins_eq_map_origin]
  apply List.map_congr_left
  intro k member
  rw [List.mem_range, ← rows] at member
  exact decide_eq_decide.2 ((represents_unfolded accepted counted).core_iff k member)

end

/-- A weight that is a whole number counts as that many copies of its row: the copies, without weights, have the
labels and the core flags of their rows, and there are as many clusters. -/
theorem clustering_copies (job : Job) (counts : List Nat) (sound : fault? job = none) (counted : Counted job counts) :
    ∃ c d, ClusteredAs job c ∧ ClusteredAs (job.unfolded counts) d ∧ Copied counts c d := by
  have accepted := fault?_eq_none_iff.1 sound
  have accepted' := accepted_unfolded accepted counted
  obtain ⟨c, answered, described⟩ := exists_clustering sound
  obtain ⟨d, answered', described'⟩ := exists_clustering (fault?_eq_none_iff.2 accepted')
  refine ⟨c, d, answered, answered', ?_⟩
  constructor
  case clusterCount =>
    rw [described.reference.counted, described'.reference.counted]
    apply (represents_unfolded accepted counted).ordinal_rows
    · exact fun t leads => exists_copy accepted counted leads.1.1
    · exact (placed_unfolded accepted counted).inside
  case labels => exact labels_unfolded accepted counted described described'
  case coreFlags => exact coreFlags_unfolded accepted counted described described'

/-- Four rows on a line, the first two of them core because the second one weighs three. -/
def countedJob : Job :=
  ⟨⟨1.0, 4, .only .labels⟩, Table.column [0.0, 1.0, 5.0, 7.0], some (Table.column [1.0, 3.0, 2.0, 1.0])⟩

theorem clustering_copies_countedJob :
    (fault? countedJob = none ∧ Counted countedJob [1, 3, 2, 1]) ∧
      ∃ c d, ClusteredAs countedJob c ∧ ClusteredAs (countedJob.unfolded [1, 3, 2, 1]) d ∧ Copied [1, 3, 2, 1] c d := by
  have sound : fault? countedJob = none := by decide +kernel
  have counted : Counted countedJob [1, 3, 2, 1] :=
    ⟨⟨_, rfl, by decide +kernel⟩, by decide, by decide⟩
  exact ⟨⟨sound, counted⟩, clustering_copies countedJob [1, 3, 2, 1] sound counted⟩

end Density

end DensityAudit
