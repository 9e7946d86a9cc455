import DensityAudit.Proofs.Density.Characterization
import DensityAudit.Proofs.Density.Placement

/-!
# Separate blocks of rows

Two jobs whose rows are out of reach of each other can be put together: each block keeps its neighbours, its
densities and its core rows, and the clusters of the second block are numbered on from those of the first
(`clustering_append`).
-/

namespace DensityAudit

/-! ### Two jobs as one -/

/-- The rows of `A` and then those of `B`, with the parameters of `A`. -/
def Job.append (A B : Job) (columns : A.data.columnCount = B.data.columnCount) : Job where
  request := A.request
  data := A.data.append B.data columns
  weights? :=
    match A.weights?, B.weights? with
    | some v, some w => some (Table.column (v.values ++ w.values))
    | _, _ => none

namespace Density

/-- The jobs have the same parameters and the same form, and no row of one is near a row of the other. -/
structure Separate (A B : Job) : Prop where
  columns : A.data.columnCount = B.data.columnCount
  epsilon : B.request.epsilon = A.request.epsilon
  minObservations : B.request.minObservations = A.request.minObservations
  /-- Both jobs have weights or both have none. -/
  weighted : A.weights?.isSome = B.weights?.isSome
  far : ∀ p ∈ A.data.rows, ∀ q ∈ B.data.rows, ¬ squaredDistance p q ≤ A.request.epsilon * A.request.epsilon

/-- The third clustering is the first, of the given number of rows, followed by the second. -/
structure Concatenated (rows : Nat) (c d e : Clustering) : Prop where
  clusterCount : e.clusterCount = c.clusterCount + d.clusterCount
  labels : e.labels = c.labels ++ d.labels.map (shiftLabel c.clusterCount)
  coreFlags : e.coreFlags = c.coreFlags ++ d.coreFlags
  coreIndices : e.coreIndices = c.coreIndices ++ d.coreIndices.map (rows + ·)
  coreRows : e.coreRows.rows = c.coreRows.rows ++ d.coreRows.rows
  columns : e.coreRows.columnCount = c.coreRows.columnCount

variable {A B : Job} {i j : Nat}

/-! ### Rows and weights of the whole -/

theorem getD_append_right {α : Type} (xs ys : List α) (j : Nat) (d : α) : (xs ++ ys).getD (xs.length + j) d = ys.getD j d := by
  rw [List.getD_append_right _ _ _ _ (Nat.le_add_right ..), Nat.add_sub_cancel_left]

theorem rowCount_append (columns : A.data.columnCount = B.data.columnCount) :
    (A.append B columns).data.rowCount = A.data.rowCount + B.data.rowCount :=
  Table.rowCount_append A.data B.data columns

theorem rowAt_append_left (columns : A.data.columnCount = B.data.columnCount) (inside : i < A.data.rowCount) :
    (A.append B columns).rowAt i = A.rowAt i := by
  have fits : i < A.data.rows.length := by rwa [Table.length_rows]
  rw [Job.rowAt, Job.append, Table.rows_append, List.getD_append _ _ _ _ fits, Job.rowAt]

theorem rowAt_append_right (columns : A.data.columnCount = B.data.columnCount) (j : Nat) :
    (A.append B columns).rowAt (A.data.rowCount + j) = B.rowAt j := by
  rw [Job.rowAt, Job.append, Table.rows_append, ← A.data.length_rows, getD_append_right, Job.rowAt]

theorem weightAt_append_left (accepted : Accepted A) (separate : Separate A B) (inside : i < A.data.rowCount) :
    (A.append B separate.columns).weightAt i = A.weightAt i := by
  have both := separate.weighted
  rw [Job.weightAt, Job.weightAt, Job.append]
  cases given : A.weights? with
  | none => rfl
  | some v =>
    rw [given] at both
    obtain ⟨w, given'⟩ := Option.isSome_iff_exists.1 both.symm
    rw [given']
    have fits : i < v.values.length := by rwa [length_weights accepted given]
    exact List.getD_append _ _ _ _ fits

theorem weightAt_append_right (accepted : Accepted A) (separate : Separate A B) (j : Nat) :
    (A.append B separate.columns).weightAt (A.data.rowCount + j) = B.weightAt j := by
  have both := separate.weighted
  rw [Job.weightAt, Job.weightAt, Job.append]
  cases given : A.weights? with
  | none =>
    rw [given] at both
    rw [Option.isSome_eq_false_iff.1 both.symm |> Option.isNone_iff_eq_none.1]
  | some v =>
    rw [given] at both
    obtain ⟨w, given'⟩ := Option.isSome_iff_exists.1 both.symm
    rw [given']
    show (v.values ++ w.values).getD (A.data.rowCount + j) 0.0 = w.values.getD j 0.0
    rw [← length_weights accepted given, getD_append_right]

/-- Separate jobs that are accepted are accepted together. -/
theorem accepted_append (accepted : Accepted A) (accepted' : Accepted B) (separate : Separate A B) :
    Accepted (A.append B separate.columns) where
  rows := by
    rw [rowCount_append]
    exact Nat.add_pos_left accepted.rows _
  columns := accepted.columns
  finite := by
    rw [allFinite, Job.append, Table.values_append, List.all_append, Bool.and_eq_true]
    exact ⟨accepted.finite, accepted'.finite⟩
  radius := accepted.radius
  threshold := accepted.threshold
  weights u given := by
    rw [rowCount_append]
    simp only [Job.append] at given
    split at given
    · rename_i v w first second
      cases given
      refine ⟨?_, rfl, ?_⟩
      · show (v.values ++ w.values).length = _
        rw [List.length_append, length_weights accepted first, length_weights accepted' second]
      · show (v.values ++ w.values).all Float.isFinite = true
        rw [List.all_append, Bool.and_eq_true]
        exact ⟨(accepted.weights v first).2.2, (accepted'.weights w second).2.2⟩
    · cases given

/-! ### The blocks in the whole -/

/-- Rows of the whole below `m + n` are those below `m` and then the `n` others. -/
theorem filter_range_add (m n : Nat) (p : Nat → Bool) :
    (List.range (m + n)).filter p =
      (List.range m).filter p ++ ((List.range n).filter fun j => p (m + j)).map (m + ·) := by
  rw [List.range_add, List.filter_append, List.filter_map]
  rfl

theorem placed_left (separate : Separate A B) : Placed id A (A.append B separate.columns) where
  epsilon := rfl
  minObservations := rfl
  inside i hi := by
    rw [rowCount_append]
    exact Nat.lt_add_right _ hi
  rowAt i hi := rowAt_append_left separate.columns hi

theorem placed_right (separate : Separate A B) : Placed (A.data.rowCount + ·) B (A.append B separate.columns) where
  epsilon := separate.epsilon.symm
  minObservations := separate.minObservations.symm
  inside j hj := by
    rw [rowCount_append]
    exact Nat.add_lt_add_left hj _
  rowAt j _ := rowAt_append_right separate.columns j

theorem rowAt_mem {job : Job} (inside : i < job.data.rowCount) : job.rowAt i ∈ job.data.rows := by
  have fits : i < job.data.rows.length := by rwa [Table.length_rows]
  rw [Job.rowAt, List.getD_eq_getElem _ _ fits]
  exact List.getElem_mem fits

/-- No row of one block is near a row of the other. -/
theorem not_near_append (separate : Separate A B) (hi : i < A.data.rowCount) (hj : j < B.data.rowCount) :
    ¬ (A.append B separate.columns).Near i (A.data.rowCount + j) := by
  rintro ⟨-, -, close⟩
  rw [rowAt_append_left separate.columns hi, rowAt_append_right] at close
  exact separate.far _ (rowAt_mem hi) _ (rowAt_mem hj) close

/-- Rows of the second job add nothing to the density of the first one's. -/
theorem densityAt_append_left (accepted : Accepted A) (separate : Separate A B) (hi : i < A.data.rowCount) :
    (A.append B separate.columns).densityAt i = A.densityAt i := by
  have others : ((List.range B.data.rowCount).filter fun j =>
      decide ((A.append B separate.columns).Near i (A.data.rowCount + j))) = [] := by
    rw [List.filter_eq_nil_iff]
    intro j member close
    exact not_near_append separate hi (List.mem_range.1 member) (of_decide_eq_true close)
  have own : ((List.range A.data.rowCount).filter fun j => decide ((A.append B separate.columns).Near i j)) =
      (List.range A.data.rowCount).filter fun j => decide (A.Near i j) := by
    apply List.filter_congr
    intro j member
    exact decide_eq_decide.2 ((placed_left separate).near_iff hi (List.mem_range.1 member)).symm
  rw [Job.densityAt, Job.densityAt, rowCount_append, filter_range_add, others, own, List.map_nil, List.append_nil]
  congr 1
  apply List.map_congr_left
  intro j member
  exact weightAt_append_left accepted separate (List.mem_range.1 (List.mem_filter.1 member).1)

/-- Rows of the first job add nothing to the density of the second one's. -/
theorem densityAt_append_right (accepted : Accepted A) (separate : Separate A B) (hj : j < B.data.rowCount) :
    (A.append B separate.columns).densityAt (A.data.rowCount + j) = B.densityAt j := by
  have others : ((List.range A.data.rowCount).filter fun i =>
      decide ((A.append B separate.columns).Near (A.data.rowCount + j) i)) = [] := by
    rw [List.filter_eq_nil_iff]
    intro i member close
    exact not_near_append separate (List.mem_range.1 member) hj (of_decide_eq_true close).symm
  have own : ((List.range B.data.rowCount).filter fun k =>
      decide ((A.append B separate.columns).Near (A.data.rowCount + j) (A.data.rowCount + k))) =
      (List.range B.data.rowCount).filter fun k => decide (B.Near j k) := by
    apply List.filter_congr
    intro k member
    exact decide_eq_decide.2 ((placed_right separate).near_iff hj (List.mem_range.1 member)).symm
  rw [Job.densityAt, Job.densityAt, rowCount_append, filter_range_add, others, own, List.nil_append, List.map_map]
  congr 1
  apply List.map_congr_left
  intro k _
  exact weightAt_append_right accepted separate k

/-- A row of the whole is in one of the blocks. -/
theorem block_cases (separate : Separate A B) {t : Nat} (inside : t < (A.append B separate.columns).data.rowCount) :
    t < A.data.rowCount ∨ ∃ j < B.data.rowCount, A.data.rowCount + j = t := by
  rw [rowCount_append] at inside
  by_cases first : t < A.data.rowCount
  · exact .inl first
  · exact .inr ⟨t - A.data.rowCount, by omega, by omega⟩

/-- Each row of the first job stands for itself in both together. -/
theorem represents_left (accepted : Accepted A) (separate : Separate A B) :
    Represents id A.data.rowCount A.Near A.IsCore (A.append B separate.columns).Near
      (A.append B separate.columns).IsCore := by
  refine (placed_left separate).represents accepted (fun _ _ _ le => le) (fun i hi => ?_) fun i t hi core close => ?_
  · exact (placed_left separate).isCore_iff hi (densityAt_append_left accepted separate hi)
  · rcases block_cases separate core.1 with first | ⟨j, hj, rfl⟩
    · exact ⟨t, first, rfl⟩
    · exact absurd close (not_near_append separate hi hj)

/-- A row of the second job stands for the one as many rows later as the first job has. -/
theorem represents_right (accepted : Accepted A) (accepted' : Accepted B) (separate : Separate A B) :
    Represents (A.data.rowCount + ·) B.data.rowCount B.Near B.IsCore (A.append B separate.columns).Near
      (A.append B separate.columns).IsCore := by
  refine (placed_right separate).represents accepted' (fun _ _ _ le => Nat.add_le_add_left le _) (fun j hj => ?_)
    fun j t hj core close => ?_
  · exact (placed_right separate).isCore_iff hj (densityAt_append_right accepted separate hj)
  · rcases block_cases separate core.1 with first | ⟨k, hk, same⟩
    · exact absurd close.symm (not_near_append separate first hj)
    · exact ⟨k, hk, same⟩

/-! ### The clustering of the whole -/

theorem isCore_left (accepted : Accepted A) (separate : Separate A B) :
    ∀ i ∈ List.range A.data.rowCount, decide ((A.append B separate.columns).IsCore i) = decide (A.IsCore i) := by
  intro i member
  exact decide_eq_decide.2 ((represents_left accepted separate).core_iff i (List.mem_range.1 member)).symm

theorem isCore_right (accepted : Accepted A) (accepted' : Accepted B) (separate : Separate A B) :
    ∀ j ∈ List.range B.data.rowCount,
      decide ((A.append B separate.columns).IsCore (A.data.rowCount + j)) = decide (B.IsCore j) := by
  intro j member
  exact decide_eq_decide.2 ((represents_right accepted accepted' separate).core_iff j (List.mem_range.1 member)).symm

/-- The rows of the whole are core that are so in their block. -/
theorem filter_isCore_append (accepted : Accepted A) (accepted' : Accepted B) (separate : Separate A B) :
    ((List.range (A.append B separate.columns).data.rowCount).filter fun i =>
      decide ((A.append B separate.columns).IsCore i)) =
      ((List.range A.data.rowCount).filter fun i => decide (A.IsCore i)) ++
        ((List.range B.data.rowCount).filter fun j => decide (B.IsCore j)).map (A.data.rowCount + ·) := by
  rw [rowCount_append, filter_range_add, List.filter_congr (isCore_left accepted separate),
    List.filter_congr (isCore_right accepted accepted' separate)]

/-- Clusters of the first job keep their numbers. -/
theorem ordinal_left (accepted : Accepted A) (separate : Separate A B) (le : i ≤ A.data.rowCount) :
    ordinal A.Near A.IsCore i =
      ordinal (A.append B separate.columns).Near (A.append B separate.columns).IsCore i := by
  have r := represents_left accepted separate
  apply r.ordinal_eq
  · exact fun s before _ => before
  · intro u before leads
    obtain ⟨s, first, rfl⟩ := r.exists_leads_of_apply (Nat.lt_of_lt_of_le before le) leads
    exact ⟨s, before, first, rfl⟩

/-- The labels of the whole are those of the first block and, numbered on, those of the second. -/
theorem labels_append (accepted : Accepted A) (accepted' : Accepted B) (separate : Separate A B) {c d e : Clustering}
    (described : Describes A c) (described' : Describes B d) (whole : Describes (A.append B separate.columns) e) :
    e.labels = c.labels ++ d.labels.map (shiftLabel c.clusterCount) := by
  have left := represents_left accepted separate
  have right := represents_right accepted accepted' separate
  have rows := described.reference.length
  have rows' := described'.reference.length
  have total := whole.reference.length
  rw [rowCount_append] at total
  have first : ∀ s, Leads A.Near A.IsCore s →
      ordinal (A.append B separate.columns).Near (A.append B separate.columns).IsCore s =
        ordinal A.Near A.IsCore s := by
    intro s leads
    exact (ordinal_left accepted separate (Nat.le_of_lt leads.1.1)).symm
  have later : ∀ s, Leads B.Near B.IsCore s →
      ordinal (A.append B separate.columns).Near (A.append B separate.columns).IsCore (A.data.rowCount + s) =
        ordinal B.Near B.IsCore s + c.clusterCount := by
    intro s leads
    rw [ordinal_add right (Nat.le_of_lt leads.1.1), ← ordinal_left accepted separate (Nat.le_refl _),
      described.reference.counted, Nat.add_comm]
  apply List.ext_getElem?
  intro t
  by_cases inside : t < (A.append B separate.columns).data.rowCount
  · rcases block_cases separate inside with low | ⟨j, hj, rfl⟩
    · rw [List.getElem?_append_left (by omega)]
      exact left.labels_eq described.reference whole.reference first low inside
    · have label := right.labels_apply described'.reference whole.reference later hj inside
      rw [List.getElem?_append_right (by omega), rows, Nat.add_sub_cancel_left, List.getElem?_map]
      exact label
  · have outside : (c.labels ++ d.labels.map (shiftLabel c.clusterCount)).length ≤ t := by
      rw [List.length_append, List.length_map, rows, rows', ← rowCount_append separate.columns]
      omega
    rw [List.getElem?_eq_none outside, List.getElem?_eq_none]
    rw [total, ← rowCount_append separate.columns]
    omega

/-- Separate blocks of rows are clustered one after the other. -/
theorem clustering_append (A B : Job) (sound : fault? A = none) (sound' : fault? B = none) (separate : Separate A B) :
    ∃ c d e, ClusteredAs A c ∧ ClusteredAs B d ∧ ClusteredAs (A.append B separate.columns) e ∧
      Concatenated A.data.rowCount c d e := by
  have accepted := fault?_eq_none_iff.1 sound
  have accepted' := fault?_eq_none_iff.1 sound'
  have accepted_whole := accepted_append accepted accepted' separate
  obtain ⟨c, answered, described⟩ := exists_clustering sound
  obtain ⟨d, answered', described'⟩ := exists_clustering sound'
  obtain ⟨e, answered_whole, whole⟩ := exists_clustering (fault?_eq_none_iff.2 accepted_whole)
  have cores := filter_isCore_append accepted accepted' separate
  refine ⟨c, d, e, answered, answered', answered_whole, ?_⟩
  constructor
  case clusterCount =>
    rw [whole.reference.counted, rowCount_append, ordinal_add (represents_right accepted accepted' separate) (Nat.le_refl _),
      ← ordinal_left accepted separate (Nat.le_refl _), ← described.reference.counted, ← described'.reference.counted]
  case labels => exact labels_append accepted accepted' separate described described' whole
  case coreFlags =>
    rw [whole.coreFlags, described.coreFlags, described'.coreFlags, rowCount_append, List.range_add, List.map_append,
      List.map_map, List.map_congr_left (isCore_left accepted separate)]
    congr 1
    exact List.map_congr_left (isCore_right accepted accepted' separate)
  case coreIndices => rw [whole.coreIndices, cores, described.coreIndices, described'.coreIndices]
  case coreRows =>
    rw [whole.coreRows, cores, described.coreRows, described'.coreRows, List.map_append, List.map_map]
    congr 1
    · apply List.map_congr_left
      intro i member
      exact rowAt_append_left separate.columns (List.mem_range.1 (List.mem_filter.1 member).1)
    · apply List.map_congr_left
      intro j _
      exact rowAt_append_right separate.columns j
  case columns =>
    rw [whole.columns, described.columns]
    exact Table.columnCount_append A.data B.data separate.columns

/-- Three rows on a line, one of them with a negative weight. -/
def nearBlock : Job :=
  ⟨⟨1.0, 2, .only .labels⟩, Table.column [0.0, 0.5, 1.5], some (Table.column [2.0, -0.5, 1.0])⟩

/-- Four rows far from those of `nearBlock`, the last one alone. -/
def farBlock : Job :=
  ⟨⟨1.0, 2, .only .labels⟩, Table.column [10.0, 10.5, 11.0, 30.0], some (Table.column [1.0, 1.0, 1.0, 1.0])⟩

theorem clustering_append_blocks :
    ∃ separate : Separate nearBlock farBlock, (fault? nearBlock = none ∧ fault? farBlock = none) ∧
      ∃ c d e, ClusteredAs nearBlock c ∧ ClusteredAs farBlock d ∧
        ClusteredAs (nearBlock.append farBlock separate.columns) e ∧ Concatenated nearBlock.data.rowCount c d e := by
  have sound : fault? nearBlock = none := by decide +kernel
  have sound' : fault? farBlock = none := by decide +kernel
  have separate : Separate nearBlock farBlock := ⟨rfl, rfl, rfl, by decide +kernel, by decide +kernel⟩
  exact ⟨separate, ⟨sound, sound'⟩, clustering_append nearBlock farBlock sound sound' separate⟩

end Density

end DensityAudit
