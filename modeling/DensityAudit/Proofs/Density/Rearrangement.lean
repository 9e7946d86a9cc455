import Mathlib.Combinatorics.Enumerative.DoubleCounting
import DensityAudit.Proofs.Compare.Partition
import DensityAudit.Proofs.Density.Picked
import DensityAudit.Proofs.Doubles.Sums

/-!
# Rows in another order

The order of the rows decides how clusters are numbered and which cluster a border row between several of them joins; it
does not decide which rows are core rows, border rows or noise, which core rows are together, how many clusters there are,
or that a border row joins one of the clusters near it (`clustering_rearranged`). Chains of core rows go along a renumbering
in both directions (`Renumbered.linked_iff`), and the clusters are as many because each has one first core row under either
numbering (`Renumbered.ordinal_eq`). Densities must not depend on the order of the summands, so weights are whole numbers
here.
-/

namespace DensityAudit

/-! ### Core rows under other numbers -/

namespace Density

variable {near near' : Nat → Nat → Prop} {core core' : Nat → Prop} {f g : Nat → Nat} {i j k rows rows' : Nat}

/-- The core rows of one set are those of another under other numbers: row `i` is row `f i`, and row `t` is `g t`. -/
structure Renumbered (f g : Nat → Nat) (near : Nat → Nat → Prop) (core : Nat → Prop) (near' : Nat → Nat → Prop)
    (core' : Nat → Prop) : Prop where
  dense : ∀ i, core i → core' (f i)
  dense_back : ∀ t, core' t → core (g t)
  close : ∀ i j, core i → core j → near i j → near' (f i) (f j)
  close_back : ∀ s t, core' s → core' t → near' s t → near (g s) (g t)
  back : ∀ i, core i → g (f i) = i
  forth : ∀ t, core' t → f (g t) = t

namespace Renumbered

/-- A renumbering can be undone. -/
theorem symm (r : Renumbered f g near core near' core') : Renumbered g f near' core' near core :=
  ⟨r.dense_back, r.dense, r.close_back, r.close, r.forth, r.back⟩

/-- Core rows are linked as they were. -/
theorem linked_iff (r : Renumbered f g near core near' core') (hi : core i) (hj : core j) :
    Linked near core i j ↔ Linked near' core' (f i) (f j) := by
  constructor
  · exact fun link => link.lift f r.dense r.close
  · intro link
    have link' := link.lift g r.dense_back r.close_back
    rwa [r.back i hi, r.back j hj] at link'

/-- No cluster is lost: the first core row of a cluster is linked to a first core row under the other numbers. -/
theorem ordinal_le (r : Renumbered f g near core near' core') (symmetric : ∀ i j, near i j → near j i)
    (symmetric' : ∀ i j, near' i j → near' j i) (inside' : ∀ t, core' t → t < rows') :
    ordinal near core rows ≤ ordinal near' core' rows' := by
  classical
  rw [ordinal, ordinal, Nat.count_eq_card_filter_range, Nat.count_eq_card_filter_range]
  -- a first core row may not stay first under the other numbers; it goes with the first row of the cluster it is in then
  apply Finset.card_le_card_of_forall_subsingleton fun s t => Linked near' core' t (f s)
  · intro s member
    obtain ⟨-, first⟩ := Finset.mem_filter.1 member
    obtain ⟨t, -, first', link⟩ : ∃ t ≤ f s, Leads near' core' t ∧ Linked near' core' t (f s) :=
      exists_leads (r.dense s first.1)
    exact ⟨t, Finset.mem_filter.2 ⟨Finset.mem_range.2 (inside' t first'.1), first'⟩, link⟩
  · rintro t - s ⟨member, link⟩ s' ⟨member', link'⟩
    obtain ⟨-, first⟩ := Finset.mem_filter.1 member
    obtain ⟨-, first'⟩ := Finset.mem_filter.1 member'
    exact first.eq symmetric first' ((r.linked_iff first.1 first'.1).2 ((link.symm symmetric').trans link'))

/-- There are as many clusters under either numbering. -/
theorem ordinal_eq (r : Renumbered f g near core near' core') (symmetric : ∀ i j, near i j → near j i)
    (symmetric' : ∀ i j, near' i j → near' j i) (inside : ∀ i, core i → i < rows) (inside' : ∀ t, core' t → t < rows') :
    ordinal near core rows = ordinal near' core' rows' :=
  Nat.le_antisymm (r.ordinal_le symmetric symmetric' inside') (r.symm.ordinal_le symmetric' symmetric inside)

end Renumbered

end Density

/-! ### Rows that weigh whole numbers -/

/-- Row `i` weighs as much as `counts[i]` rows, which is one row without weights, and all rows together weigh no more
than doubles count. -/
def Job.WeighedBy (job : Job) (counts : List Nat) : Prop :=
  counts.sum ≤ 2 ^ 53 ∧
    match job.weights? with
    | none => counts = List.replicate job.data.rowCount 1
    | some w => List.Forall₂ Binary64.IsCount w.values counts

/-- Row `i` is a border row: not core, but near a core row. -/
def Job.IsBorder (job : Job) (i : Nat) : Prop := ¬ job.IsCore i ∧ ∃ j, job.IsCore j ∧ job.Near i j

namespace Density

variable {job : Job} {counts order : List Nat} {c d : Clustering} {i k : Nat}

/-- Every border row is in a cluster, and a core row near it is in the same one. -/
def Bordered (job : Job) (c : Clustering) : Prop :=
  ∀ i, job.IsBorder i → c.coreFlags[i]? = some false ∧
    ∃ l, c.labels[i]? = some l ∧ l ≠ noise ∧ ∃ j, job.Near i j ∧ c.coreFlags[j]? = some true ∧ c.labels[j]? = some l

/-- The second clustering is the first with the rows in another order, up to the names of the clusters and the choice
among several clusters near a row. -/
structure Rearranged (job : Job) (order : List Nat) (c d : Clustering) : Prop where
  clusterCount : d.clusterCount = c.clusterCount
  coreFlags : d.coreFlags = pick order c.coreFlags
  flagged : ∀ i, c.coreFlags[i]? = some true ↔ job.IsCore i
  noise : ∀ k i : Nat, order[k]? = some i → (d.labels[k]? = some noise ↔ c.labels[i]? = some noise)
  outside : ∀ i < job.data.rowCount, c.labels[i]? = some DensityAudit.noise ↔ ¬ job.IsCore i ∧ ¬ job.IsBorder i
  /-- The labels of the core rows describe the same partition. -/
  together : ∃ e, comparePartitions (pick d.coreIndices d.labels) (pick d.coreIndices (pick order c.labels)) = .ok e
  /-- A row is a border row in either order. -/
  bordering : ∀ k i : Nat, order[k]? = some i → ((job.pick order).IsBorder k ↔ job.IsBorder i)
  border : Bordered job c
  border' : Bordered (job.pick order) d

/-- Every border row of a clustering that fits the job is in the cluster of a core row near it. -/
theorem Describes.bordered (described : Describes job c) : Bordered job c := by
  rintro i ⟨sparse, near⟩
  have inside : i < job.data.rowCount := near.choose_spec.2.1
  have flag : c.coreFlags[i]? = some false := by
    rw [described.coreFlags, List.getElem?_map, List.getElem?_range inside, Option.map_some, decide_eq_false sparse]
  obtain ⟨l, found, other⟩ := (described.reference.clustered_iff inside).2 (.inr near)
  obtain ⟨l', found', ⟨j, core, close, label⟩, -⟩ := described.reference.border i inside sparse near
  obtain rfl : l = l' := Option.some.inj (found.symm.trans found')
  exact ⟨flag, l, found, other, j, close, described.coreFlag_iff.2 core, label⟩

/-- Noise is what is neither core nor on a border. -/
theorem Describes.outside (described : Describes job c) (inside : i < job.data.rowCount) :
    c.labels[i]? = some noise ↔ ¬ job.IsCore i ∧ ¬ job.IsBorder i := by
  rw [described.reference.noise_iff inside, not_or]
  refine and_congr_right fun sparse => ?_
  rw [Job.IsBorder, and_iff_right sparse]

theorem placeAt_of_getElem? (found : order[k]? = some i) : k < order.length ∧ placeAt order k = i := by
  obtain ⟨hk, place⟩ := List.getElem?_eq_some_iff.1 found
  exact ⟨hk, by rw [placeAt, List.getD_eq_getElem _ _ hk, place]⟩

section

variable (accepted : Accepted job) (weighed : job.WeighedBy counts)
include accepted weighed

theorem length_of_weighed : counts.length = job.data.rowCount := by
  have rows := weighed.2
  cases given : job.weights? with
  | none =>
    rw [given] at rows
    rw [rows, List.length_replicate]
  | some w =>
    rw [given] at rows
    rw [← rows.length_eq, length_weights accepted given]

theorem weightAt_isCount (inside : i < job.data.rowCount) : Binary64.IsCount (job.weightAt i) (counts.getD i 0) := by
  have fits : i < counts.length := by rwa [length_of_weighed accepted weighed]
  have rows := weighed.2
  rw [Job.weightAt, List.getD_eq_getElem _ _ fits]
  cases given : job.weights? with
  | none =>
    rw [given] at rows
    subst rows
    rw [List.getElem_replicate]
    exact Binary64.ofCount_one ▸ Binary64.isCount_ofCount 1
  | some w =>
    rw [given] at rows
    have fits' : i < w.values.length := by rwa [length_weights accepted given]
    show Binary64.IsCount (w.values.getD i 0.0) _
    rw [List.getD_eq_getElem _ _ fits']
    exact rows.get fits' fits

/-- The weights of rows sum up to the sum of their counts. -/
theorem foldl_weightAt_isCount {rows : List Nat} (inside : ∀ i ∈ rows, i < job.data.rowCount)
    (short : (rows.map fun i => counts.getD i 0).sum ≤ 2 ^ 53) :
    Binary64.IsCount ((rows.map job.weightAt).foldl (· + ·) 0.0) (rows.map fun i => counts.getD i 0).sum := by
  have each : List.Forall₂ Binary64.IsCount (rows.map job.weightAt) (rows.map fun i => counts.getD i 0) := by
    rw [List.forall₂_map_left_iff, List.forall₂_map_right_iff, List.forall₂_same]
    exact fun i member => weightAt_isCount accepted weighed (inside i member)
  have start : Binary64.IsCount 0.0 0 := Binary64.ofCount_zero ▸ Binary64.isCount_ofCount 0
  have total := Binary64.foldl_add_isCount each start (by omega)
  rwa [Nat.zero_add] at total

/-- The rows with a property, in any order, weigh no more than all rows together. -/
theorem sum_counts_le_sum (p : Nat → Bool) (perm : order.Perm (List.range job.data.rowCount)) :
    ((order.filter p).map fun i => counts.getD i 0).sum ≤ counts.sum := by
  have some : ((order.filter p).map fun i => counts.getD i 0).Sublist (order.map fun i => counts.getD i 0) :=
    List.filter_sublist.map _
  have all := map_getD_range counts 0
  rw [length_of_weighed accepted weighed] at all
  calc ((order.filter p).map fun i => counts.getD i 0).sum
      ≤ (order.map fun i => counts.getD i 0).sum := some.sum_le_sum fun _ _ => Nat.zero_le _
    _ = ((List.range job.data.rowCount).map fun i => counts.getD i 0).sum := (perm.map _).sum_nat
    _ = counts.sum := by rw [all]

/-- The rows with a property, in any order, weigh no more than doubles count. -/
theorem sum_counts_le (p : Nat → Bool) (perm : order.Perm (List.range job.data.rowCount)) :
    ((order.filter p).map fun i => counts.getD i 0).sum ≤ 2 ^ 53 :=
  (sum_counts_le_sum accepted weighed p perm).trans weighed.1

variable (perm : order.Perm (List.range job.data.rowCount))
include perm

omit accepted weighed in
theorem order_inside : ∀ i ∈ order, i < job.data.rowCount := fun _ member => List.mem_range.1 (perm.mem_iff.1 member)

/-- A row is core in either order. -/
theorem isCore_rearranged_iff (hk : k < order.length) : (job.pick order).IsCore k ↔ job.IsCore (placeAt order k) := by
  have inside := order_inside perm
  let close := fun j => decide (job.Near (placeAt order k) j)
  have sums : ((order.filter close).map fun i => counts.getD i 0).sum =
      (((List.range job.data.rowCount).filter close).map fun i => counts.getD i 0).sum :=
    ((perm.filter close).map _).sum_nat
  have density : Binary64.IsCount (job.densityAt (placeAt order k)) ((order.filter close).map fun i => counts.getD i 0).sum := by
    rw [sums]
    apply foldl_weightAt_isCount accepted weighed
    · exact fun j member => List.mem_range.1 (List.mem_filter.1 member).1
    · exact sum_counts_le accepted weighed close (.refl _)
  have density' : Binary64.IsCount ((job.pick order).densityAt k) ((order.filter close).map fun i => counts.getD i 0).sum := by
    rw [densityAt_pick inside accepted hk]
    apply foldl_weightAt_isCount accepted weighed
    · exact fun j member => inside j (List.mem_filter.1 member).1
    · exact sum_counts_le accepted weighed close perm
  rw [Job.IsCore, Job.IsCore, rowCount_pick inside, density.le_iff, density'.le_iff]
  exact and_congr_left fun _ => iff_of_true hk (inside _ (placeAt_mem hk))

omit accepted weighed in
theorem idxOf_placeAt (hk : k < order.length) : order.idxOf (placeAt order k) = k := by
  have nodup : order.Nodup := perm.nodup_iff.2 List.nodup_range
  rw [placeAt, List.getD_eq_getElem _ _ hk]
  exact nodup.idxOf_getElem k hk

omit accepted weighed in
theorem placeAt_idxOf (hi : i < job.data.rowCount) : order.idxOf i < order.length ∧ placeAt order (order.idxOf i) = i := by
  have member : i ∈ order := perm.mem_iff.2 (List.mem_range.2 hi)
  have inside := List.idxOf_lt_length_of_mem member
  refine ⟨inside, ?_⟩
  rw [placeAt, List.getD_eq_getElem _ _ inside]
  exact List.getElem_idxOf inside

/-- The rows in another order are the same rows under other numbers. -/
theorem renumbered : Renumbered (placeAt order) order.idxOf (job.pick order).Near (job.pick order).IsCore job.Near job.IsCore := by
  have inside := order_inside perm
  have rows := rowCount_pick inside
  have placed := placed_pick inside
  have below : ∀ {k}, (job.pick order).IsCore k → k < order.length := fun core => by
    rw [← rows]
    exact core.1
  refine ⟨?dense, ?dense_back, ?close, ?close_back, ?back, ?forth⟩
  case dense => exact fun k core => (isCore_rearranged_iff accepted weighed perm (below core)).1 core
  case dense_back =>
    intro t core
    obtain ⟨hk, place⟩ := placeAt_idxOf perm core.1
    rw [isCore_rearranged_iff accepted weighed perm hk, place]
    exact core
  case close => exact fun k l core core' => (placed.near_iff core.1 core'.1).1
  case close_back =>
    intro s t core core' close
    obtain ⟨hs, place⟩ := placeAt_idxOf perm core.1
    obtain ⟨ht, place'⟩ := placeAt_idxOf perm core'.1
    rw [placed.near_iff (by rwa [rows]) (by rwa [rows]), place, place']
    exact close
  case back => exact fun k core => idxOf_placeAt perm (below core)
  case forth => exact fun t core => (placeAt_idxOf perm core.1).2

/-- A row is near a core row in either order. -/
theorem near_core_rearranged_iff (hk : k < order.length) :
    (∃ l, (job.pick order).IsCore l ∧ (job.pick order).Near k l) ↔ ∃ j, job.IsCore j ∧ job.Near (placeAt order k) j := by
  have inside := order_inside perm
  have placed := placed_pick inside
  have hk' : k < (job.pick order).data.rowCount := by rwa [rowCount_pick inside]
  have r := renumbered accepted weighed perm
  constructor
  · rintro ⟨l, core, close⟩
    exact ⟨_, r.dense l core, (placed.near_iff hk' core.1).1 close⟩
  · rintro ⟨t, core, close⟩
    refine ⟨_, r.dense_back t core, (placed.near_iff hk' (r.dense_back t core).1).2 ?_⟩
    rwa [r.forth t core]

/-- A row is a border row in either order. -/
theorem isBorder_rearranged_iff (hk : k < order.length) :
    (job.pick order).IsBorder k ↔ job.IsBorder (placeAt order k) := by
  rw [Job.IsBorder, Job.IsBorder, isCore_rearranged_iff accepted weighed perm hk,
    near_core_rearranged_iff accepted weighed perm hk]

/-- A row is noise in either order. -/
theorem noise_rearranged_iff (described : Describes job c) (described' : Describes (job.pick order) d)
    (hk : k < order.length) : d.labels[k]? = some noise ↔ c.labels[placeAt order k]? = some noise := by
  have inside := order_inside perm
  have hk' : k < (job.pick order).data.rowCount := by rwa [rowCount_pick inside]
  rw [described'.outside hk', described.outside (inside _ (placeAt_mem hk)), isCore_rearranged_iff accepted weighed perm hk,
    isBorder_rearranged_iff accepted weighed perm hk]

/-- Core rows are in one cluster in either order. -/
theorem samePartition_rearranged (described : Describes job c) (described' : Describes (job.pick order) d) :
    SamePartition ((pick d.coreIndices d.labels).zip (pick d.coreIndices (pick order c.labels))) := by
  have inside := order_inside perm
  have r := renumbered accepted weighed perm
  have fits : ∀ i ∈ order, i < c.labels.length := by rwa [described.reference.length]
  have fits' : ∀ k ∈ d.coreIndices, k < d.labels.length := by
    intro k member
    rw [described'.reference.length]
    exact (described'.mem_coreIndices_iff.1 member).1
  have length : d.labels.length = (pick order c.labels).length := by
    rw [described'.reference.length, rowCount_pick inside, length_pick fits]
  have moved : ∀ {k}, (job.pick order).IsCore k → (pick order c.labels)[k]? = c.labels[placeAt order k]? := by
    intro k core
    apply getElem?_pick fits
    rw [← rowCount_pick inside]
    exact core.1
  rw [pick_eq_map_getD fits' noise, pick_eq_map_getD (length ▸ fits') noise]
  apply samePartition_map
  · intro k member
    have core := described'.mem_coreIndices_iff.1 member
    obtain ⟨n, found⟩ := described'.reference.exists_label_of_core core
    obtain ⟨n', found'⟩ := described.reference.exists_label_of_core (r.dense k core)
    rw [List.getD_eq_getElem?_getD, List.getD_eq_getElem?_getD, moved core, found, found']
    exact ⟨Int.natCast_nonneg n, Int.natCast_nonneg n'⟩
  · intro k member t member'
    have core := described'.mem_coreIndices_iff.1 member
    have core' := described'.mem_coreIndices_iff.1 member'
    have known := fits' k member
    have known' := fits' t member'
    rw [getD_eq_getD_iff known known', getD_eq_getD_iff (length ▸ known) (length ▸ known'), moved core, moved core',
      described'.reference.joined k t core core', described.reference.joined _ _ (r.dense k core) (r.dense t core')]
    exact r.linked_iff core core'

end

/-- Only border rows depend on the order of the rows. If the rows weigh whole numbers, the job with its rows in another
order has the same core rows, the same border rows, the same noise and as many clusters, and its core rows are in the same
clusters up to renaming. In either order every border row is in the cluster of a core row near it. -/
theorem clustering_rearranged (job : Job) (counts order : List Nat) (sound : fault? job = none)
    (weighed : job.WeighedBy counts) (perm : order.Perm (List.range job.data.rowCount)) :
    ∃ c d, ClusteredAs job c ∧ ClusteredAs (job.pick order) d ∧ Rearranged job order c d := by
  have accepted := fault?_eq_none_iff.1 sound
  have inside := order_inside perm
  have rows := rowCount_pick inside
  have r := renumbered accepted weighed perm
  have some : order ≠ [] := by
    rintro rfl
    have none := perm.length_eq
    rw [List.length_nil, List.length_range] at none
    exact absurd accepted.rows (by omega)
  have accepted' := accepted_pick inside accepted some
  obtain ⟨c, answered, described⟩ := exists_clustering sound
  obtain ⟨d, answered', described'⟩ := exists_clustering (fault?_eq_none_iff.2 accepted')
  refine ⟨c, d, answered, answered', ?clusterCount, ?coreFlags, fun i => described.coreFlag_iff, ?noise,
    fun i inside => described.outside inside, ?together, ?bordering, described.bordered, described'.bordered⟩
  case clusterCount =>
    rw [described.reference.counted, described'.reference.counted]
    exact r.ordinal_eq (fun _ _ => Job.Near.symm) (fun _ _ => Job.Near.symm) (fun _ core => core.1) fun _ core => core.1
  case coreFlags =>
    exact coreFlags_pick inside described described' fun k hk => isCore_rearranged_iff accepted weighed perm hk
  case noise =>
    intro k i found
    obtain ⟨hk, place⟩ := placeAt_of_getElem? found
    rw [noise_rearranged_iff accepted weighed perm described described' hk, place]
  case bordering =>
    intro k i found
    obtain ⟨hk, place⟩ := placeAt_of_getElem? found
    rw [isBorder_rearranged_iff accepted weighed perm hk, place]
  case together =>
    apply exists_ok_of_samePartition ?_ (samePartition_rearranged accepted weighed perm described described')
    have fits : ∀ i ∈ order, i < c.labels.length := by rwa [described.reference.length]
    have fits' : ∀ k ∈ d.coreIndices, k < order.length := by
      intro k member
      rw [← rows]
      exact (described'.mem_coreIndices_iff.1 member).1
    rw [length_pick, length_pick]
    · rwa [length_pick fits]
    · rwa [described'.reference.length, rows]

/-- Five rows on a line that weigh whole numbers, of which row two is near a core row on either side. -/
def weighedJob : Job :=
  ⟨⟨1.0, 4, .only .labels⟩, Table.column [-1.0, 0.0, 1.0, 2.0, 3.0], some (Table.column [2.0, 1.0, 1.0, 1.0, 2.0])⟩

theorem clustering_rearranged_weighedJob :
    (fault? weighedJob = none ∧ weighedJob.WeighedBy [2, 1, 1, 1, 2] ∧
        [3, 0, 4, 2, 1].Perm (List.range weighedJob.data.rowCount)) ∧
      weighedJob.IsBorder 2 ∧ (weighedJob.IsCore 3 ∧ weighedJob.Near 2 3) ∧
      ∃ c d, ClusteredAs weighedJob c ∧ ClusteredAs (weighedJob.pick [3, 0, 4, 2, 1]) d ∧
        Rearranged weighedJob [3, 0, 4, 2, 1] c d := by
  have sound : fault? weighedJob = none := by decide +kernel
  have weighed : weighedJob.WeighedBy [2, 1, 1, 1, 2] := by
    refine ⟨by decide, ?_⟩
    exact .cons (by decide +kernel) (.cons (by decide +kernel) (.cons (by decide +kernel) (.cons (by decide +kernel)
      (.cons (by decide +kernel) .nil))))
  have perm : [3, 0, 4, 2, 1].Perm (List.range weighedJob.data.rowCount) := by decide
  have border : weighedJob.IsBorder 2 := ⟨by decide +kernel, 1, by decide +kernel⟩
  exact ⟨⟨sound, weighed, perm⟩, border, by decide +kernel, clustering_rearranged weighedJob _ _ sound weighed perm⟩

end Density

end DensityAudit
