import Mathlib.Data.List.Dedup
import Mathlib.Data.List.Zip
import DensityAudit.Proofs.Compare.Partition
import DensityAudit.Proofs.Table.Arrange

/-!
# Equal partitions as an equivalence

A comparison passes with a renaming iff the renaming has grown over all rows (`comparePartitions_eq_ok_iff`), and that is
a matter of which rows there are. So the renamings of passed comparisons have an identity, inverses and compositions, and
do not depend on the order of the rows. If a comparison fails, the other way round it fails at the same row, but a row is
asked for a split before it is asked for a merge: `Conflict.Mirrored` says what becomes of the conflict. All of it
together is `comparePartitions_equivalence`.
-/

namespace DensityAudit

variable {rows rows' before : List (Label × Label)} {m m' : Renaming} {a b d : List Label} {c r x y z : Label}

theorem mem_map_swap : (c, r) ∈ rows.map Prod.swap ↔ (r, c) ∈ rows :=
  List.mem_map_of_injective (a := (r, c)) Prod.swap_injective

/-! ### Renamings -/

namespace Renaming

/-- The pairs stand in ascending order of the computed clusters, each of which has one partner. -/
def Ascending (m : Renaming) : Prop := m.Pairwise fun p q => p.1 < q.1

def ofPairs (pairs : List (Label × Label)) : Renaming := pairs.foldr (fun p m => insert p.1 p.2 m) []

/-- Every cluster of a labelling keeps its name. -/
def identity (labels : List Label) : Renaming := ofPairs ((labels.dedup.filter fun l => decide (0 ≤ l)).map fun l => (l, l))

/-- The renaming back. -/
def inverse (m : Renaming) : Renaming := ofPairs (m.map Prod.swap)

/-- One renaming after another. -/
def compose (m m' : Renaming) : Renaming := m.filterMap fun p => (m'.image? p.2).map fun r => (p.1, r)

variable {pairs : List (Label × Label)} {labels : List Label} {pair : Label × Label}

theorem mem_ofPairs : pair ∈ ofPairs pairs ↔ pair ∈ pairs := by
  induction pairs with
  | nil => exact Iff.rfl
  | cons p rest ih =>
    rw [ofPairs, List.foldr_cons, mem_insert, List.mem_cons]
    exact or_congr_right ih

theorem ascending_ofPairs (keys : (pairs.map Prod.fst).Nodup) : (ofPairs pairs).Ascending := by
  induction pairs with
  | nil => exact .nil
  | cons p rest ih =>
    rw [List.map_cons, List.nodup_cons] at keys
    refine ascending_insert (ih keys.2) fun q member => keys.1 ?_
    exact List.mem_map.2 ⟨(p.1, q), mem_ofPairs.1 member, rfl⟩

/-- The identity pairs each cluster of the labelling with itself. -/
theorem mem_identity : (c, r) ∈ identity labels ↔ c = r ∧ c ∈ labels ∧ 0 ≤ c := by
  rw [identity, mem_ofPairs, List.mem_map]
  constructor
  · rintro ⟨l, member, same⟩
    obtain ⟨rfl, rfl⟩ := Prod.mk.inj same
    rw [List.mem_filter, List.mem_dedup, decide_eq_true_iff] at member
    exact ⟨rfl, member⟩
  · rintro ⟨rfl, member, cluster⟩
    exact ⟨c, List.mem_filter.2 ⟨List.mem_dedup.2 member, decide_eq_true cluster⟩, rfl⟩

theorem ascending_identity (labels : List Label) : (identity labels).Ascending := by
  apply ascending_ofPairs
  rw [List.map_map]
  show (List.map id _).Nodup
  rw [List.map_id]
  exact labels.nodup_dedup.filter _

theorem mem_inverse : (c, r) ∈ m.inverse ↔ (r, c) ∈ m := mem_ofPairs.trans mem_map_swap

/-- One renaming after another pairs what both pair with the same cluster. -/
theorem mem_compose : (c, r) ∈ m.compose m' ↔ ∃ q, (c, q) ∈ m ∧ m'.image? q = some r := by
  rw [compose, List.mem_filterMap]
  constructor
  · rintro ⟨⟨p, q⟩, member, found⟩
    obtain ⟨r', image, same⟩ := Option.map_eq_some_iff.1 found
    obtain ⟨rfl, rfl⟩ := Prod.mk.inj same
    exact ⟨q, member, image⟩
  · rintro ⟨q, member, image⟩
    exact ⟨(c, q), member, by rw [image, Option.map_some]⟩

theorem ascending_compose (ascending : m.Ascending) : (m.compose m').Ascending := by
  refine List.pairwise_filterMap.2 (ascending.imp fun {p q} less s found t found' => ?_)
  obtain ⟨_, -, rfl⟩ := Option.map_eq_some_iff.1 found
  obtain ⟨_, -, rfl⟩ := Option.map_eq_some_iff.1 found'
  exact less

end Renaming

/-! ### Rows -/

theorem mem_zip_iff : (x, z) ∈ a.zip b ↔ ∃ i : Nat, a[i]? = some x ∧ b[i]? = some z := by
  simp only [List.mem_iff_getElem?, List.getElem?_zip_eq_some]

/-- A row of two labellings goes through one between them. -/
theorem exists_between (lengths : a.length = b.length) (inside : (x, z) ∈ a.zip d) :
    ∃ y, (x, y) ∈ a.zip b ∧ (y, z) ∈ b.zip d := by
  obtain ⟨i, hx, hz⟩ := mem_zip_iff.1 inside
  have hi : i < b.length := lengths ▸ (List.getElem?_eq_some_iff.1 hx).1
  have hy : b[i]? = some b[i] := List.getElem?_eq_getElem hi
  exact ⟨b[i], mem_zip_iff.2 ⟨i, hx, hy⟩, mem_zip_iff.2 ⟨i, hy, hz⟩⟩

/-- A row of two labellings goes on in a third. -/
theorem exists_beyond (lengths : b.length = d.length) (inside : (x, y) ∈ a.zip b) :
    ∃ z, (x, z) ∈ a.zip d ∧ (y, z) ∈ b.zip d := by
  obtain ⟨i, hx, hy⟩ := mem_zip_iff.1 inside
  have hi : i < d.length := lengths ▸ (List.getElem?_eq_some_iff.1 hy).1
  have hz : d[i]? = some d[i] := List.getElem?_eq_getElem hi
  exact ⟨d[i], mem_zip_iff.2 ⟨i, hx, hz⟩, mem_zip_iff.2 ⟨i, hy, hz⟩⟩

namespace SamePartition

/-- The same partition is described by labellings that have been exchanged. -/
theorem swap (same : SamePartition rows) : SamePartition (rows.map Prod.swap) where
  noise := by
    rw [List.forall_mem_map]
    exact fun p inside => (same.noise p inside).symm
  clusters := by
    simp only [List.forall_mem_map]
    exact fun p inside q inside' hp hp' hq hq' => (same.clusters p inside q inside' hp' hp hq' hq).symm

theorem swap_iff : SamePartition (rows.map Prod.swap) ↔ SamePartition rows := by
  refine ⟨fun same => ?_, swap⟩
  have back := same.swap
  rwa [List.map_map, Prod.swap_swap_eq, List.map_id] at back

/-- Descriptions of the same partition can be chained through a labelling between them. -/
theorem trans (same : SamePartition (a.zip b)) (same' : SamePartition (b.zip d)) (lengths : a.length = b.length) :
    SamePartition (a.zip d) where
  noise p inside := by
    obtain ⟨y, first, second⟩ := exists_between lengths inside
    exact (same.noise _ first).trans (same'.noise _ second)
  clusters p inside q inside' hp hp' hq hq' := by
    obtain ⟨y, first, second⟩ := exists_between lengths inside
    obtain ⟨y', first', second'⟩ := exists_between lengths inside'
    have cluster := (same.cluster_iff first).1 hp
    have cluster' := (same.cluster_iff first').1 hq
    exact (same.clusters _ first _ first' hp cluster hq cluster').trans
      (same'.clusters _ second _ second' cluster hp' cluster' hq')

end SamePartition

namespace Grown

theorem identity (labels : List Label) : Grown (labels.zip labels) (.identity labels) where
  same := samePartition_self labels
  ascending := Renaming.ascending_identity labels
  mem_iff p q := by
    rw [Renaming.mem_identity, mem_zip_iff]
    constructor
    · rintro ⟨rfl, member, cluster⟩
      obtain ⟨i, found⟩ := List.mem_iff_getElem?.1 member
      exact ⟨⟨i, found, found⟩, cluster, cluster⟩
    · rintro ⟨⟨i, found, found'⟩, cluster, -⟩
      exact ⟨Option.some.inj (found.symm.trans found'), List.mem_of_getElem? found, cluster⟩

/-- No two computed clusters have one partner. -/
theorem nodup_snd (grown : Grown rows m) : (m.map Prod.snd).Nodup := by
  have nodup : m.Nodup := grown.ascending.imp fun less same => Int.ne_of_lt less (congrArg Prod.fst same)
  refine nodup.map_on fun p hp q hq snd => Prod.ext ?_ snd
  obtain ⟨row, -, cluster⟩ := (grown.mem_iff p.1 p.2).1 hp
  exact grown.same.computed_eq row (snd ▸ grown.paired hq) cluster

/-- The renaming back is what exchanged labellings grow. -/
theorem inverse (grown : Grown rows m) : Grown (rows.map Prod.swap) m.inverse where
  same := grown.same.swap
  ascending := by
    apply Renaming.ascending_ofPairs
    rw [List.map_map]
    exact grown.nodup_snd
  mem_iff p q := by
    rw [Renaming.mem_inverse, grown.mem_iff, mem_map_swap]
    exact and_congr_right fun _ => and_comm

theorem image?_eq_some_iff (grown : Grown rows m) : m.image? c = some r ↔ (c, r) ∈ m := by
  refine ⟨Renaming.mem_of_image?, fun member => ?_⟩
  cases found : m.image? c with
  | none => exact absurd member (Renaming.not_mem_of_image? found r)
  | some q =>
    obtain ⟨row, cluster, -⟩ := (grown.mem_iff c r).1 member
    rw [grown.same.reference_eq (grown.paired (Renaming.mem_of_image? found)) row cluster]

/-- One renaming after another is what the outer labellings grow. -/
theorem compose (grown : Grown (a.zip b) m) (grown' : Grown (b.zip d) m') (lengths : a.length = b.length)
    (lengths' : b.length = d.length) : Grown (a.zip d) (m.compose m') where
  same := grown.same.trans grown'.same lengths
  ascending := Renaming.ascending_compose grown.ascending
  mem_iff p q := by
    rw [Renaming.mem_compose]
    simp only [grown'.image?_eq_some_iff]
    constructor
    · rintro ⟨y, first, second⟩
      obtain ⟨row, cluster, -⟩ := (grown.mem_iff p y).1 first
      obtain ⟨row', between, cluster'⟩ := (grown'.mem_iff y q).1 second
      obtain ⟨z, outer, inner⟩ := exists_beyond lengths' row
      rw [grown'.same.reference_eq row' inner between]
      exact ⟨outer, cluster, (grown'.same.cluster_iff inner).1 between⟩
    · rintro ⟨inside, cluster, cluster'⟩
      obtain ⟨y, first, second⟩ := exists_between lengths inside
      have between := (grown.same.cluster_iff first).1 cluster
      exact ⟨y, (grown.mem_iff p y).2 ⟨first, cluster, between⟩, (grown'.mem_iff y q).2 ⟨second, between, cluster'⟩⟩

/-- The order of the rows does not matter. -/
theorem perm (grown : Grown rows m) (h : rows.Perm rows') : Grown rows' m where
  same := grown.same.subset h.symm.subset
  ascending := grown.ascending
  mem_iff p q := by rw [grown.mem_iff, h.mem_iff]

end Grown

/-! ### Conflicts -/

/-- The row as the comparison sees it the other way round. -/
def RowDifference.swap (row : RowDifference) : RowDifference := ⟨row.index, row.reference, row.computed⟩

/-- What a conflict of a row with reference label `r` becomes if the labellings are exchanged. A split stays a split if
the reference cluster has been paired before. -/
inductive Conflict.Mirrored (before : List (Label × Label)) (r : Label) : Conflict → Conflict → Prop where
  | noise : Mirrored before r .noise .noise
  | merge (previous : Label) : Mirrored before r (.merge previous) (.split previous)
  | split (previous : Label) (fresh : ∀ q, (q, r) ∉ before) : Mirrored before r (.split previous) (.merge previous)
  | splitAgain (previous : Label) {other : Label} (paired : (other, r) ∈ before) :
      Mirrored before r (.split previous) (.split other)

/-- The mirror image of a conflict that explains a row explains it the other way round. -/
theorem Conflict.Explains.exists_mirrored {conflict : Conflict} (same : SamePartition before)
    (explains : conflict.Explains before c r) :
    ∃ mirrored, conflict.Mirrored before r mirrored ∧ mirrored.Explains (before.map Prod.swap) r c := by
  cases conflict with
  | noise => exact ⟨_, .noise, fun agree => explains agree.symm⟩
  | merge previous =>
    obtain ⟨hc, hr, fresh, paired⟩ := explains
    refine ⟨_, .merge previous, hr, hc, mem_map_swap.2 paired, ?_⟩
    rintro rfl
    exact fresh r paired
  | split previous =>
    obtain ⟨hc, hr, paired, other⟩ := explains
    by_cases known : ∃ q, (q, r) ∈ before
    · obtain ⟨q, paired'⟩ := known
      refine ⟨_, .splitAgain previous paired', hr, hc, mem_map_swap.2 paired', ?_⟩
      rintro rfl
      exact other (same.reference_eq paired paired' hc)
    · have fresh : ∀ q, (q, r) ∉ before := fun q inside => known ⟨q, inside⟩
      exact ⟨_, .split previous fresh, hr, hc, fun q inside => fresh q (mem_map_swap.1 inside), mem_map_swap.2 paired⟩

namespace FirstConflict

variable {row row' : RowDifference} {conflict conflict' : Conflict}

/-- Before the first conflict the partitions are the same. -/
theorem same_before (first : FirstConflict rows row conflict) : SamePartition (rows.take row.index) := by
  cases place : row.index with
  | zero => exact .nil
  | succ i =>
    by_contra different
    have least := first.least.2 different
    omega

/-- The labellings have their first conflict at the same row in either order. -/
theorem mirrored (first : FirstConflict rows row conflict) (first' : FirstConflict (rows.map Prod.swap) row' conflict') :
    row' = row.swap ∧ conflict.Mirrored (rows.take row.index) row.reference conflict' := by
  have ends : {i | ¬ SamePartition ((rows.map Prod.swap).take (i + 1))} = {i | ¬ SamePartition (rows.take (i + 1))} := by
    ext i
    rw [Set.mem_ofPred_eq, Set.mem_ofPred_eq, ← List.map_take, SamePartition.swap_iff]
  have place : row'.index = row.index := by
    have least := first'.least
    rw [ends] at least
    exact least.unique first.least
  have labels : (row'.computed, row'.reference) = (row.reference, row.computed) := by
    have found := first'.labels
    rw [place, List.getElem?_map, first.labels, Option.map_some, Option.some.injEq] at found
    exact found.symm
  obtain ⟨computed, reference⟩ := Prod.mk.inj labels
  obtain ⟨mirrored, image, explains⟩ := ((first.explained conflict).2 rfl).exists_mirrored first.same_before
  have only := (first'.explained mirrored).1 (by rwa [place, computed, reference, ← List.map_take])
  refine ⟨?_, only ▸ image⟩
  rw [RowDifference.swap, ← place, ← computed, ← reference]

end FirstConflict

/-! ### Comparisons -/

/-- A comparison passes with the renaming that has grown over all rows. -/
theorem comparePartitions_eq_ok_iff {e : EqualPartitions} :
    comparePartitions a b = .ok e ↔ a.length = b.length ∧ e.rows = a.length ∧ Grown (a.zip b) e.pairs := by
  constructor
  · intro passed
    have lengths : a.length = b.length := by
      by_contra other
      rw [comparePartitions, if_pos other] at passed
      cases passed
    rcases comparePartitions_cases lengths with ⟨m, passed', same, relates⟩ | ⟨row, conflict, stopped, -⟩
    · rw [passed] at passed'
      cases passed'
      exact ⟨lengths, rfl, same, relates.ascending, relates.mem_iff⟩
    · rw [passed] at stopped
      cases stopped
  · rintro ⟨lengths, count, grown⟩
    rcases comparePartitions_cases lengths with ⟨m, passed, same, relates⟩ | ⟨row, conflict, -, first⟩
    · have pairs : m = e.pairs := by
        apply Renaming.eq_of_mem_iff relates.ascending grown.ascending
        exact fun p => (relates.mem_iff p.1 p.2).trans (grown.mem_iff p.1 p.2).symm
      rw [passed, pairs, ← count]
    · exact absurd grown.same first.not_same

/-- A labelling has its own partition, with every cluster paired with itself. -/
theorem comparePartitions_self (labels : List Label) :
    comparePartitions labels labels = .ok ⟨labels.length, .identity labels⟩ :=
  comparePartitions_eq_ok_iff.2 ⟨rfl, rfl, .identity labels⟩

/-- Labellings that pass also pass when exchanged, with the renaming back. -/
theorem comparePartitions_swap {n : Nat} (passed : comparePartitions a b = .ok ⟨n, m⟩) :
    comparePartitions b a = .ok ⟨n, m.inverse⟩ := by
  obtain ⟨lengths, count, grown⟩ := comparePartitions_eq_ok_iff.1 passed
  have back := grown.inverse
  rw [List.zip_swap] at back
  exact comparePartitions_eq_ok_iff.2 ⟨lengths.symm, count.trans lengths, back⟩

theorem comparePartitions_swap_iff {n : Nat} :
    comparePartitions a b = .ok ⟨n, m⟩ ↔ m.Ascending ∧ comparePartitions b a = .ok ⟨n, m.inverse⟩ := by
  constructor
  · intro passed
    obtain ⟨-, -, grown⟩ := comparePartitions_eq_ok_iff.1 passed
    exact ⟨grown.ascending, comparePartitions_swap passed⟩
  · rintro ⟨ascending, passed⟩
    have back := comparePartitions_swap passed
    obtain ⟨-, -, grown⟩ := comparePartitions_eq_ok_iff.1 back
    have same : m.inverse.inverse = m := by
      apply Renaming.eq_of_mem_iff grown.ascending ascending
      exact fun p => Renaming.mem_inverse.trans Renaming.mem_inverse
    rwa [same] at back

/-- Two comparisons that pass and share a labelling make a third, with one renaming after the other. -/
theorem comparePartitions_trans {n n' : Nat} (passed : comparePartitions a b = .ok ⟨n, m⟩)
    (passed' : comparePartitions b d = .ok ⟨n', m'⟩) : comparePartitions a d = .ok ⟨n, m.compose m'⟩ := by
  obtain ⟨lengths, count, grown⟩ := comparePartitions_eq_ok_iff.1 passed
  obtain ⟨lengths', -, grown'⟩ := comparePartitions_eq_ok_iff.1 passed'
  exact comparePartitions_eq_ok_iff.2 ⟨lengths.trans lengths', count, grown.compose grown' lengths lengths'⟩

/-- Rows in another order are the same rows. -/
theorem zip_pick_perm {order : List Nat} (lengths : a.length = b.length) (perm : order.Perm (List.range a.length)) :
    ((pick order a).zip (pick order b)).Perm (a.zip b) := by
  have inside : ∀ i ∈ order, i < a.length := fun i member => List.mem_range.1 (perm.mem_iff.1 member)
  have rows : ((List.range a.length).map fun i => (a.getD i noise, b.getD i noise)) = a.zip b := by
    rw [← List.zip_map', map_getD_range, lengths, map_getD_range]
  rw [pick_eq_map_getD inside noise, pick_eq_map_getD (lengths ▸ inside) noise, List.zip_map', ← rows]
  exact perm.map _

/-- Another order of the rows changes nothing about a comparison that passes. -/
theorem comparePartitions_pick {order : List Nat} {e : EqualPartitions} (perm : order.Perm (List.range a.length))
    (passed : comparePartitions a b = .ok e) : comparePartitions (pick order a) (pick order b) = .ok e := by
  obtain ⟨lengths, count, grown⟩ := comparePartitions_eq_ok_iff.1 passed
  have inside : ∀ i ∈ order, i < a.length := fun i member => List.mem_range.1 (perm.mem_iff.1 member)
  have length : (pick order a).length = a.length := by rw [length_pick inside, perm.length_eq, List.length_range]
  have length' : (pick order b).length = a.length := by
    rw [length_pick (lengths ▸ inside), perm.length_eq, List.length_range]
  refine comparePartitions_eq_ok_iff.2 ⟨length.trans length'.symm, count.trans length.symm, ?_⟩
  exact grown.perm (zip_pick_perm lengths perm).symm

/-- A failed comparison of labellings of one length fails at the same row if the labellings are exchanged, with the
mirror image of the conflict. -/
theorem comparePartitions_swap_of_error {f : Failure} (lengths : a.length = b.length)
    (failed : comparePartitions a b = .error f) :
    ∃ row conflict mirrored, f = .mismatch (.structural row conflict) ∧
      comparePartitions b a = .error (.mismatch (.structural row.swap mirrored)) ∧
      conflict.Mirrored ((a.zip b).take row.index) row.reference mirrored := by
  rcases comparePartitions_cases lengths with ⟨m, passed, -⟩ | ⟨row, conflict, stopped, first⟩
  · rw [passed] at failed
    cases failed
  rw [stopped] at failed
  cases failed
  rcases comparePartitions_cases lengths.symm with ⟨m, passed, -⟩ | ⟨row', mirrored, stopped', first'⟩
  · rw [comparePartitions_swap passed] at stopped
    cases stopped
  rw [← List.zip_swap] at first'
  obtain ⟨rfl, image⟩ := first.mirrored first'
  exact ⟨row, conflict, mirrored, rfl, stopped', image⟩

/-- To be equal partitions is an equivalence, and the renamings go with it. A labelling equals itself with the identity;
labellings are equal in either order, with inverse renamings; what is equal through a third is equal with the composed
renaming; and rows in another order are renamed in the same way. If labellings of one length are not equal, they differ
at the same row in either order, with mirrored conflicts. -/
theorem comparePartitions_equivalence :
    (∀ a, comparePartitions a a = .ok ⟨a.length, .identity a⟩) ∧
    (∀ a b n m, comparePartitions a b = .ok ⟨n, m⟩ ↔ m.Ascending ∧ comparePartitions b a = .ok ⟨n, m.inverse⟩) ∧
    (∀ a b d n n' m m', comparePartitions a b = .ok ⟨n, m⟩ → comparePartitions b d = .ok ⟨n', m'⟩ →
      comparePartitions a d = .ok ⟨n, m.compose m'⟩) ∧
    (∀ a b order e, order.Perm (List.range a.length) → comparePartitions a b = .ok e →
      comparePartitions (pick order a) (pick order b) = .ok e) ∧
    (∀ a b f, a.length = b.length → comparePartitions a b = .error f →
      ∃ row conflict mirrored, f = .mismatch (.structural row conflict) ∧
        comparePartitions b a = .error (.mismatch (.structural row.swap mirrored)) ∧
        conflict.Mirrored ((a.zip b).take row.index) row.reference mirrored) :=
  ⟨comparePartitions_self, fun _ _ _ _ => comparePartitions_swap_iff, fun _ _ _ _ _ _ _ => comparePartitions_trans,
    fun _ _ _ _ => comparePartitions_pick, fun _ _ _ => comparePartitions_swap_of_error⟩

/-- Three labellings of one partition, and two with a conflict that is mirrored. -/
theorem comparePartitions_equivalence_chain :
    (comparePartitions [3, -1, 7] [5, -2, 0] = .ok ⟨3, [(3, 5), (7, 0)]⟩ ∧
      comparePartitions [5, -2, 0] [1, -1, 9] = .ok ⟨3, [(0, 9), (5, 1)]⟩ ∧
      comparePartitions [3, -1, 7] [1, -1, 9] = .ok ⟨3, [(3, 1), (7, 9)]⟩ ∧
      comparePartitions [7, 3, -1] [0, 5, -2] = .ok ⟨3, [(3, 5), (7, 0)]⟩) ∧
    ∃ row conflict mirrored,
      Failure.mismatch (.structural ⟨2, 0, 5⟩ (.split 4)) = .mismatch (.structural row conflict) ∧
      comparePartitions [4, 5, 5] [0, 1, 0] = .error (.mismatch (.structural row.swap mirrored)) ∧
      conflict.Mirrored (([0, 1, 0].zip [4, 5, 5]).take row.index) row.reference mirrored := by
  obtain ⟨-, -, through, reordered, exchanged⟩ := comparePartitions_equivalence
  have first : comparePartitions [3, -1, 7] [5, -2, 0] = .ok ⟨3, [(3, 5), (7, 0)]⟩ := rfl
  have second : comparePartitions [5, -2, 0] [1, -1, 9] = .ok ⟨3, [(0, 9), (5, 1)]⟩ := rfl
  exact ⟨⟨first, second, through _ _ _ _ _ _ _ first second, reordered _ _ [2, 0, 1] _ (by decide) first⟩,
    exchanged [0, 1, 0] [4, 5, 5] _ rfl rfl⟩

end DensityAudit
