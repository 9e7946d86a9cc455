import Mathlib.Data.List.Sort
import Mathlib.Order.Bounds.Basic
import DensityAudit.Compare.Partition

/-!
# What the comparison of partitions decides

Labellings are looked at as the list of their rows, each a pair of a computed and a reference label.
`SamePartition` says when a list of rows describes one partition twice. While rows are read, the renaming is
exactly the list of the pairs of clusters read so far (`Grown`). A row that cannot extend it is the first one
at which the rows stop to describe the same partition (`FirstConflict`), and its conflict is the only one that
explains it. `matchRows_cases` is the lemma that carries the result.
-/

namespace DensityAudit

/-- The same rows are noise, and rows are in one computed cluster iff they are in one reference cluster. -/
structure SamePartition (rows : List (Label × Label)) : Prop where
  noise : ∀ p ∈ rows, p.1 < 0 ↔ p.2 < 0
  clusters : ∀ p ∈ rows, ∀ q ∈ rows, 0 ≤ p.1 → 0 ≤ p.2 → 0 ≤ q.1 → 0 ≤ q.2 → (p.1 = q.1 ↔ p.2 = q.2)

/-- A conflict explains why a row does not fit those before it. A row with exactly one negative label is a noise
conflict, whatever its labels were paired with before. -/
def Conflict.Explains (before : List (Label × Label)) (c r : Label) : Conflict → Prop
  | .noise => ¬ (c < 0 ↔ r < 0)
  | .split previous => 0 ≤ c ∧ 0 ≤ r ∧ (c, previous) ∈ before ∧ previous ≠ r
  | .merge previous => 0 ≤ c ∧ 0 ≤ r ∧ (∀ q, (c, q) ∉ before) ∧ (previous, r) ∈ before

/-- The first row at which a list of rows does not describe the same partition any more, and why. -/
structure FirstConflict (rows : List (Label × Label)) (row : RowDifference) (conflict : Conflict) : Prop where
  least : IsLeast {i | ¬ SamePartition (rows.take (i + 1))} row.index
  labels : rows[row.index]? = some (row.computed, row.reference)
  explained : ∀ x : Conflict, x.Explains (rows.take row.index) row.computed row.reference ↔ x = conflict

/-- A renaming takes the computed clusters of two labellings one to one to their reference clusters. -/
structure Renaming.Relates (m : Renaming) (computed reference : List Label) : Prop where
  ascending : m.Pairwise fun p q => p.1 < q.1
  mem_iff : ∀ c r, (c, r) ∈ m ↔ (c, r) ∈ computed.zip reference ∧ 0 ≤ c ∧ 0 ≤ r
  image : ∀ c ∈ computed, 0 ≤ c → ∃! r, (c, r) ∈ m
  preimage : ∀ r ∈ reference, 0 ≤ r → ∃! c, (c, r) ∈ m

variable {rows before : List (Label × Label)} {m : Renaming} {c r p q : Label}

/-! ### Rows that describe the same partition -/

theorem agree_of_clusters (hc : 0 ≤ c) (hr : 0 ≤ r) : c < 0 ↔ r < 0 := iff_of_false (Int.not_lt.2 hc) (Int.not_lt.2 hr)

namespace SamePartition

theorem nil : SamePartition [] := ⟨nofun, nofun⟩

/-- Fewer rows describe the same partition if more of them do. -/
theorem subset (same : SamePartition rows) (h : before ⊆ rows) : SamePartition before where
  noise p inside := same.noise p (h inside)
  clusters p inside q inside' := same.clusters p (h inside) q (h inside')

/-- Rows of clusters are the same in both labellings. -/
theorem cluster_iff (same : SamePartition rows) (h : (c, r) ∈ rows) : 0 ≤ c ↔ 0 ≤ r := by
  rw [← Int.not_lt, ← Int.not_lt, same.noise _ h]

/-- A computed cluster has one reference cluster. -/
theorem reference_eq (same : SamePartition rows) (hp : (c, p) ∈ rows) (hq : (c, q) ∈ rows) (cluster : 0 ≤ c) : p = q := by
  have cluster' := (same.cluster_iff hp).1 cluster
  have cluster'' := (same.cluster_iff hq).1 cluster
  exact (same.clusters _ hp _ hq cluster cluster' cluster cluster'').1 rfl

/-- A reference cluster has one computed cluster. -/
theorem computed_eq (same : SamePartition rows) (hp : (p, r) ∈ rows) (hq : (q, r) ∈ rows) (cluster : 0 ≤ r) : p = q := by
  have cluster' := (same.cluster_iff hp).2 cluster
  have cluster'' := (same.cluster_iff hq).2 cluster
  exact (same.clusters _ hp _ hq cluster' cluster cluster'' cluster).2 rfl

/-- One more row keeps the partitions the same if it agrees with every row before it. -/
theorem snoc (same : SamePartition before) (agree : c < 0 ↔ r < 0)
    (fits : 0 ≤ c → ∀ p q, (p, q) ∈ before → 0 ≤ p → (p = c ↔ q = r)) : SamePartition (before ++ [(c, r)]) where
  noise p inside := by
    rcases List.mem_append.1 inside with inside | last
    · exact same.noise p inside
    · rw [List.mem_singleton.1 last]
      exact agree
  clusters p inside q inside' hp hp' hq hq' := by
    rcases List.mem_append.1 inside with inside | last
    · rcases List.mem_append.1 inside' with inside' | last'
      · exact same.clusters p inside q inside' hp hp' hq hq'
      · obtain rfl := List.mem_singleton.1 last'
        exact fits hq _ _ inside hp
    · obtain rfl := List.mem_singleton.1 last
      rcases List.mem_append.1 inside' with inside' | last'
      · have fit := fits hp _ _ inside' hq
        exact ⟨fun h => (fit.1 h.symm).symm, fun h => (fit.2 h.symm).symm⟩
      · obtain rfl := List.mem_singleton.1 last'
        exact iff_of_true rfl rfl

end SamePartition

/-- Two names for the cluster of every item describe the same partition if they tell the same items apart. -/
theorem samePartition_map {ι : Type} {items : List ι} {f g : ι → Label} (clusters : ∀ k ∈ items, 0 ≤ f k ∧ 0 ≤ g k)
    (together : ∀ k ∈ items, ∀ t ∈ items, f k = f t ↔ g k = g t) : SamePartition ((items.map f).zip (items.map g)) := by
  rw [List.zip_map']
  constructor
  · intro p member
    obtain ⟨k, inside, rfl⟩ := List.mem_map.1 member
    exact agree_of_clusters (clusters k inside).1 (clusters k inside).2
  · intro p member q member' _ _ _ _
    obtain ⟨k, inside, rfl⟩ := List.mem_map.1 member
    obtain ⟨t, inside', rfl⟩ := List.mem_map.1 member'
    exact together k inside t inside'

/-! ### Conflicts -/

/-- With a row in conflict the partitions are no longer the same. -/
theorem Conflict.Explains.not_same {x : Conflict} (explains : x.Explains before c r) :
    ¬ SamePartition (before ++ [(c, r)]) := by
  intro same
  have last : (c, r) ∈ before ++ [(c, r)] := List.mem_append_right _ (List.mem_singleton.2 rfl)
  cases x with
  | noise => exact explains (same.noise _ last)
  | split previous =>
    obtain ⟨cluster, -, paired, other⟩ := explains
    exact other (same.reference_eq (List.mem_append_left _ paired) last cluster)
  | merge previous =>
    obtain ⟨-, cluster, fresh, paired⟩ := explains
    obtain rfl := same.computed_eq (List.mem_append_left _ paired) last cluster
    exact fresh r paired

/-- At most one conflict explains a row. -/
theorem Conflict.Explains.unique {x y : Conflict} (same : SamePartition before) (hx : x.Explains before c r)
    (hy : y.Explains before c r) : x = y := by
  cases x with
  | noise =>
    cases y with
    | noise => rfl
    | split _ => exact absurd (agree_of_clusters hy.1 hy.2.1) hx
    | merge _ => exact absurd (agree_of_clusters hy.1 hy.2.1) hx
  | split previous =>
    obtain ⟨hc, hr, paired, -⟩ := hx
    cases y with
    | noise => exact absurd (agree_of_clusters hc hr) hy
    | split previous' => rw [same.reference_eq paired hy.2.2.1 hc]
    | merge _ => exact absurd paired (hy.2.2.1 _)
  | merge previous =>
    obtain ⟨hc, hr, fresh, paired⟩ := hx
    cases y with
    | noise => exact absurd (agree_of_clusters hc hr) hy
    | split _ => exact absurd hy.2.2.1 (fresh _)
    | merge previous' => rw [same.computed_eq paired hy.2.2.2 hr]

/-! ### The renaming -/

namespace Renaming

theorem mem_of_image? (h : m.image? c = some r) : (c, r) ∈ m := by
  obtain ⟨pair, found, rfl⟩ := Option.map_eq_some_iff.1 h
  have key : pair.1 = c := by simpa using List.find?_some found
  rw [← key]
  exact List.mem_of_find?_eq_some found

theorem not_mem_of_image? (h : m.image? c = none) (r : Label) : (c, r) ∉ m := by
  intro member
  have other := List.find?_eq_none.1 (Option.map_eq_none_iff.1 h) _ member
  simp at other

theorem mem_of_preimage? (h : m.preimage? r = some c) : (c, r) ∈ m := by
  obtain ⟨pair, found, rfl⟩ := Option.map_eq_some_iff.1 h
  have key : pair.2 = r := by simpa using List.find?_some found
  rw [← key]
  exact List.mem_of_find?_eq_some found

theorem not_mem_of_preimage? (h : m.preimage? r = none) (c : Label) : (c, r) ∉ m := by
  intro member
  have other := List.find?_eq_none.1 (Option.map_eq_none_iff.1 h) _ member
  simp at other

theorem mem_insert {pair : Label × Label} : pair ∈ m.insert c r ↔ pair = (c, r) ∨ pair ∈ m := by
  induction m with
  | nil => rw [insert, List.mem_singleton, or_iff_left List.not_mem_nil]
  | cons first rest ih =>
    rw [insert]
    split
    · rw [List.mem_cons]
    · rw [List.mem_cons, ih, List.mem_cons]
      exact or_left_comm

theorem ascending_insert (ascending : m.Pairwise fun p q => p.1 < q.1) (fresh : ∀ q, (c, q) ∉ m) :
    (m.insert c r).Pairwise fun p q => p.1 < q.1 := by
  induction m with
  | nil => exact List.pairwise_singleton ..
  | cons first rest ih =>
    obtain ⟨after, ascending⟩ := List.pairwise_cons.1 ascending
    rw [insert]
    split
    case isTrue below =>
      refine List.pairwise_cons.2 ⟨fun pair member => ?_, List.pairwise_cons.2 ⟨after, ascending⟩⟩
      rcases List.mem_cons.1 member with rfl | member
      · exact below
      · exact Int.lt_trans below (after pair member)
    case isFalse above =>
      have other : first.1 ≠ c := by
        rintro rfl
        exact fresh first.2 (List.mem_cons_self ..)
      have below : first.1 < c := lt_of_le_of_ne (Int.not_lt.1 above) other
      refine List.pairwise_cons.2 ⟨fun pair member => ?_, ih ascending fun q member => fresh q (.tail _ member)⟩
      rcases mem_insert.1 member with rfl | member
      · exact below
      · exact after pair member

/-- Renamings in ascending order with the same pairs are equal. -/
theorem eq_of_mem_iff {m' : Renaming} (ascending : m.Pairwise fun p q => p.1 < q.1)
    (ascending' : m'.Pairwise fun p q => p.1 < q.1) (pairs : ∀ pair, pair ∈ m ↔ pair ∈ m') : m = m' := by
  have antisymm : Std.Antisymm fun p q : Label × Label => p.1 < q.1 :=
    ⟨fun p q below above => absurd (Int.lt_trans below above) (Int.lt_irrefl p.1)⟩
  have irrefl : Std.Irrefl fun p q : Label × Label => p.1 < q.1 := ⟨fun p => Int.lt_irrefl p.1⟩
  exact ascending.eq_of_mem_iff ascending' pairs

end Renaming

/-- The renaming after some rows: the pairs of clusters among them. -/
structure Grown (before : List (Label × Label)) (m : Renaming) : Prop where
  same : SamePartition before
  ascending : m.Pairwise fun p q => p.1 < q.1
  mem_iff : ∀ p q, (p, q) ∈ m ↔ (p, q) ∈ before ∧ 0 ≤ p ∧ 0 ≤ q

namespace Grown

theorem nil : Grown [] [] := ⟨.nil, .nil, fun _ _ => iff_of_false nofun fun h => nomatch h.1⟩

theorem paired (grown : Grown before m) (h : (c, r) ∈ m) : (c, r) ∈ before := ((grown.mem_iff c r).1 h).1

/-- A computed cluster without an image has not been read before. -/
theorem computed_fresh (grown : Grown before m) (cluster : 0 ≤ c) (h : m.image? c = none) (q : Label) :
    (c, q) ∉ before := by
  intro inside
  have cluster' := (grown.same.cluster_iff inside).1 cluster
  exact Renaming.not_mem_of_image? h q ((grown.mem_iff c q).2 ⟨inside, cluster, cluster'⟩)

/-- A reference cluster without a partner has not been read before. -/
theorem reference_fresh (grown : Grown before m) (cluster : 0 ≤ r) (h : m.preimage? r = none) (p : Label) :
    (p, r) ∉ before := by
  intro inside
  have cluster' := (grown.same.cluster_iff inside).2 cluster
  exact Renaming.not_mem_of_preimage? h p ((grown.mem_iff p r).2 ⟨inside, cluster', cluster⟩)

/-- A row of noise, or of two clusters that are paired already, leaves the renaming as it is. -/
theorem keep (grown : Grown before m) (agree : c < 0 ↔ r < 0) (known : 0 ≤ c → (c, r) ∈ before) :
    Grown (before ++ [(c, r)]) m where
  same := by
    apply grown.same.snoc agree
    intro cluster p q inside cluster'
    have together := grown.same.clusters _ inside _ (known cluster) cluster'
    exact together ((grown.same.cluster_iff inside).1 cluster') cluster ((grown.same.cluster_iff (known cluster)).1 cluster)
  ascending := grown.ascending
  mem_iff p q := by
    rw [grown.mem_iff, List.mem_append, List.mem_singleton]
    constructor
    · rintro ⟨inside, clusters⟩
      exact ⟨.inl inside, clusters⟩
    · rintro ⟨inside | last, clusters⟩
      · exact ⟨inside, clusters⟩
      · obtain ⟨rfl, rfl⟩ := Prod.mk.inj last
        exact ⟨known clusters.1, clusters⟩

/-- A row of two clusters that have not been read before adds their pair. -/
theorem insert (grown : Grown before m) (hc : 0 ≤ c) (hr : 0 ≤ r) (fresh : ∀ q, (c, q) ∉ before)
    (fresh' : ∀ p, (p, r) ∉ before) : Grown (before ++ [(c, r)]) (m.insert c r) where
  same := by
    apply grown.same.snoc (agree_of_clusters hc hr)
    intro _ p q inside _
    constructor
    · rintro rfl
      exact absurd inside (fresh q)
    · rintro rfl
      exact absurd inside (fresh' p)
  ascending := Renaming.ascending_insert grown.ascending fun q member => fresh q (grown.paired member)
  mem_iff p q := by
    rw [Renaming.mem_insert, grown.mem_iff, List.mem_append, List.mem_singleton]
    constructor
    · rintro (new | ⟨inside, clusters⟩)
      · obtain ⟨rfl, rfl⟩ := Prod.mk.inj new
        exact ⟨.inr rfl, hc, hr⟩
      · exact ⟨.inl inside, clusters⟩
    · rintro ⟨inside | new, clusters⟩
      · exact .inr ⟨inside, clusters⟩
      · exact .inl new

/-- A row of two clusters that have been paired before is accepted if they were paired with each other. -/
theorem extend_of_image (grown : Grown before m) {previous : Label} (hc : 0 ≤ c) (hr : 0 ≤ r)
    (image : m.image? c = some previous) :
    m.extend c r = if previous = r then .ok m else .error (.split previous) := by
  have paired := grown.paired (Renaming.mem_of_image? image)
  rw [Renaming.extend, if_neg (Int.not_lt.2 hc), if_neg (Int.not_lt.2 hr), image]
  by_cases same : previous = r
  · subst same
    -- the reference cluster cannot have another partner, because this one is its partner
    have back : (m.preimage? previous).filter (· != c) = none := by
      rw [Option.filter_eq_none_iff]
      intro p found
      have paired' := grown.paired (Renaming.mem_of_preimage? found)
      simp [grown.same.computed_eq paired' paired hr]
    have forth : (some previous).filter (· != previous) = none := by simp
    rw [forth, back, if_pos rfl]
    rfl
  · have split : (some previous).filter (· != r) = some previous := by simp [same]
    rw [split, if_neg same]

/-- A row of a new computed cluster is accepted if its reference cluster is new as well. -/
theorem extend_of_fresh (hc : 0 ≤ c) (hr : 0 ≤ r) (image : m.image? c = none) :
    m.extend c r = match m.preimage? r with
      | some previous => .error (.merge previous)
      | none => .ok (m.insert c r) := by
  rw [Renaming.extend, if_neg (Int.not_lt.2 hc), if_neg (Int.not_lt.2 hr), image]
  cases preimage : m.preimage? r with
  | none => rfl
  | some previous =>
    have other : previous ≠ c := by
      rintro rfl
      exact Renaming.not_mem_of_image? image r (Renaming.mem_of_preimage? preimage)
    have merge : (some previous).filter (· != c) = some previous := by simp [other]
    rw [merge]
    rfl

/-- One more row extends the renaming, or is explained by the conflict that is reported. -/
theorem extend_cases (grown : Grown before m) (c r : Label) :
    (∃ m', m.extend c r = .ok m' ∧ Grown (before ++ [(c, r)]) m') ∨
    ∃ conflict, m.extend c r = .error conflict ∧ conflict.Explains before c r := by
  by_cases hc : c < 0
  case pos =>
    unfold Renaming.extend
    rw [if_pos hc]
    by_cases hr : r < 0
    · rw [if_pos hr]
      exact .inl ⟨m, rfl, grown.keep (iff_of_true hc hr) fun cluster => absurd hc (Int.not_lt.2 cluster)⟩
    · rw [if_neg hr]
      exact .inr ⟨.noise, rfl, fun agree => hr (agree.1 hc)⟩
  by_cases hr : r < 0
  case pos =>
    unfold Renaming.extend
    rw [if_neg hc, if_pos hr]
    exact .inr ⟨.noise, rfl, fun agree => hc (agree.2 hr)⟩
  have cluster := Int.not_lt.1 hc
  have cluster' := Int.not_lt.1 hr
  cases image : m.image? c with
  | some previous =>
    have paired := grown.paired (Renaming.mem_of_image? image)
    rw [grown.extend_of_image cluster cluster' image]
    by_cases same : previous = r
    · subst same
      rw [if_pos rfl]
      exact .inl ⟨m, rfl, grown.keep (agree_of_clusters cluster cluster') fun _ => paired⟩
    · rw [if_neg same]
      exact .inr ⟨.split previous, rfl, cluster, cluster', paired, same⟩
  | none =>
    have fresh := grown.computed_fresh cluster image
    rw [extend_of_fresh cluster cluster' image]
    cases preimage : m.preimage? r with
    | some previous =>
      have paired := grown.paired (Renaming.mem_of_preimage? preimage)
      exact .inr ⟨.merge previous, rfl, cluster, cluster', fresh, paired⟩
    | none =>
      exact .inl ⟨m.insert c r, rfl, grown.insert cluster cluster' fresh (grown.reference_fresh cluster' preimage)⟩

end Grown

/-! ### All rows -/

/-- The first row that a conflict explains after rows that describe the same partition. -/
theorem firstConflict_of_explains {rest : List (Label × Label)} {conflict : Conflict} (same : SamePartition before)
    (explains : conflict.Explains before c r) :
    FirstConflict (before ++ (c, r) :: rest) ⟨before.length, c, r⟩ conflict where
  least := by
    constructor
    · show ¬ SamePartition (List.take (before.length + 1) (before ++ (c, r) :: rest))
      rw [List.take_length_add_append]
      exact explains.not_same
    · intro i different
      show before.length ≤ i
      by_contra earlier
      apply different
      rw [List.take_append_of_le_length (by omega)]
      exact same.subset (List.take_subset _ _)
  labels := by
    rw [List.getElem?_append_right (Nat.le_refl _), Nat.sub_self]
    rfl
  explained x := by
    simp only [List.take_left]
    constructor
    · exact fun explains' => explains'.unique same explains
    · rintro rfl
      exact explains

/-- Reading rows grows the renaming over all of them, or stops at the first conflict. -/
theorem matchRows_cases (grown : Grown before m) (computed reference : List Label) :
    (∃ m', matchRows before.length m computed reference = .ok m' ∧ Grown (before ++ computed.zip reference) m') ∨
    ∃ row conflict, matchRows before.length m computed reference = .error (.structural row conflict) ∧
      FirstConflict (before ++ computed.zip reference) row conflict := by
  induction computed generalizing before m reference with
  | nil => exact .inl ⟨m, rfl, by rwa [List.zip_nil_left, List.append_nil]⟩
  | cons c computed ih =>
    cases reference with
    | nil => exact .inl ⟨m, rfl, by rwa [List.zip_nil_right, List.append_nil]⟩
    | cons r reference =>
      rw [matchRows, List.zip_cons_cons]
      rcases grown.extend_cases c r with ⟨m', extended, grown'⟩ | ⟨conflict, refused, explains⟩
      · rw [extended]
        have rest := ih grown' reference
        rwa [List.length_append, List.length_singleton, List.append_assoc, List.singleton_append] at rest
      · rw [refused]
        exact .inr ⟨_, conflict, rfl, firstConflict_of_explains grown.same explains⟩

/-- Rows with a conflict do not describe the same partition. -/
theorem FirstConflict.not_same {row : RowDifference} {conflict : Conflict} (first : FirstConflict rows row conflict) :
    ¬ SamePartition rows := fun same => first.least.1 (same.subset (List.take_subset _ _))

theorem exists_row_of_computed {computed reference : List Label} (lengths : computed.length = reference.length)
    (member : c ∈ computed) : ∃ r, (c, r) ∈ computed.zip reference := by
  rw [← List.map_fst_zip (Nat.le_of_eq lengths)] at member
  obtain ⟨⟨_, r⟩, inside, rfl⟩ := List.mem_map.1 member
  exact ⟨r, inside⟩

theorem exists_row_of_reference {computed reference : List Label} (lengths : computed.length = reference.length)
    (member : r ∈ reference) : ∃ c, (c, r) ∈ computed.zip reference := by
  rw [← List.map_snd_zip (Nat.le_of_eq lengths.symm)] at member
  obtain ⟨⟨c, _⟩, inside, rfl⟩ := List.mem_map.1 member
  exact ⟨c, inside⟩

/-- A renaming grown from all rows relates the labellings. -/
theorem Grown.relates {computed reference : List Label} (grown : Grown (computed.zip reference) m)
    (lengths : computed.length = reference.length) : m.Relates computed reference where
  ascending := grown.ascending
  mem_iff := grown.mem_iff
  image c member cluster := by
    obtain ⟨r, inside⟩ := exists_row_of_computed lengths member
    have cluster' := (grown.same.cluster_iff inside).1 cluster
    refine ⟨r, (grown.mem_iff _ _).2 ⟨inside, cluster, cluster'⟩, fun q paired => ?_⟩
    exact grown.same.reference_eq (grown.paired paired) inside cluster
  preimage r member cluster := by
    obtain ⟨c, inside⟩ := exists_row_of_reference lengths member
    have cluster' := (grown.same.cluster_iff inside).2 cluster
    refine ⟨c, (grown.mem_iff _ _).2 ⟨inside, cluster', cluster⟩, fun q paired => ?_⟩
    exact grown.same.computed_eq (grown.paired paired) inside cluster

/-- Labellings of one length are paired by a renaming, or have a first conflict. -/
theorem comparePartitions_cases {computed reference : List Label} (lengths : computed.length = reference.length) :
    (∃ m, comparePartitions computed reference = .ok ⟨computed.length, m⟩ ∧ SamePartition (computed.zip reference) ∧
      m.Relates computed reference) ∨
    ∃ row conflict, comparePartitions computed reference = .error (.mismatch (.structural row conflict)) ∧
      FirstConflict (computed.zip reference) row conflict := by
  rw [comparePartitions, if_neg (not_not_intro lengths)]
  rcases matchRows_cases .nil computed reference with ⟨m, matched, grown⟩ | ⟨row, conflict, stopped, first⟩
  · rw [List.length_nil] at matched
    rw [matched]
    exact .inl ⟨m, rfl, grown.same, grown.relates lengths⟩
  · rw [List.length_nil] at stopped
    rw [stopped]
    exact .inr ⟨row, conflict, rfl, first⟩

/-- Labellings that describe the same partition pass the comparison. -/
theorem exists_ok_of_samePartition {computed reference : List Label} (lengths : computed.length = reference.length)
    (same : SamePartition (computed.zip reference)) : ∃ e, comparePartitions computed reference = .ok e := by
  rcases comparePartitions_cases lengths with ⟨m, passed, -⟩ | ⟨row, conflict, -, first⟩
  · exact ⟨_, passed⟩
  · exact absurd same first.not_same

/-! ### Clusters under other names -/

/-- The rows of a labelling with its clusters renamed by `f` and any negative labels for its noise. -/
def Renamed (f : Label → Label) (labels reference : List Label) : Prop :=
  List.Forall₂ (fun l r => if 0 ≤ l then r = f l else r < 0) labels reference

theorem Renamed.of_mem {f : Label → Label} {labels reference : List Label} (renamed : Renamed f labels reference)
    (inside : (c, r) ∈ labels.zip reference) : if 0 ≤ c then r = f c else r < 0 :=
  List.forall₂_zip renamed inside

/-- Clusters under other names, and noise under any, are the same partition. -/
theorem Renamed.samePartition {f : Label → Label} {labels reference : List Label} (renamed : Renamed f labels reference)
    (maps : Set.MapsTo f {l | 0 ≤ l} {l | 0 ≤ l}) (injective : Set.InjOn f {l | 0 ≤ l}) :
    SamePartition (labels.zip reference) where
  noise p inside := by
    have row := renamed.of_mem inside
    by_cases cluster : 0 ≤ p.1
    · rw [if_pos cluster] at row
      have cluster' : 0 ≤ p.2 := by
        rw [row]
        exact maps cluster
      exact agree_of_clusters cluster cluster'
    · rw [if_neg cluster] at row
      exact iff_of_true (Int.not_le.1 cluster) row
  clusters p inside q inside' cluster _ cluster' _ := by
    have row := renamed.of_mem inside
    have row' := renamed.of_mem inside'
    rw [if_pos cluster] at row
    rw [if_pos cluster'] at row'
    rw [row, row']
    exact (injective.eq_iff cluster cluster').symm

theorem samePartition_self (labels : List Label) : SamePartition (labels.zip labels) := by
  have renamed : Renamed id labels labels := by
    refine List.forall₂_same.2 fun l _ => ?_
    split
    case isTrue => rfl
    case isFalse negative => exact Int.not_le.1 negative
  exact renamed.samePartition (Set.mapsTo_id _) (Set.injOn_id _)

/-- A labelling agrees with itself under other names, and the names of its clusters are found. -/
theorem comparePartitions_of_renamed {f : Label → Label} {labels reference : List Label} {k : Nat}
    (renamed : Renamed f labels reference) (maps : Set.MapsTo f {l | 0 ≤ l} {l | 0 ≤ l})
    (injective : Set.InjOn f {l | 0 ≤ l}) (numbers : ∀ l, 0 ≤ l → (l ∈ labels ↔ ∃ i < k, l = (i : Label))) :
    comparePartitions labels reference = .ok ⟨labels.length, (List.range k).map fun i : Nat => ((i : Label), f i)⟩ := by
  have lengths : labels.length = reference.length := List.Forall₂.length_eq renamed
  have same := renamed.samePartition maps injective
  rcases comparePartitions_cases lengths with ⟨m, passed, -, relates⟩ | ⟨row, conflict, -, first⟩
  case inr => exact absurd same first.not_same
  have ascending : ((List.range k).map fun i : Nat => ((i : Label), f i)).Pairwise fun p q => p.1 < q.1 := by
    rw [List.pairwise_map]
    exact List.pairwise_lt_range.imp Int.ofNat_lt.2
  have pairs : m = (List.range k).map fun i : Nat => ((i : Label), f i) := by
    apply Renaming.eq_of_mem_iff relates.ascending ascending
    rintro ⟨c, r⟩
    rw [relates.mem_iff, List.mem_map]
    constructor
    · rintro ⟨inside, cluster, -⟩
      have row := renamed.of_mem inside
      rw [if_pos cluster] at row
      obtain ⟨i, below, rfl⟩ := (numbers c cluster).1 (List.of_mem_zip inside).1
      exact ⟨i, List.mem_range.2 below, by rw [row]⟩
    · rintro ⟨i, below, named⟩
      obtain ⟨rfl, rfl⟩ := Prod.mk.inj named
      have cluster : (0 : Label) ≤ i := Int.natCast_nonneg i
      have member := (numbers i cluster).2 ⟨i, List.mem_range.1 below, rfl⟩
      obtain ⟨r, inside⟩ := exists_row_of_computed lengths member
      have row := renamed.of_mem inside
      rw [if_pos cluster] at row
      rw [← row]
      exact ⟨inside, cluster, (same.cluster_iff inside).1 cluster⟩
  rw [passed, pairs]

/-! ### The decision -/

/-- The comparison of partitions decides whether two labellings describe the same partition. Labellings of
different lengths have the wrong shape. Otherwise it passes iff the partitions are the same, and then reports the
one-to-one renaming of the clusters; if they are not, it reports the first row where they stop to be the same,
with the conflict that explains it. -/
theorem comparePartitions_decides (computed reference : List Label) :
    (comparePartitions computed reference = .error (.shape "label rows" reference.length computed.length) ↔
      computed.length ≠ reference.length) ∧
    (computed.length = reference.length →
      ((∃ e, comparePartitions computed reference = .ok e) ↔ SamePartition (computed.zip reference)) ∧
      (∀ e, comparePartitions computed reference = .ok e →
        e.rows = computed.length ∧ e.pairs.Relates computed reference) ∧
      (¬ SamePartition (computed.zip reference) →
        ∃ row conflict, comparePartitions computed reference = .error (.mismatch (.structural row conflict)) ∧
          FirstConflict (computed.zip reference) row conflict)) := by
  constructor
  · constructor
    · intro refused lengths
      rcases comparePartitions_cases lengths with ⟨m, passed, -⟩ | ⟨row, conflict, stopped, -⟩
      · rw [passed] at refused
        cases refused
      · rw [stopped] at refused
        cases refused
    · intro lengths
      rw [comparePartitions, if_pos lengths]
      rfl
  · intro lengths
    rcases comparePartitions_cases lengths with ⟨m, passed, same, relates⟩ | ⟨row, conflict, stopped, first⟩
    · rw [passed]
      refine ⟨iff_of_true ⟨_, rfl⟩ same, ?_, fun different => absurd same different⟩
      rintro _ ⟨⟩
      exact ⟨rfl, relates⟩
    · rw [stopped]
      exact ⟨iff_of_false nofun first.not_same, nofun, fun _ => ⟨row, conflict, rfl, first⟩⟩

example : comparePartitions [0, 0] [0, -1] = .error (.mismatch (.structural ⟨1, 0, -1⟩ .noise)) := rfl

end DensityAudit
