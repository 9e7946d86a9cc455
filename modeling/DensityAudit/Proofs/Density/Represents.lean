import DensityAudit.Proofs.Density.Reference

/-!
# One set of rows standing for another

Rows that are renumbered, repeated or left out are clustered as before as long as the rows that remain see the
same neighbours among the core rows. `Represents` says this of a map between the row numbers of two sets of
rows. Chains of core rows go along the map in both directions (`linked_iff`), first core rows correspond to
first core rows (`leads_apply`, `exists_leads_of_apply`), and so the labels are the same up to the number of
clusters that start before (`labels_apply`).
-/

namespace DensityAudit.Density

variable {near near' : Nat → Nat → Prop} {core core' : Nat → Prop} {rows rows' i j s t : Nat} {f : Nat → Nat}

/-- The label of a cluster after `d` clusters more have come before it; noise stays noise. -/
def shiftLabel (d : Nat) (l : Label) : Label := if 0 ≤ l then l + d else l

theorem shiftLabel_zero (l : Label) : shiftLabel 0 l = l := by
  unfold shiftLabel
  split
  · exact Int.add_zero l
  · rfl

theorem shiftLabel_natCast (d k : Nat) : shiftLabel d (k : Label) = ((k + d : Nat) : Label) := by
  rw [shiftLabel, if_pos (Int.natCast_nonneg k), Int.natCast_add]

/-- Row `i` of the first set stands for row `f i` of the second. -/
structure Represents (f : Nat → Nat) (rows : Nat) (near : Nat → Nat → Prop) (core : Nat → Prop)
    (near' : Nat → Nat → Prop) (core' : Nat → Prop) : Prop where
  inside : ∀ i, core i → i < rows
  /-- The order is kept, though rows may come together. -/
  mono : ∀ i j, j < rows → i ≤ j → f i ≤ f j
  core_iff : ∀ i < rows, core i ↔ core' (f i)
  near_iff : ∀ i j, i < rows → j < rows → (near i j ↔ near' (f i) (f j))
  self : ∀ i < rows, near i i
  symm : ∀ i j, near' i j → near' j i
  /-- Every core row near a row that is stood for is stood for as well. -/
  reached : ∀ i t, i < rows → core' t → near' (f i) t → ∃ k < rows, f k = t

namespace Represents

variable (r : Represents f rows near core near' core')
include r

/-! ### Chains -/

/-- Linked rows stand for linked rows. -/
theorem linked_apply (h : Linked near core i j) : Linked near' core' (f i) (f j) := by
  apply h.lift f
  · exact fun i dense => (r.core_iff i (r.inside i dense)).1 dense
  · exact fun i j dense dense' => (r.near_iff i j (r.inside i dense) (r.inside j dense')).1

/-- A chain that starts at a row that is stood for consists of such rows. -/
theorem exists_linked (h : core i) (link : Linked near' core' (f i) t) : ∃ j, core j ∧ f j = t ∧ Linked near core i j := by
  induction link with
  | refl => exact ⟨i, h, rfl, .refl⟩
  | tail _ step ih =>
    obtain ⟨j, dense, rfl, link⟩ := ih
    obtain ⟨-, dense', close⟩ := step
    have hj := r.inside j dense
    obtain ⟨k, hk, rfl⟩ := r.reached j _ hj dense' close
    have next := (r.core_iff k hk).2 dense'
    exact ⟨k, next, rfl, link.tail ⟨dense, next, (r.near_iff j k hj hk).2 close⟩⟩

/-- Rows that stand for one core row are near each other. -/
theorem linked_of_eq (hi : core i) (hj : core j) (same : f i = f j) : Linked near core i j := by
  have inside := r.inside i hi
  have inside' := r.inside j hj
  refine .single ⟨hi, hj, (r.near_iff i j inside inside').2 ?_⟩
  rw [← same]
  exact (r.near_iff i i inside inside).1 (r.self i inside)

/-- Core rows are linked iff those that they stand for are. -/
theorem linked_iff (hi : core i) (hj : core j) : Linked near core i j ↔ Linked near' core' (f i) (f j) := by
  refine ⟨r.linked_apply, fun link => ?_⟩
  obtain ⟨k, dense, same, link⟩ := r.exists_linked hi link
  exact link.trans (r.linked_of_eq dense hj same)

/-! ### First core rows -/

/-- The first core row of a cluster stands for the first core row of its cluster. -/
theorem leads_apply (h : Leads near core s) : Leads near' core' (f s) := by
  have hs := r.inside s h.1
  refine ⟨(r.core_iff s hs).1 h.1, fun t before dense link => ?_⟩
  obtain ⟨j, dense', rfl, link'⟩ := r.exists_linked h.1 (link.symm r.symm)
  have less : j < s := by
    by_contra reversed
    have kept := r.mono s j (r.inside j dense') (by omega)
    omega
  exact h.2 j less dense' ((r.linked_iff dense' h.1).2 link)

/-- A first core row that is stood for is so by a first core row. -/
theorem exists_leads_of_apply (inside : i < rows) (h : Leads near' core' (f i)) : ∃ s, Leads near core s ∧ f s = f i := by
  have dense := (r.core_iff i inside).2 h.1
  obtain ⟨s, -, first, link⟩ := exists_leads dense
  exact ⟨s, first, (r.leads_apply first).eq r.symm h (r.linked_apply link)⟩

theorem leads_inj (hs : Leads near core s) (ht : Leads near core t) (same : f s = f t) : s = t := by
  have symmetric : Linked near core t s := r.linked_of_eq ht.1 hs.1 same.symm
  rcases Nat.lt_trichotomy s t with before | equal | after
  · exact absurd (r.linked_of_eq hs.1 ht.1 same) (ht.2 s before hs.1)
  · exact equal
  · exact absurd symmetric (hs.2 t after ht.1)

/-! ### Numbering -/

/-- Clusters are counted alike up to `i` and up to `t` if the first core rows before them correspond. -/
theorem ordinal_eq (before : ∀ s < i, Leads near core s → f s < t)
    (stood : ∀ u < t, Leads near' core' u → ∃ s < i, Leads near core s ∧ f s = u) :
    ordinal near core i = ordinal near' core' t := by
  classical
  rw [ordinal, ordinal, Nat.count_eq_card_filter_range, Nat.count_eq_card_filter_range]
  apply Finset.card_nbij f
  · intro s member
    obtain ⟨below, first⟩ := Finset.mem_filter.1 (Finset.mem_coe.1 member)
    have kept := before s (Finset.mem_range.1 below) first
    exact Finset.mem_coe.2 (Finset.mem_filter.2 ⟨Finset.mem_range.2 kept, r.leads_apply first⟩)
  · intro s hs s' hs' same
    exact r.leads_inj (Finset.mem_filter.1 hs).2 (Finset.mem_filter.1 hs').2 same
  · intro u member
    obtain ⟨below, first⟩ := Finset.mem_filter.1 (Finset.mem_coe.1 member)
    obtain ⟨s, less, leads, rfl⟩ := stood u (Finset.mem_range.1 below) first
    exact ⟨s, Finset.mem_coe.2 (Finset.mem_filter.2 ⟨Finset.mem_range.2 less, leads⟩), rfl⟩

/-- If every first core row is stood for, the clusters before a first core row are counted alike. -/
theorem ordinal_apply (covered : ∀ t, Leads near' core' t → ∃ i < rows, f i = t) (hs : Leads near core s) :
    ordinal near' core' (f s) = ordinal near core s := by
  symm
  apply r.ordinal_eq
  · intro t before ht
    have le := r.mono t s (r.inside s hs.1) (Nat.le_of_lt before)
    have other : f t ≠ f s := fun same => absurd (r.leads_inj ht hs same) (Nat.ne_of_lt before)
    omega
  · intro u before hu
    obtain ⟨i, hi, rfl⟩ := covered u hu
    obtain ⟨t, ht, same⟩ := r.exists_leads_of_apply hi hu
    refine ⟨t, ?_, ht, same⟩
    by_contra reversed
    have le := r.mono s t (r.inside t ht.1) (by omega)
    omega

/-- If every first core row is stood for, there are as many clusters. -/
theorem ordinal_rows (covered : ∀ t, Leads near' core' t → ∃ i < rows, f i = t) {total : Nat}
    (within : ∀ i < rows, f i < total) : ordinal near core rows = ordinal near' core' total := by
  apply r.ordinal_eq
  · exact fun s before _ => within s before
  · intro u _ hu
    obtain ⟨i, hi, rfl⟩ := covered u hu
    obtain ⟨t, ht, same⟩ := r.exists_leads_of_apply hi hu
    exact ⟨t, r.inside t ht.1, ht, same⟩

/-! ### Labels -/

section

variable {labels labels' : List Label} {clusters clusters' total d : Nat}
  (reference : IsReference near core rows labels clusters)
  (reference' : IsReference near' core' total labels' clusters')
  (numbered : ∀ s, Leads near core s → ordinal near' core' (f s) = ordinal near core s + d)
include reference reference' numbered

/-- The label of a core row is that of the row it stands for, but for the clusters before. -/
theorem label_of_core (h : core i) :
    ∃ k : Nat, labels[i]? = some (k : Label) ∧ labels'[f i]? = some ((k + d : Nat) : Label) := by
  obtain ⟨s, -, first, link⟩ := exists_leads h
  have dense := (r.core_iff i (r.inside i h)).1 h
  have label := reference'.label_of_linked dense (r.leads_apply first) (r.linked_apply link)
  rw [numbered s first] at label
  exact ⟨_, reference.label_of_linked h first link, label⟩

/-- A row has the label of the row that it stands for, up to the number of clusters that come before. -/
theorem labels_apply (inside : i < rows) (inside' : f i < total) :
    labels'[f i]? = labels[i]?.map (shiftLabel d) := by
  by_cases dense : core i
  · obtain ⟨k, label, label'⟩ := r.label_of_core reference reference' numbered dense
    rw [label, label', Option.map_some, shiftLabel_natCast]
  have sparse : ¬ core' (f i) := fun h => dense ((r.core_iff i inside).2 h)
  by_cases bordering : ∃ j, core j ∧ near i j
  · obtain ⟨j, hj, close⟩ := bordering
    obtain ⟨l, label, ⟨m, hm, near_m, label_m⟩, least⟩ := reference.border i inside dense ⟨j, hj, close⟩
    have seen : ∀ j, core j → near i j → core' (f j) ∧ near' (f i) (f j) := fun j hj close =>
      ⟨(r.core_iff j (r.inside j hj)).1 hj, (r.near_iff i j inside (r.inside j hj)).1 close⟩
    obtain ⟨l', label', smallest⟩ := reference'.border (f i) inside' sparse ⟨f j, seen j hj close⟩
    obtain ⟨k, found, found'⟩ := r.label_of_core reference reference' numbered hm
    obtain rfl : l = k := Option.some.inj (label_m.symm.trans found)
    rw [label, label', Option.map_some, shiftLabel_natCast]
    -- the least label near the row is the least one near its image, both being labels of core rows
    refine congrArg some (smallest.unique ⟨⟨f m, (seen m hm near_m).1, (seen m hm near_m).2, found'⟩, ?_⟩)
    rintro _ ⟨t, ht, close', label_t⟩
    obtain ⟨j, hj, rfl⟩ := r.reached i t inside ht close'
    have dense_j := (r.core_iff j hj).2 ht
    obtain ⟨n, other, other'⟩ := r.label_of_core reference reference' numbered dense_j
    have above : (k : Int) ≤ (n : Int) := least ⟨j, dense_j, (r.near_iff i j inside hj).2 close', other⟩
    obtain rfl := Option.some.inj (label_t.symm.trans other')
    show ((k + d : Nat) : Int) ≤ ((n + d : Nat) : Int)
    omega
  · have alone : ∀ j, core j → ¬ near i j := fun j hj close => bordering ⟨j, hj, close⟩
    have alone' : ∀ t, core' t → ¬ near' (f i) t := by
      intro t ht close
      obtain ⟨j, hj, rfl⟩ := r.reached i t inside ht close
      exact alone j ((r.core_iff j hj).2 ht) ((r.near_iff i j inside hj).2 close)
    rw [reference.noise i inside dense alone, reference'.noise (f i) inside' sparse alone']
    rfl

end

/-- If clusters are numbered alike, a row has the label of the row that it stands for. -/
theorem labels_eq {labels labels' : List Label} {clusters clusters' total : Nat}
    (reference : IsReference near core rows labels clusters)
    (reference' : IsReference near' core' total labels' clusters')
    (numbered : ∀ s, Leads near core s → ordinal near' core' (f s) = ordinal near core s)
    (inside : i < rows) (inside' : f i < total) : labels'[f i]? = labels[i]? := by
  have label := r.labels_apply (d := 0) reference reference' numbered inside inside'
  rwa [funext shiftLabel_zero, Option.map_id'] at label

end Represents

/-- After the rows that come before a block, the clusters of the block are counted as in the block alone. -/
theorem ordinal_add {m : Nat} (r : Represents (m + ·) rows near core near' core') (le : j ≤ rows) :
    ordinal near' core' (m + j) = ordinal near' core' m + ordinal near core j := by
  induction j with
  | zero =>
    have none : ordinal near core 0 = 0 := rfl
    rw [none, Nat.add_zero, Nat.add_zero]
  | succ j ih =>
    rw [← Nat.add_assoc]
    by_cases first : Leads near core j
    · rw [ordinal_succ_of_leads first, ordinal_succ_of_leads (r.leads_apply first), ih (by omega), Nat.add_assoc]
    · have other : ¬ Leads near' core' (m + j) := by
        intro h
        obtain ⟨s, leads, same⟩ := r.exists_leads_of_apply (by omega) h
        obtain rfl : s = j := Nat.add_left_cancel same
        exact first leads
      rw [ordinal_succ_of_not_leads first, ordinal_succ_of_not_leads other, ih (by omega)]

end DensityAudit.Density
