import Mathlib.Data.Nat.Count
import Mathlib.Logic.Relation
import Mathlib.Order.Bounds.Basic
import DensityAudit.Engine.Answer

/-!
# The reference clustering

What a density-based clustering is, told by the neighbourhood relation and the core rows alone: two core
rows are together iff a chain of core rows links them, the clusters are numbered in the order of their first
core rows, a row that is not core joins the smallest cluster that has a core row near it, and every other row
is noise. `IsReference` determines the labels and the number of clusters; no algorithm appears in it.
-/

namespace DensityAudit.Density

section

variable (near : Nat → Nat → Prop) (core : Nat → Prop)

/-- Core rows `i` and `j` are joined by a chain of core rows, each near the next. -/
def Linked : Nat → Nat → Prop := Relation.ReflTransGen fun i j => core i ∧ core j ∧ near i j

/-- Row `i` is the first core row of its cluster. -/
def Leads (i : Nat) : Prop := core i ∧ ∀ j < i, core j → ¬ Linked near core j i

open Classical in
/-- The number of clusters whose first core row comes before row `i`. -/
noncomputable def ordinal (i : Nat) : Nat := Nat.count (Leads near core) i

/-- The labels of `rows` rows and the number of clusters are those of the reference clustering. -/
structure IsReference (rows : Nat) (labels : List Label) (clusterCount : Nat) : Prop where
  length : labels.length = rows
  /-- Core rows have one label iff they are linked. -/
  joined : ∀ i j, core i → core j → (labels[i]? = labels[j]? ↔ Linked near core i j)
  /-- Clusters are numbered from zero in the order of their first core rows. -/
  numbered : ∀ i, Leads near core i → labels[i]? = some (ordinal near core i : Label)
  counted : clusterCount = ordinal near core rows
  /-- A row near core rows that is not core itself has the smallest of their labels. -/
  border : ∀ i < rows, ¬ core i → (∃ j, core j ∧ near i j) →
    ∃ label, labels[i]? = some label ∧ IsLeast {l | ∃ j, core j ∧ near i j ∧ labels[j]? = some l} label
  /-- A row that is neither core nor near a core row is noise. -/
  noise : ∀ i < rows, ¬ core i → (∀ j, core j → ¬ near i j) → labels[i]? = some noise

end

variable {near : Nat → Nat → Prop} {core : Nat → Prop} {i j s t : Nat}

/-! ### Links -/

/-- Chains can be followed back. -/
theorem Linked.symm (symmetric : ∀ i j, near i j → near j i) (h : Linked near core i j) : Linked near core j i := by
  induction h with
  | refl => exact .refl
  | tail _ step ih => exact .head ⟨step.2.1, step.1, symmetric _ _ step.2.2⟩ ih

/-- A map that keeps core rows and their neighbours keeps chains. -/
theorem Linked.lift {near' : Nat → Nat → Prop} {core' : Nat → Prop} (f : Nat → Nat) (dense : ∀ i, core i → core' (f i))
    (kept : ∀ i j, core i → core j → near i j → near' (f i) (f j)) (h : Linked near core i j) :
    Linked near' core' (f i) (f j) := by
  refine Relation.ReflTransGen.lift f ?_ i j h
  rintro a b ⟨first, second, close⟩
  exact ⟨dense a first, dense b second, kept a b first second close⟩

/-- A chain remains one if rows come nearer and denser. -/
theorem Linked.mono {near' : Nat → Nat → Prop} {core' : Nat → Prop} (kept : ∀ i j, near i j → near' i j)
    (dense : ∀ i, core i → core' i) (h : Linked near core i j) : Linked near' core' i j :=
  h.lift id dense fun i j _ _ => kept i j

/-- A link to another row ends with a step from a core row near it. -/
theorem Linked.last (h : Linked near core i j) (other : j ≠ i) : ∃ k, core k ∧ Linked near core i k ∧ near k j := by
  rcases Relation.ReflTransGen.cases_tail h with same | ⟨k, link, step⟩
  · exact absurd same other
  · exact ⟨k, step.1, link, step.2.2⟩

/-! ### First core rows -/

/-- Every core row is linked from the first core row of its cluster. -/
theorem exists_leads (h : core i) : ∃ s ≤ i, Leads near core s ∧ Linked near core s i := by
  induction i using Nat.strongRecOn with
  | ind i ih =>
    by_cases first : Leads near core i
    · exact ⟨i, Nat.le_refl i, first, .refl⟩
    · obtain ⟨j, before, core', link⟩ : ∃ j < i, core j ∧ Linked near core j i := by
        by_contra none
        exact first ⟨h, fun j before core' link => none ⟨j, before, core', link⟩⟩
      obtain ⟨s, le, leads, link'⟩ := ih j before core'
      exact ⟨s, by omega, leads, link'.trans link⟩

/-- Linked first core rows are one. -/
theorem Leads.eq (symmetric : ∀ i j, near i j → near j i) (hs : Leads near core s) (ht : Leads near core t)
    (link : Linked near core s t) : s = t := by
  rcases Nat.lt_trichotomy s t with before | same | after
  · exact absurd link (ht.2 s before hs.1)
  · exact same
  · exact absurd (link.symm symmetric) (hs.2 t after ht.1)

theorem ordinal_succ_of_leads (h : Leads near core i) : ordinal near core (i + 1) = ordinal near core i + 1 := by
  classical
  exact Nat.count_succ_eq_succ_count_iff.2 h

theorem ordinal_succ_of_not_leads (h : ¬ Leads near core i) : ordinal near core (i + 1) = ordinal near core i := by
  classical
  exact Nat.count_succ_eq_count_iff.2 h

theorem ordinal_mono (h : i ≤ j) : ordinal near core i ≤ ordinal near core j := by
  classical
  exact Nat.count_monotone _ h

/-- Clusters with one number have one first core row. -/
theorem ordinal_inj (hs : Leads near core s) (ht : Leads near core t) (same : ordinal near core s = ordinal near core t) :
    s = t := by
  classical
  exact Nat.count_injective hs ht same

theorem ordinal_lt_of_leads (hs : Leads near core s) (before : s < t) : ordinal near core s < ordinal near core t := by
  have next : ordinal near core (s + 1) ≤ ordinal near core t := ordinal_mono before
  rw [ordinal_succ_of_leads hs] at next
  omega

/-- Every number below an ordinal is that of an earlier cluster. -/
theorem exists_leads_of_lt_ordinal {k : Nat} (h : k < ordinal near core t) :
    ∃ s < t, Leads near core s ∧ ordinal near core s = k := by
  induction t with
  | zero => exact absurd h (Nat.not_lt_zero k)
  | succ t ih =>
    by_cases first : Leads near core t
    · rw [ordinal_succ_of_leads first] at h
      rcases Nat.lt_succ_iff_lt_or_eq.1 h with below | same
      · obtain ⟨s, before, found⟩ := ih below
        exact ⟨s, by omega, found⟩
      · exact ⟨t, by omega, first, same.symm⟩
    · rw [ordinal_succ_of_not_leads first] at h
      obtain ⟨s, before, found⟩ := ih h
      exact ⟨s, by omega, found⟩

namespace IsReference

variable {rows clusterCount clusterCount' : Nat} {labels labels' : List Label}

/-! ### The labels of a reference clustering -/

/-- A core row has the number of the cluster that it is linked to. -/
theorem label_of_linked (reference : IsReference near core rows labels clusterCount) (h : core i)
    (first : Leads near core s) (link : Linked near core s i) : labels[i]? = some (ordinal near core s : Label) := by
  rw [← reference.numbered s first]
  exact ((reference.joined s i first.1 h).2 link).symm

/-- A core row has the number of a cluster. -/
theorem label_of_core (reference : IsReference near core rows labels clusterCount) (h : core i) {l : Label}
    (found : labels[i]? = some l) : ∃ k < clusterCount, l = (k : Label) := by
  obtain ⟨inside, -⟩ := List.getElem?_eq_some_iff.1 found
  rw [reference.length] at inside
  obtain ⟨s, le, first, link⟩ := exists_leads h
  rw [reference.label_of_linked h first link, Option.some.injEq] at found
  refine ⟨_, ?_, found.symm⟩
  rw [reference.counted]
  exact ordinal_lt_of_leads first (by omega)

theorem exists_label_of_core (reference : IsReference near core rows labels clusterCount) (h : core i) :
    ∃ k : Nat, labels[i]? = some (k : Label) := by
  obtain ⟨s, -, first, link⟩ := exists_leads h
  exact ⟨_, reference.label_of_linked h first link⟩

/-- A label is noise or the number of a cluster. -/
theorem label_cases (reference : IsReference near core rows labels clusterCount) {l : Label} (member : l ∈ labels) :
    l = DensityAudit.noise ∨ ∃ k < clusterCount, l = (k : Label) := by
  obtain ⟨i, found⟩ := List.mem_iff_getElem?.1 member
  obtain ⟨inside, -⟩ := List.getElem?_eq_some_iff.1 found
  rw [reference.length] at inside
  by_cases dense : core i
  · exact .inr (reference.label_of_core dense found)
  by_cases bordering : ∃ j, core j ∧ near i j
  · obtain ⟨l', found', ⟨j, h, -, label⟩, -⟩ := reference.border i inside dense bordering
    rw [found, Option.some.injEq] at found'
    subst found'
    exact .inr (reference.label_of_core h label)
  · have alone := reference.noise i inside dense fun j h close => bordering ⟨j, h, close⟩
    rw [found, Option.some.injEq] at alone
    exact .inl alone

/-- The labels that are not negative are the numbers of the clusters, all of them. -/
theorem mem_labels_iff (reference : IsReference near core rows labels clusterCount) (l : Label) (cluster : 0 ≤ l) :
    l ∈ labels ↔ ∃ k < clusterCount, l = (k : Label) := by
  constructor
  · intro member
    rcases reference.label_cases member with rfl | found
    · exact absurd cluster (by decide)
    · exact found
  · rintro ⟨k, below, rfl⟩
    rw [reference.counted] at below
    obtain ⟨s, -, first, rfl⟩ := exists_leads_of_lt_ordinal below
    exact List.mem_of_getElem? (reference.numbered s first)

/-- The rows outside noise are the core rows and the rows near them. -/
theorem clustered_iff (reference : IsReference near core rows labels clusterCount) (inside : i < rows) :
    (∃ l, labels[i]? = some l ∧ l ≠ DensityAudit.noise) ↔ core i ∨ ∃ j, core j ∧ near i j := by
  have numbered : ∀ {j : Nat} {l : Label}, core j → labels[j]? = some l → l ≠ DensityAudit.noise := by
    intro j l h found
    obtain ⟨k, -, rfl⟩ := reference.label_of_core h found
    show (k : Int) ≠ -1
    omega
  constructor
  · rintro ⟨l, found, clustered⟩
    by_contra none
    rw [not_or, not_exists] at none
    have alone := reference.noise i inside none.1 fun j h close => none.2 j ⟨h, close⟩
    exact clustered (Option.some.inj (found.symm.trans alone))
  · intro dense
    by_cases h : core i
    · have fits : i < labels.length := by rw [reference.length]; exact inside
      exact ⟨labels[i], List.getElem?_eq_getElem fits, numbered h (List.getElem?_eq_getElem fits)⟩
    · obtain ⟨l, found, ⟨j, hj, -, label⟩, -⟩ := reference.border i inside h (dense.resolve_left h)
      exact ⟨l, found, numbered hj label⟩

/-- The rows of noise are those that are neither core nor near a core row. -/
theorem noise_iff (reference : IsReference near core rows labels clusterCount) (inside : i < rows) :
    labels[i]? = some DensityAudit.noise ↔ ¬ (core i ∨ ∃ j, core j ∧ near i j) := by
  have fits : i < labels.length := by rw [reference.length]; exact inside
  rw [← reference.clustered_iff inside, List.getElem?_eq_getElem fits]
  simp

/-! ### Uniqueness -/

/-- Two reference clusterings give a core row the same label. -/
theorem label_congr (reference : IsReference near core rows labels clusterCount)
    (reference' : IsReference near core rows labels' clusterCount') (h : core i) : labels[i]? = labels'[i]? := by
  obtain ⟨s, -, first, link⟩ := exists_leads h
  rw [reference.label_of_linked h first link, reference'.label_of_linked h first link]

/-- The neighbourhoods and the core rows determine the reference clustering. -/
theorem unique (reference : IsReference near core rows labels clusterCount)
    (reference' : IsReference near core rows labels' clusterCount') : labels = labels' ∧ clusterCount = clusterCount' := by
  refine ⟨List.ext_getElem? fun i => ?_, reference.counted.trans reference'.counted.symm⟩
  by_cases inside : i < rows
  case neg =>
    have outside : labels.length ≤ i := by have := reference.length; omega
    have outside' : labels'.length ≤ i := by have := reference'.length; omega
    rw [List.getElem?_eq_none outside, List.getElem?_eq_none outside']
  by_cases dense : core i
  · exact label_congr reference reference' dense
  by_cases bordering : ∃ j, core j ∧ near i j
  · obtain ⟨l, found, least⟩ := reference.border i inside dense bordering
    obtain ⟨l', found', least'⟩ := reference'.border i inside dense bordering
    have same : {l | ∃ j, core j ∧ near i j ∧ labels[j]? = some l} =
        {l | ∃ j, core j ∧ near i j ∧ labels'[j]? = some l} := by
      ext l
      constructor
      · rintro ⟨j, h, close, label⟩
        exact ⟨j, h, close, by rw [← label_congr reference reference' h, label]⟩
      · rintro ⟨j, h, close, label⟩
        exact ⟨j, h, close, by rw [label_congr reference reference' h, label]⟩
    rw [same] at least
    rw [found, found', least.unique least']
  · have alone : ∀ j, core j → ¬ near i j := fun j h close => bordering ⟨j, h, close⟩
    rw [reference.noise i inside dense alone, reference'.noise i inside dense alone]

end IsReference

end DensityAudit.Density
