import DensityAudit.Density.Expansion

/-!
# What growing a cluster labels

From any state of the labels, `Graph.expand` labels the seed and those rows without a label that can be
reached from it through core rows without a label; all other rows keep what they had. `Visiting` is what
holds of the labels and the stack at every step of the walk: every row on the stack can be reached, and
every row that can be reached in one more step has a label or is on the stack. Neither the order of the
stack nor any symmetry of the neighbourhoods plays a part.
-/

namespace DensityAudit.Density

namespace Marks

variable {marks : Marks} {i j : Nat} {label : Label}

theorem getElem?_set_of_unreached (h : marks.unreached i = true) (j : Nat) :
    (marks.setIfInBounds i (some label))[j]? = if i = j then some (some label) else marks[j]? := by
  obtain ⟨inside, -⟩ := Array.getElem?_eq_some_iff.1 (unreached_iff.1 h)
  rw [Array.getElem?_setIfInBounds]
  simp [inside]

theorem getElem?_set_of_ne (h : i ≠ j) : (marks.setIfInBounds i (some label))[j]? = marks[j]? := by
  rw [Array.getElem?_setIfInBounds, if_neg h]

/-- Labelling a row leaves exactly the other unreached rows unreached. -/
theorem unreached_set_iff :
    unreached (marks.setIfInBounds i (some label)) j = true ↔ marks.unreached j = true ∧ i ≠ j := by
  by_cases same : i = j
  · subst same
    rw [unreached_iff, Array.getElem?_setIfInBounds, if_pos rfl]
    split <;> simp
  · rw [unreached_iff, unreached_iff, getElem?_set_of_ne same, and_iff_left same]

theorem unreached_congr {marks' : Marks} (h : marks[i]? = marks'[i]?) : marks.unreached i = marks'.unreached i := by
  rw [unreached, unreached, h]

end Marks

/-- Row `i` can be reached from the seed through core rows that have no label in `old`. The seed itself
need not be core, nor without a label. -/
inductive Graph.Reaches (g : Graph) (old : Marks) (seed : Nat) : Nat → Prop where
  | near {i : Nat} : i ∈ g.near seed → g.Reaches old seed i
  | onward {i j : Nat} : g.Reaches old seed i → g.core i = true → old.unreached i = true → j ∈ g.near i →
      g.Reaches old seed j

/-- The state of a walk that started from the labels `old` by labelling the seed. -/
structure Graph.Visiting (g : Graph) (label : Label) (old : Marks) (seed : Nat) (stack : List Nat) (marks : Marks) :
    Prop where
  /-- Rows that had a label have the same one. -/
  kept : ∀ i, i ≠ seed → old.unreached i = false → marks[i]? = old[i]?
  /-- The seed has the entry that it was given first. -/
  seeded : marks[seed]? = (old.setIfInBounds seed (some label))[seed]?
  /-- Rows that had no label and have one can be reached, and have the label of the walk. -/
  given : ∀ i, i ≠ seed → old.unreached i = true → marks.unreached i = false →
    marks[i]? = some (some label) ∧ g.Reaches old seed i
  /-- Rows that wait can be reached. -/
  pending : ∀ i ∈ stack, g.Reaches old seed i
  /-- Neighbours of the seed have a label or wait. -/
  around : ∀ j ∈ g.near seed, marks.unreached j = true → j ∈ stack
  /-- Neighbours of the core rows labelled on the way have a label or wait. -/
  closed : ∀ i, i ≠ seed → old.unreached i = true → marks.unreached i = false → g.core i = true →
    ∀ j ∈ g.near i, marks.unreached j = true → j ∈ stack

namespace Graph

variable {g : Graph} {label : Label} {old marks marks' : Marks} {seed i : Nat} {rest stack stack' : List Nat}

theorem unreached_set_self (marks : Marks) (i : Nat) (label : Label) :
    Marks.unreached (marks.setIfInBounds i (some label)) i = false := by
  rw [Bool.eq_false_iff, ne_eq, Marks.unreached_set_iff]
  exact fun h => h.2 rfl

namespace Visiting

/-- The walk begins with the seed labelled and its neighbours on the stack. -/
theorem start (g : Graph) (label : Label) (old : Marks) (seed : Nat) :
    g.Visiting label old seed (g.near seed) (old.setIfInBounds seed (some label)) where
  kept i other _ := Marks.getElem?_set_of_ne (Ne.symm other)
  seeded := rfl
  given i other before now := by
    rw [Marks.unreached_congr (Marks.getElem?_set_of_ne (Ne.symm other)), before] at now
    cases now
  pending i h := .near h
  around j h _ := h
  closed i other before now := by
    rw [Marks.unreached_congr (Marks.getElem?_set_of_ne (Ne.symm other)), before] at now
    cases now

theorem seed_reached (v : g.Visiting label old seed stack marks) : marks.unreached seed = false := by
  rw [Marks.unreached_congr v.seeded, unreached_set_self]

/-- A row that has no label had none before. -/
theorem unreached_before (v : g.Visiting label old seed stack marks) (h : marks.unreached i = true) :
    i ≠ seed ∧ old.unreached i = true := by
  have other : i ≠ seed := by
    rintro rfl
    rw [v.seed_reached] at h
    cases h
  refine ⟨other, ?_⟩
  cases before : old.unreached i with
  | true => rfl
  | false => rw [Marks.unreached_congr (v.kept i other before), before] at h; cases h

/-- A row with a label is passed over. -/
theorem skip (v : g.Visiting label old seed (i :: rest) marks) (h : marks.unreached i = false) :
    g.Visiting label old seed rest marks := by
  have waits : ∀ j, marks.unreached j = true → j ∈ i :: rest → j ∈ rest := by
    intro j free member
    rcases List.mem_cons.1 member with rfl | member
    · rw [h] at free; cases free
    · exact member
  exact {
    kept := v.kept
    seeded := v.seeded
    given := v.given
    pending := fun k member => v.pending k (List.mem_cons_of_mem _ member)
    around := fun j near free => waits j free (v.around j near free)
    closed := fun k other before now core j near free => waits j free (v.closed k other before now core j near free) }

/-- A row without a label is labelled, and its unreached neighbours wait if it is core. -/
theorem take (v : g.Visiting label old seed (i :: rest) marks) (h : marks.unreached i = true) :
    g.Visiting label old seed (g.onward (marks.setIfInBounds i (some label)) i ++ rest)
      (marks.setIfInBounds i (some label)) := by
  obtain ⟨notSeed, before⟩ := v.unreached_before h
  have reach : g.Reaches old seed i := v.pending i List.mem_cons_self
  have waits : ∀ j, Marks.unreached (marks.setIfInBounds i (some label)) j = true → j ∈ i :: rest →
      j ∈ g.onward (marks.setIfInBounds i (some label)) i ++ rest := by
    intro j free member
    rcases List.mem_cons.1 member with rfl | member
    · exact absurd rfl (Marks.unreached_set_iff.1 free).2
    · exact List.mem_append_right _ member
  refine ⟨?kept, ?seeded, ?given, ?pending, ?around, ?closed⟩
  case kept =>
    intro k other labelled
    have distinct : i ≠ k := by
      rintro rfl
      rw [before] at labelled
      cases labelled
    rw [Marks.getElem?_set_of_ne distinct, v.kept k other labelled]
  case seeded => rw [Marks.getElem?_set_of_ne notSeed, v.seeded]
  case given =>
    intro k other free now
    rw [Marks.getElem?_set_of_unreached h]
    by_cases same : i = k
    · subst same
      exact ⟨if_pos rfl, reach⟩
    · rw [if_neg same]
      rw [Marks.unreached_congr (Marks.getElem?_set_of_ne same)] at now
      exact v.given k other free now
  case pending =>
    intro k member
    rcases List.mem_append.1 member with next | waiting
    · rw [onward] at next
      split at next
      · exact .onward reach (by assumption) before (List.mem_filter.1 next).1
      · cases next
    · exact v.pending k (List.mem_cons_of_mem _ waiting)
  case around =>
    intro j near free
    exact waits j free (v.around j near (Marks.unreached_set_iff.1 free).1)
  case closed =>
    intro k other free now core j near open'
    by_cases same : i = k
    · subst same
      apply List.mem_append_left
      rw [onward, if_pos core]
      exact List.mem_filter.2 ⟨near, open'⟩
    · rw [Marks.unreached_congr (Marks.getElem?_set_of_ne same)] at now
      exact waits j open' (v.closed k other free now core j near (Marks.unreached_set_iff.1 open').1)

/-- The walk ends with an empty stack. -/
theorem visit (v : g.Visiting label old seed stack marks) : g.Visiting label old seed [] (g.visit label stack marks) := by
  fun_induction Graph.visit g label stack marks with
  | case1 => exact v
  | case2 marks i rest free labelled ih => exact ih (v.take free)
  | case3 marks i rest reached ih => exact ih (v.skip (by simpa using reached))

/-- When no row waits, every row that can be reached has a label. -/
theorem reached_of_reaches (v : g.Visiting label old seed [] marks) (h : g.Reaches old seed i) :
    marks.unreached i = false := by
  rw [Bool.eq_false_iff]
  induction h with
  | near h => exact fun free => List.not_mem_nil (v.around _ h free)
  | @onward i j _ core before near ih =>
    intro free
    by_cases same : i = seed
    · subst same
      exact List.not_mem_nil (v.around j near free)
    · exact List.not_mem_nil (v.closed i same before (Bool.eq_false_iff.2 ih) core j near free)

/-- The order of the stack plays no part. -/
theorem of_mem_iff (v : g.Visiting label old seed stack marks) (same : ∀ i, i ∈ stack ↔ i ∈ stack') :
    g.Visiting label old seed stack' marks where
  kept := v.kept
  seeded := v.seeded
  given := v.given
  pending i member := v.pending i ((same i).2 member)
  around j near free := (same j).1 (v.around j near free)
  closed i other before now core j near free := (same j).1 (v.closed i other before now core j near free)

/-- At the end of a walk a row without a label has got it if it can be reached. -/
theorem getElem?_of_reaches (v : g.Visiting label old seed [] marks) (other : i ≠ seed) (free : old.unreached i = true)
    (h : g.Reaches old seed i) : marks[i]? = some (some label) :=
  (v.given i other free (v.reached_of_reaches h)).1

/-- A row other than the seed that has a label, or cannot be reached, keeps what it had. -/
theorem getElem?_of_not_reaches (v : g.Visiting label old seed [] marks) (other : i ≠ seed)
    (h : old.unreached i = true → ¬ g.Reaches old seed i) : marks[i]? = old[i]? := by
  cases free : old.unreached i with
  | false => exact v.kept i other free
  | true =>
    cases now : marks.unreached i with
    | true => rw [Marks.unreached_iff.1 now, Marks.unreached_iff.1 free]
    | false => exact absurd (v.given i other free now).2 (h free)

/-- Walks that end leave the same labels. -/
theorem unique (v : g.Visiting label old seed [] marks) (v' : g.Visiting label old seed [] marks') : marks = marks' := by
  apply Array.ext_getElem?
  intro i
  by_cases start : i = seed
  · rw [start, v.seeded, v'.seeded]
  by_cases reached : old.unreached i = true ∧ g.Reaches old seed i
  · rw [v.getElem?_of_reaches start reached.1 reached.2, v'.getElem?_of_reaches start reached.1 reached.2]
  · have apart : old.unreached i = true → ¬ g.Reaches old seed i := fun free reach => reached ⟨free, reach⟩
    rw [v.getElem?_of_not_reaches start apart, v'.getElem?_of_not_reaches start apart]

end Visiting

/-- The expansion is where the walk ends, with nothing left on the stack. -/
theorem visiting_expand (g : Graph) (label : Label) (old : Marks) (seed : Nat) :
    g.Visiting label old seed [] (g.expand label seed old) :=
  (Visiting.start g label old seed).visit

/-- The seed gets the label, whatever it had. -/
theorem getElem?_expand_seed (g : Graph) (label : Label) {old : Marks} {seed : Nat} (inside : seed < old.size) :
    (g.expand label seed old)[seed]? = some (some label) := by
  rw [(visiting_expand g label old seed).seeded, Array.getElem?_setIfInBounds, if_pos rfl, if_pos inside]

/-- A free row that is reached gets the label. -/
theorem getElem?_expand_of_reaches (g : Graph) (label : Label) {old : Marks} {seed i : Nat} (other : i ≠ seed)
    (free : old.unreached i = true) (h : g.Reaches old seed i) :
    (g.expand label seed old)[i]? = some (some label) :=
  (visiting_expand g label old seed).getElem?_of_reaches other free h

/-- A row that had a label or is not reached keeps its entry. -/
theorem getElem?_expand_of_not_reaches (g : Graph) (label : Label) {old : Marks} {seed i : Nat} (other : i ≠ seed)
    (h : old.unreached i = true → ¬ g.Reaches old seed i) : (g.expand label seed old)[i]? = old[i]? :=
  (visiting_expand g label old seed).getElem?_of_not_reaches other h

end Graph

end DensityAudit.Density
