import DensityAudit.Density.Labelling
import DensityAudit.Proofs.Density.Reach
import DensityAudit.Proofs.Density.Reference

/-!
# The scan finds the reference clustering

On a graph whose neighbourhoods are symmetric, the labelling by scanning rows and growing clusters is the
reference clustering. A cluster covers its first core row and every row near one of its core rows. After the
rows before `t` have been scanned, a row has the number of the first cluster that covers it, among the
clusters that start before `t` (`Scanned`).
-/

namespace DensityAudit.Density.Graph

/-- Row `j` is a neighbour of row `i`. -/
def Adjacent (g : Graph) (i j : Nat) : Prop := j ∈ g.near i

/-- Row `i` is core. -/
def IsCore (g : Graph) (i : Nat) : Prop := g.core i = true

/-- Neighbours are neighbours of each other, and core rows exist. -/
structure Undirected (g : Graph) : Prop where
  symm : ∀ i j, g.Adjacent i j → g.Adjacent j i
  inside : ∀ i, g.IsCore i → i < g.size

/-- Row `i` is row `s` or near a core row linked from `s`. -/
def Covers (g : Graph) (s i : Nat) : Prop :=
  i = s ∨ ∃ j, g.IsCore j ∧ Linked g.Adjacent g.IsCore s j ∧ g.Adjacent j i

/-- Row `i` is the first core row of its cluster. -/
abbrev First (g : Graph) (i : Nat) : Prop := Leads g.Adjacent g.IsCore i

/-- The number of the cluster that row `i` is the first core row of. -/
noncomputable abbrev number (g : Graph) (i : Nat) : Nat := ordinal g.Adjacent g.IsCore i

variable {g : Graph} {progress : Progress} {s t i j : Nat}

theorem Covers.of_linked (h : Linked g.Adjacent g.IsCore s i) : g.Covers s i := by
  by_cases same : i = s
  · exact .inl same
  · exact .inr (h.last same)

/-- A core row is covered exactly by the rows that it is linked from. -/
theorem Covers.linked (core : g.IsCore i) (h : g.Covers s i) : Linked g.Adjacent g.IsCore s i := by
  rcases h with rfl | ⟨j, core', link, near⟩
  · exact .refl
  · exact link.tail ⟨core', core, near⟩

/-- The state of a scan after the rows before `t`. -/
structure Scanned (g : Graph) (t : Nat) (progress : Progress) : Prop where
  size : progress.marks.size = g.size
  next : progress.next = g.number t
  /-- A labelled row has the number of the first cluster that covers it. -/
  marked : ∀ (i : Nat) (l : Label), progress.marks[i]? = some (some l) →
    ∃ s < t, g.First s ∧ l = g.number s ∧ g.Covers s i ∧ ∀ s' < s, g.First s' → ¬ g.Covers s' i
  /-- No cluster that has started covers a row without a label. -/
  unmarked : ∀ i, progress.marks.unreached i = true → ∀ s < t, g.First s → ¬ g.Covers s i

/-- Before the scan no row has a label. -/
theorem scanned_start (g : Graph) : g.Scanned 0 ⟨Array.replicate g.size none, 0⟩ where
  size := Array.size_replicate
  next := rfl
  marked i l h := by
    rw [Array.getElem?_replicate] at h
    split at h <;> cases h
  unmarked i _ s before := absurd before (Nat.not_lt_zero s)

namespace Scanned

/-- An unreached core row is the first of its cluster. -/
theorem first_of_unreached (scanned : g.Scanned t progress) (core : g.IsCore t)
    (free : progress.marks.unreached t = true) : g.First t := by
  refine ⟨core, fun j before core' link => ?_⟩
  obtain ⟨s, le, first, link'⟩ := exists_leads core'
  exact scanned.unmarked t free s (by omega) first (.of_linked (link'.trans link))

/-- The core rows of a cluster that starts now have no label yet. -/
theorem unreached_of_linked (graph : g.Undirected) (scanned : g.Scanned t progress) (first : g.First t)
    (core : g.IsCore j) (link : Linked g.Adjacent g.IsCore t j) : progress.marks.unreached j = true := by
  have inside : j < progress.marks.size := by
    rw [scanned.size]
    exact graph.inside j core
  rw [Marks.unreached_iff, Array.getElem?_eq_getElem inside, Option.some.injEq]
  cases mark : progress.marks[j] with
  | none => rfl
  | some l =>
    obtain ⟨s, before, first', -, covers, -⟩ := scanned.marked j l (by rw [Array.getElem?_eq_getElem inside, mark])
    have link' : Linked g.Adjacent g.IsCore s t := (covers.linked core).trans (link.symm graph.symm)
    exact absurd link' (first.2 s before first'.1)

/-- From a first core row the walk reaches exactly the other rows that its cluster covers. -/
theorem reaches_iff_covers (graph : g.Undirected) (scanned : g.Scanned t progress) (first : g.First t)
    (other : i ≠ t) : g.Reaches progress.marks t i ↔ g.Covers t i := by
  constructor
  · intro reach
    clear other
    induction reach with
    | near h => exact .inr ⟨t, first.1, .refl, h⟩
    | onward _ core _ near ih => exact .inr ⟨_, core, ih.linked core, near⟩
  · intro covers
    -- along a chain every core row is reached, since none of them has a label yet
    have chain : ∀ k, Linked g.Adjacent g.IsCore t k → k = t ∨ g.Reaches progress.marks t k := by
      intro k link
      induction link with
      | refl => exact .inl rfl
      | tail link step ih =>
        rcases ih with rfl | reach
        · exact .inr (.near step.2.2)
        · exact .inr (.onward reach step.1 (scanned.unreached_of_linked graph first step.1 link) step.2.2)
    rcases covers with same | ⟨j, core, link, near⟩
    · exact absurd same other
    · rcases chain j link with rfl | reach
      · exact .near near
      · exact .onward reach core (scanned.unreached_of_linked graph first core link) near

/-- Scanning a row that starts a cluster. -/
theorem step_first (graph : g.Undirected) (scanned : g.Scanned t progress) (core : g.IsCore t)
    (free : progress.marks.unreached t = true) :
    g.Scanned (t + 1) ⟨g.expand progress.next t progress.marks, progress.next + 1⟩ := by
  have first := scanned.first_of_unreached core free
  have inside : t < progress.marks.size := by
    rw [scanned.size]
    exact graph.inside t core
  have seed := getElem?_expand_seed g (progress.next : Label) inside
  refine ⟨?size, ?next, ?marked, ?unmarked⟩
  case size => rw [size_expand, scanned.size]
  case next => rw [scanned.next, number, number, ordinal_succ_of_leads first]
  case marked =>
    intro i l given
    by_cases same : i = t
    · subst same
      rw [seed, scanned.next, Option.some.injEq, Option.some.injEq] at given
      exact ⟨i, by omega, first, given.symm, .inl rfl, scanned.unmarked i free⟩
    by_cases reached : progress.marks.unreached i = true ∧ g.Covers t i
    · have reach := (scanned.reaches_iff_covers graph first same).2 reached.2
      rw [getElem?_expand_of_reaches g _ same reached.1 reach, scanned.next, Option.some.injEq,
        Option.some.injEq] at given
      exact ⟨t, by omega, first, given.symm, reached.2, scanned.unmarked i reached.1⟩
    · rw [getElem?_expand_of_not_reaches g _ same fun free' reach =>
        reached ⟨free', (scanned.reaches_iff_covers graph first same).1 reach⟩] at given
      obtain ⟨s, before, found⟩ := scanned.marked i l given
      exact ⟨s, by omega, found⟩
  case unmarked =>
    intro i free' s before first' covers
    have other : i ≠ t := by
      rintro rfl
      rw [Marks.unreached_iff, seed] at free'
      cases free'
    have kept : progress.marks.unreached i = true ∧ ¬ g.Covers t i := by
      by_cases reached : progress.marks.unreached i = true ∧ g.Covers t i
      · have reach := (scanned.reaches_iff_covers graph first other).2 reached.2
        rw [Marks.unreached_iff, getElem?_expand_of_reaches g _ other reached.1 reach] at free'
        cases free'
      · have same := getElem?_expand_of_not_reaches g (progress.next : Label) other fun free'' reach =>
          reached ⟨free'', (scanned.reaches_iff_covers graph first other).1 reach⟩
        have before' : progress.marks.unreached i = true := by rw [← Marks.unreached_congr same, free']
        exact ⟨before', fun covers' => reached ⟨before', covers'⟩⟩
    rcases Nat.lt_succ_iff_lt_or_eq.1 before with before | rfl
    · exact scanned.unmarked i kept.1 s before first' covers
    · exact kept.2 covers

/-- Scanning a row that starts no cluster. -/
theorem step_other (scanned : g.Scanned t progress) (other : ¬ g.First t) : g.Scanned (t + 1) progress where
  size := scanned.size
  next := by rw [scanned.next, number, number, ordinal_succ_of_not_leads other]
  marked i l given := by
    obtain ⟨s, before, found⟩ := scanned.marked i l given
    exact ⟨s, by omega, found⟩
  unmarked i free s before first := by
    rcases Nat.lt_succ_iff_lt_or_eq.1 before with before | rfl
    · exact scanned.unmarked i free s before first
    · exact absurd first other

/-- A row that has a label is not the first of a cluster. -/
theorem not_first_of_reached (graph : g.Undirected) (scanned : g.Scanned t progress)
    (reached : progress.marks.unreached t = false) : ¬ g.First t := by
  intro first
  have free := scanned.unreached_of_linked graph first first.1 .refl
  rw [reached] at free
  cases free

/-- One more row keeps what is known of the scan. -/
theorem step (graph : g.Undirected) (scanned : g.Scanned t progress) : g.Scanned (t + 1) (g.scanRow progress t) := by
  unfold scanRow
  split
  case isTrue h =>
    rw [Bool.and_eq_true] at h
    exact scanned.step_first graph h.2 h.1
  case isFalse h =>
    apply scanned.step_other
    rw [Bool.and_eq_true, not_and] at h
    cases free : progress.marks.unreached t with
    | true => exact fun first => h free first.1
    | false => exact scanned.not_first_of_reached graph free

end Scanned

/-- The scan of all rows. -/
theorem scanned_scan (graph : g.Undirected) : g.Scanned g.size g.scan := by
  have upTo : ∀ t, g.Scanned t ((List.range t).foldl g.scanRow ⟨Array.replicate g.size none, 0⟩) := by
    intro t
    induction t with
    | zero => exact scanned_start g
    | succ t ih =>
      rw [List.range_succ, List.foldl_append, List.foldl_cons, List.foldl_nil]
      exact ih.step graph
  exact upTo g.size

/-! ### The labels -/

theorem getElem?_labels (g : Graph) (i : Nat) : g.labels[i]? = g.scan.marks[i]?.map labelOf := by
  rw [labels, List.getElem?_map, Array.getElem?_toList]

/-- A covered row has the number of the first cluster that covers it. -/
theorem label_of_covers (graph : g.Undirected) (inside : i < g.size) (first : g.First s) (covers : g.Covers s i) :
    ∃ s' ≤ s, g.First s' ∧ g.Covers s' i ∧ (∀ r < s', g.First r → ¬ g.Covers r i) ∧
      g.labels[i]? = some (g.number s' : Label) := by
  have scanned := scanned_scan graph
  have started : s < g.size := graph.inside s first.1
  have inside' : i < g.scan.marks.size := by rwa [size_scan]
  rw [getElem?_labels, Array.getElem?_eq_getElem inside']
  cases mark : g.scan.marks[i] with
  | none =>
    have free : g.scan.marks.unreached i = true := by
      rw [Marks.unreached_iff, Array.getElem?_eq_getElem inside', mark]
    exact absurd covers (scanned.unmarked i free s started first)
  | some l =>
    obtain ⟨s', -, first', named, covers', least⟩ :=
      scanned.marked i l (by rw [Array.getElem?_eq_getElem inside', mark])
    have le : s' ≤ s := Nat.le_of_not_lt fun before => least s before first covers
    exact ⟨s', le, first', covers', least, by rw [named]; rfl⟩

/-- A row that no cluster covers is noise. -/
theorem label_of_not_covers (graph : g.Undirected) (inside : i < g.size) (h : ∀ s, g.First s → ¬ g.Covers s i) :
    g.labels[i]? = some noise := by
  have scanned := scanned_scan graph
  have inside' : i < g.scan.marks.size := by rwa [size_scan]
  rw [getElem?_labels, Array.getElem?_eq_getElem inside']
  cases mark : g.scan.marks[i] with
  | none => rfl
  | some l =>
    obtain ⟨s, -, first, -, covers, -⟩ := scanned.marked i l (by rw [Array.getElem?_eq_getElem inside', mark])
    exact absurd covers (h s first)

/-- A core row has the number of the cluster that it is linked to. -/
theorem label_of_linked (graph : g.Undirected) (core : g.IsCore i) (first : g.First s)
    (link : Linked g.Adjacent g.IsCore s i) : g.labels[i]? = some (g.number s : Label) := by
  obtain ⟨s', -, first', covers, -, found⟩ :=
    label_of_covers graph (graph.inside i core) first (Covers.of_linked link)
  have same : s' = s := first'.eq graph.symm first ((covers.linked core).trans (link.symm graph.symm))
  rw [found, same]

/-- The labelling of an undirected graph is the reference clustering. -/
theorem isReference (graph : g.Undirected) :
    IsReference g.Adjacent g.IsCore g.size g.labels g.clusterCount where
  length := g.length_labels
  joined i j core core' := by
    obtain ⟨s, -, first, link⟩ := exists_leads core
    obtain ⟨s', -, first', link'⟩ := exists_leads core'
    rw [label_of_linked graph core first link, label_of_linked graph core' first' link', Option.some.injEq,
      Int.ofNat_inj]
    constructor
    · intro same
      obtain rfl := ordinal_inj first first' same
      exact (link.symm graph.symm).trans link'
    · intro joined
      rw [first.eq graph.symm first' (link.trans (joined.trans (link'.symm graph.symm)))]
  numbered i first := label_of_linked graph first.1 first .refl
  counted := (scanned_scan graph).next
  border i inside other := by
    rintro ⟨j, core, near⟩
    obtain ⟨s, -, first, link⟩ := exists_leads core
    have covers : g.Covers s i := .inr ⟨j, core, link, graph.symm i j near⟩
    obtain ⟨s', -, first', covers', least, found⟩ := label_of_covers graph inside first covers
    refine ⟨_, found, ?_, ?_⟩
    · rcases covers' with rfl | ⟨k, core', link', near'⟩
      · exact absurd first'.1 other
      · exact ⟨k, core', graph.symm k i near', label_of_linked graph core' first' link'⟩
    · rintro l ⟨k, core', near', label⟩
      obtain ⟨r, -, first'', link'⟩ := exists_leads core'
      rw [label_of_linked graph core' first'' link', Option.some.injEq] at label
      have after : s' ≤ r := Nat.le_of_not_lt fun before =>
        least r before first'' (.inr ⟨k, core', link', graph.symm i k near'⟩)
      rw [← label]
      exact Int.ofNat_le.2 (ordinal_mono after)
  noise i inside other alone := by
    apply label_of_not_covers graph inside
    rintro s first (rfl | ⟨j, core, -, near⟩)
    · exact other first.1
    · exact alone j core (graph.symm j i near)

end DensityAudit.Density.Graph
