import DensityAudit.Density.Walk
import DensityAudit.Proofs.Density.Reach
import DensityAudit.Table.Lemmas
import Mathlib.Data.List.Chain
import Mathlib.Data.List.Induction
import Mathlib.Logic.Relation

/-!
# The loop that grows a cluster

For any table, radius and core flags, and from any labels, the loop ends, finds everything it accesses, and labels exactly
what the seed is linked to (`expansion_exact`). Each pass labels a row or shortens the stack (`Pass.decreases`), so no
sequence of passes goes on for ever. What holds between two passes is `Proceeding`: that of `Graph.Visiting`, which says
which rows have labels and which wait, and that every row whose neighbours have been asked for has a label, which is why
none is asked twice.
-/

namespace DensityAudit.Density.Guarded

/-! ### Checked passes over lists -/

section

variable {α β : Type} {items : List α}

theorem mapM_eq_some_map {f : α → Option β} {g : α → β} (h : ∀ x ∈ items, f x = some (g x)) :
    items.mapM f = some (items.map g) := by
  induction items with
  | nil => rfl
  | cons x rest ih =>
    have later := ih fun y member => h y (.tail _ member)
    simp [List.mapM_cons, h x (List.mem_cons_self ..), later]

theorem filterM_eq_some_filter {f : α → Option Bool} {p : α → Bool} (h : ∀ x ∈ items, f x = some (p x)) :
    items.filterM f = some (items.filter p) := by
  have kept : ∀ before, List.filterAuxM f items before = some ((items.filter p).reverse ++ before) := by
    induction items with
    | nil => exact fun _ => rfl
    | cons x rest ih =>
      intro before
      have first := h x (List.mem_cons_self ..)
      have later := ih fun y member => h y (.tail _ member)
      cases test : p x <;> simp [List.filterAuxM, first, later, test]
  simp [List.filterM, kept]

end

variable {data : Table Float} {reach : Float} {cores : List Bool} {label : Label} {g : Graph} {old marks : Marks}
  {seed i : Nat} {w w' : Walk}

/-! ### Accesses that succeed -/

/-- In a table with these core flags the checked accesses find what the graph says. -/
structure Shows (data : Table Float) (reach : Float) (cores : List Bool) (g : Graph) : Prop where
  near : ∀ i < data.rowCount, near? data reach i = some (g.near i)
  inside : ∀ i, ∀ j ∈ g.near i, j < data.rowCount
  core : ∀ i < data.rowCount, cores[i]? = some (g.core i)

/-- The graph of a table with given core flags. -/
def tableGraph (data : Table Float) (reach : Float) (cores : List Bool) : Graph where
  size := data.rowCount
  near i := (near? data reach i).getD []
  core i := cores.getD i false

theorem near_tableGraph (i : Nat) : (tableGraph data reach cores).near i = (near? data reach i).getD [] := rfl

theorem core_tableGraph (i : Nat) : (tableGraph data reach cores).core i = cores.getD i false := rfl

theorem lt_of_mem_near? {found : List Nat} {j : Nat} (asked : near? data reach i = some found) (member : j ∈ found) :
    j < data.rowCount := by
  obtain ⟨point, -, rfl⟩ := Option.map_eq_some_iff.1 asked
  obtain ⟨⟨row, k⟩, place, rfl⟩ := List.mem_map.1 member
  have read := List.mem_zipIdx_iff_getElem?.1 (List.mem_filter.1 place).1
  rw [← data.length_rows]
  exact (List.getElem?_eq_some_iff.1 read).1

theorem exists_near? (reach : Float) (inside : i < data.rowCount) : ∃ found, near? data reach i = some found := by
  have row : i < data.rows.length := by rwa [data.length_rows]
  rw [near?, Table.row?_eq_getElem? inside, List.getElem?_eq_getElem row]
  exact ⟨_, rfl⟩

/-- The checked accesses find what the graph of the table says. -/
theorem shows_tableGraph (reach : Float) (flags : cores.length = data.rowCount) :
    Shows data reach cores (tableGraph data reach cores) where
  near i inside := by
    obtain ⟨found, asked⟩ := exists_near? reach inside
    rw [near_tableGraph, asked, Option.getD_some]
  inside i j member := by
    rw [near_tableGraph] at member
    cases asked : near? data reach i with
    | none =>
      rw [asked] at member
      cases member
    | some found =>
      rw [asked] at member
      exact lt_of_mem_near? asked member
  core i inside := by
    rw [← flags] at inside
    rw [core_tableGraph, List.getD_eq_getElem?_getD, List.getElem?_eq_getElem inside, Option.getD_some]

namespace Shows

variable (shows : Shows data reach cores g)
include shows

theorem lt_of_mem_onward {j : Nat} (member : j ∈ g.onward marks i) : j < data.rowCount := by
  rw [Graph.onward] at member
  split at member
  · exact shows.inside i j (List.mem_filter.1 member).1
  · cases member

theorem onward?_eq (size : marks.size = data.rowCount) (inside : i < data.rowCount) :
    onward? data reach cores marks i = some (g.onward marks i) := by
  have free : ∀ j ∈ g.near i, (marks[j]?).map Option.isNone = some (marks.unreached j) := by
    intro j member
    have within : j < marks.size := by rw [size]; exact shows.inside i j member
    rw [Marks.unreached, Array.getElem?_eq_getElem within]
    cases marks[j] <;> rfl
  simp only [onward?, shows.core i inside, Option.bind_eq_bind, Option.bind_some, Graph.onward]
  split
  case isTrue => rw [shows.near i inside, Option.bind_some, filterM_eq_some_filter free]
  case isFalse => rfl

end Shows

/-! ### The loop ends -/

/-- A pass labels a row, or it shortens the stack and labels none. -/
theorem Pass.decreases (pass : Pass data reach cores label w w') :
    Prod.Lex (· < ·) (· < ·) (w'.marks.unreachedCount, w'.stack.length) (w.marks.unreachedCount, w.stack.length) := by
  cases pass with
  | drop reached => exact .right _ (Nat.lt_succ_self _)
  | take free pushed => exact .left _ _ (Marks.unreachedCount_set_lt (Marks.unreached_iff.2 free) label)

/-- There is no endless sequence of passes. -/
theorem wellFounded_pass (data : Table Float) (reach : Float) (cores : List Bool) (label : Label) :
    WellFounded fun later earlier => Pass data reach cores label earlier later :=
  Subrelation.wf Pass.decreases
    (InvImage.wf (fun w : Walk => (w.marks.unreachedCount, w.stack.length)) (Prod.lex Nat.lt_wfRel Nat.lt_wfRel).wf)

/-- The loop goes on as after the pass. -/
theorem Pass.visit?_eq (pass : Pass data reach cores label w w') :
    visit? data reach cores label w.stack w.marks = visit? data reach cores label w'.stack w'.marks := by
  cases pass with
  | drop reached =>
    rw [visit?]
    split
    case h_1 absent => rw [reached] at absent; cases absent
    case h_2 => rfl
    case h_3 free => rw [reached] at free; cases free
  | take free pushed =>
    rw [visit?]
    split
    case h_1 absent => rw [free] at absent; cases absent
    case h_2 l reached => rw [free] at reached; cases reached
    case h_3 => simp only [pushed, Option.bind_some]

/-! ### What holds between two passes -/

/-- The state of a walk that started from the labels `old` by labelling the seed. -/
structure Proceeding (data : Table Float) (g : Graph) (label : Label) (old : Marks) (seed : Nat) (w : Walk) : Prop where
  size : w.marks.size = data.rowCount
  /-- Rows that wait exist. -/
  within : ∀ i ∈ w.stack, i < data.rowCount
  visiting : g.Visiting label old seed w.stack w.marks
  once : w.expanded.Nodup
  /-- Rows whose neighbours have been asked for have a label. -/
  labelled : ∀ i ∈ w.expanded, w.marks.unreached i = false

namespace Proceeding

/-- A walk can start from every row that exists. -/
theorem exists_start (shows : Shows data reach cores g) (size : old.size = data.rowCount) (inside : seed < data.rowCount)
    (label : Label) : ∃ w, start? data reach label seed old = some w ∧ Proceeding data g label old seed w ∧
      expand? data reach cores label seed old = visit? data reach cores label w.stack w.marks := by
  have entry : seed < old.size := by rwa [size]
  refine ⟨⟨(g.near seed).reverse, old.setIfInBounds seed (some label), [seed]⟩, ?_, ⟨?_, ?_, ?_, ?_, ?_⟩, ?_⟩
  · rw [start?, if_pos entry, shows.near seed inside, Option.map_some]
  · rw [Array.size_setIfInBounds, size]
  · exact fun j member => shows.inside seed j (List.mem_reverse.1 member)
  · exact (Graph.Visiting.start g label old seed).of_mem_iff fun _ => List.mem_reverse.symm
  · exact List.nodup_cons.2 ⟨List.not_mem_nil, List.nodup_nil⟩
  · intro i member
    rw [List.mem_singleton.1 member]
    exact Graph.unreached_set_self old seed label
  · rw [expand?, if_pos entry, shows.near seed inside, Option.bind_some]

/-- Every row that waits can be taken off the stack. -/
theorem exists_pass (p : Proceeding data g label old seed w) (shows : Shows data reach cores g) (waiting : w.stack ≠ []) :
    ∃ w', Pass data reach cores label w w' := by
  obtain ⟨stack, marks, expanded⟩ := w
  cases stack with
  | nil => exact absurd rfl waiting
  | cons i rest =>
    have inside := p.within i (List.mem_cons_self ..)
    have entry : i < marks.size := by rw [p.size]; exact inside
    have read : marks[i]? = some marks[i] := Array.getElem?_eq_getElem entry
    cases mark : marks[i] with
    | some l => exact ⟨_, .drop (by rw [read, mark])⟩
    | none =>
      have size : Array.size (marks.setIfInBounds i (some label)) = data.rowCount := by
        rw [Array.size_setIfInBounds]
        exact p.size
      exact ⟨_, .take (by rw [read, mark]) (shows.onward?_eq size inside)⟩

/-- One pass keeps what is known of a walk. -/
theorem pass (p : Proceeding data g label old seed w) (shows : Shows data reach cores g)
    (pass : Pass data reach cores label w w') : Proceeding data g label old seed w' := by
  cases pass with
  | @drop i rest marks expanded l reached =>
    have labelled : marks.unreached i = false := by rw [Marks.unreached, reached]; rfl
    exact ⟨p.size, fun j member => p.within j (.tail _ member), p.visiting.skip labelled, p.once, p.labelled⟩
  | @take i rest next marks expanded free pushed =>
    have inside := p.within i (List.mem_cons_self ..)
    have size : Array.size (marks.setIfInBounds i (some label)) = data.rowCount := by
      rw [Array.size_setIfInBounds]
      exact p.size
    rw [shows.onward?_eq size inside, Option.some.injEq] at pushed
    subst pushed
    have unreached := Marks.unreached_iff.2 free
    refine ⟨size, ?within, ?visiting, ?once, ?labelled⟩
    case within =>
      intro j member
      rcases List.mem_append.1 member with onward | waiting
      · exact shows.lt_of_mem_onward (List.mem_reverse.1 onward)
      · exact p.within j (.tail _ waiting)
    case visiting =>
      apply (p.visiting.take unreached).of_mem_iff
      intro j
      rw [List.mem_append, List.mem_append, List.mem_reverse]
    case once =>
      -- the row has had no label until now, so its neighbours have not been asked for
      have fresh : i ∉ expanded := fun member => Bool.false_ne_true ((p.labelled i member).symm.trans unreached)
      split
      · exact List.nodup_cons.2 ⟨fresh, p.once⟩
      · exact p.once
    case labelled =>
      have kept : ∀ j ∈ expanded, Marks.unreached (marks.setIfInBounds i (some label)) j = false := by
        intro j member
        rw [Bool.eq_false_iff, ne_eq, Marks.unreached_set_iff, p.labelled j member]
        exact fun open' => Bool.false_ne_true open'.1
      intro j member
      split at member
      · rcases List.mem_cons.1 member with rfl | member
        · exact Graph.unreached_set_self marks j label
        · exact kept j member
      · exact kept j member

/-- Any number of passes keeps what is known of a walk. -/
theorem run (p : Proceeding data g label old seed w) (shows : Shows data reach cores g)
    (run : Relation.ReflTransGen (Pass data reach cores label) w w') : Proceeding data g label old seed w' := by
  induction run with
  | refl => exact p
  | tail _ pass ih => exact ih.pass shows pass

/-- Passes lead to an empty stack, and to the labels that the loop has as its result. -/
theorem exists_run (p : Proceeding data g label old seed w) (shows : Shows data reach cores g) :
    ∃ final, Relation.ReflTransGen (Pass data reach cores label) w final ∧ final.stack = [] ∧
      visit? data reach cores label w.stack w.marks = some final.marks := by
  induction w using (wellFounded_pass data reach cores label).induction with
  | _ w ih =>
    by_cases drained : w.stack = []
    · exact ⟨w, .refl, drained, by rw [drained, visit?]⟩
    · obtain ⟨w', pass⟩ := p.exists_pass shows drained
      obtain ⟨final, run, empty, visited⟩ := ih w' pass (p.pass shows pass)
      exact ⟨final, .head pass run, empty, pass.visit?_eq.trans visited⟩

end Proceeding

/-- The checked expansion has the result of the unchecked one. -/
theorem Shows.expand?_eq (shows : Shows data reach cores g) (size : old.size = data.rowCount)
    (inside : seed < data.rowCount) : expand? data reach cores label seed old = some (g.expand label seed old) := by
  obtain ⟨w, -, p, expanded⟩ := Proceeding.exists_start shows size inside label
  obtain ⟨final, run, drained, visited⟩ := p.exists_run shows
  have visiting := (p.run shows run).visiting
  rw [drained] at visiting
  rw [expanded, visited, visiting.unique (Graph.visiting_expand g label old seed)]

/-! ### Paths -/

/-- There is a path from the seed to row `i`: each row is among the neighbours of the one before, and those between the two
are core rows that have no label in `old`. -/
def Linked (data : Table Float) (reach : Float) (cores : List Bool) (old : Marks) (seed i : Nat) : Prop :=
  ∃ between : List Nat, (seed :: (between ++ [i])).IsChain (fun a b => ∃ found, near? data reach a = some found ∧ b ∈ found) ∧
    ∀ k ∈ between, cores[k]? = some true ∧ old[k]? = some none

theorem mem_near_tableGraph_iff {a b : Nat} :
    b ∈ (tableGraph data reach cores).near a ↔ ∃ found, near? data reach a = some found ∧ b ∈ found := by
  rw [near_tableGraph]
  cases near? data reach a <;> simp

theorem core_tableGraph_iff {k : Nat} : (tableGraph data reach cores).core k = true ↔ cores[k]? = some true := by
  rw [core_tableGraph, List.getD_eq_getElem?_getD]
  cases cores[k]? <;> simp

/-- Reaching a row step by step is having a path to it. -/
theorem reaches_iff_linked : (tableGraph data reach cores).Reaches old seed i ↔ Linked data reach cores old seed i := by
  constructor
  · intro reaches
    induction reaches with
    | near member => exact ⟨[], by simpa using mem_near_tableGraph_iff.1 member, by simp⟩
    | @onward i j _ core free member ih =>
      obtain ⟨between, chain, through⟩ := ih
      refine ⟨between ++ [i], ?_, ?_⟩
      · rw [← List.cons_append, List.isChain_append]
        refine ⟨chain, List.isChain_singleton j, fun x last y first => ?_⟩
        simp only [← List.cons_append, List.getLast?_append, List.getLast?_singleton, Option.some_or, Option.mem_some,
          List.head?_cons] at last first
        rw [← last, ← first]
        exact mem_near_tableGraph_iff.1 member
      · intro k member
        rcases List.mem_append.1 member with earlier | last
        · exact through k earlier
        · rw [List.mem_singleton.1 last]
          exact ⟨core_tableGraph_iff.1 core, Marks.unreached_iff.1 free⟩
  · rintro ⟨between, chain, through⟩
    induction between using List.reverseRecOn generalizing i with
    | nil => exact .near (mem_near_tableGraph_iff.2 (by simpa using chain))
    | append_singleton between k ih =>
      rw [← List.cons_append, List.isChain_append] at chain
      obtain ⟨before, -, step⟩ := chain
      have end' : ((seed :: between) ++ [k]).getLast? = some k := by rw [List.getLast?_append, List.getLast?_singleton, Option.some_or]
      have last := step k end' i rfl
      obtain ⟨core, free⟩ := through k (by simp)
      refine .onward (ih before fun l member => through l (by simp [member])) ?_ ?_ (mem_near_tableGraph_iff.2 last)
      · exact core_tableGraph_iff.2 core
      · exact Marks.unreached_iff.2 free

/-! ### What the loop labels -/

/-- The labels are those of `old`, except that the seed and the rows without a label that it is linked to have the label of
the new cluster. -/
structure Grown (data : Table Float) (reach : Float) (cores : List Bool) (label : Label) (seed : Nat) (old marks : Marks) :
    Prop where
  size : marks.size = old.size
  start : marks[seed]? = some (some label)
  linked : ∀ i, i ≠ seed → old[i]? = some none → (marks[i]? = some (some label) ↔ Linked data reach cores old seed i)
  kept : ∀ i, i ≠ seed → ¬ (old[i]? = some none ∧ Linked data reach cores old seed i) → marks[i]? = old[i]?

/-- The expansion labels the rows linked from the seed and no others. -/
theorem grown_expand (label : Label) (size : old.size = data.rowCount) (inside : seed < data.rowCount) :
    Grown data reach cores label seed old ((tableGraph data reach cores).expand label seed old) where
  size := Graph.size_expand ..
  start := Graph.getElem?_expand_seed _ label (by rwa [size])
  linked i other free := by
    rw [← reaches_iff_linked]
    constructor
    · intro labelled
      by_contra unreached
      rw [Graph.getElem?_expand_of_not_reaches _ label other fun _ => unreached, free] at labelled
      cases labelled
    · exact Graph.getElem?_expand_of_reaches _ label other (Marks.unreached_iff.2 free)
  kept i other apart := by
    apply Graph.getElem?_expand_of_not_reaches _ label other
    rw [Marks.unreached_iff, reaches_iff_linked]
    exact fun free linked => apart ⟨free, linked⟩

/-- Growing a cluster, for any rows, radius and core flags, and from any labels of the rows. No sequence of passes goes on
for ever, and as long as rows wait there is a next pass, so that the loop has a result: nothing that does not exist is
accessed. It labels the seed, whatever label that had, and the rows without a label that it is linked to, and leaves all
others as they are. At no time has any row been asked for its neighbours twice. -/
theorem expansion_exact (data : Table Float) (reach : Float) (cores : List Bool) (label : Label) (seed : Nat) (old : Marks)
    (flags : cores.length = data.rowCount) (entries : old.size = data.rowCount) (inside : seed < data.rowCount) :
    WellFounded (fun later earlier => Pass data reach cores label earlier later) ∧
    ∃ start, start? data reach label seed old = some start ∧
      (∀ w, Relation.ReflTransGen (Pass data reach cores label) start w →
        w.expanded.Nodup ∧ (w.stack ≠ [] → ∃ w', Pass data reach cores label w w')) ∧
      ∃ final, Relation.ReflTransGen (Pass data reach cores label) start final ∧ final.stack = [] ∧
        expand? data reach cores label seed old = some final.marks ∧
        Grown data reach cores label seed old final.marks := by
  have shows := shows_tableGraph reach flags
  obtain ⟨start, started, p, expanded⟩ := Proceeding.exists_start shows entries inside label
  obtain ⟨final, run, drained, visited⟩ := p.exists_run shows
  have result : expand? data reach cores label seed old = some final.marks := expanded.trans visited
  have same : (tableGraph data reach cores).expand label seed old = final.marks := by
    rw [shows.expand?_eq entries inside, Option.some.injEq] at result
    exact result
  refine ⟨wellFounded_pass data reach cores label, start, started, fun w sofar => ?_, final, run, drained, result, ?_⟩
  · exact ⟨(p.run shows sofar).once, (p.run shows sofar).exists_pass shows⟩
  · rw [← same]
    exact grown_expand label entries inside

/-- Five rows on a line. The seed is not core, and the core row in the middle belongs to a cluster already. -/
theorem expansion_exact_divided :
    let data : Table Float := Table.column [0.0, 1.0, 2.0, 3.0, 4.0]
    let cores := [false, true, true, true, false]
    let old : Marks := #[none, none, some 7, none, none]
    (cores.length = data.rowCount ∧ old.size = data.rowCount ∧ 0 < data.rowCount) ∧
    WellFounded (fun later earlier => Pass data 1.0 cores 8 earlier later) ∧
    ∃ marks, expand? data 1.0 cores 8 0 old = some marks ∧ Grown data 1.0 cores 8 0 old marks ∧
      marks[0]? = some (some 8) ∧ marks[1]? = some (some 8) ∧ marks[2]? = some (some 7) := by
  intro data cores old
  have flags : cores.length = data.rowCount := by decide
  have entries : old.size = data.rowCount := by decide
  have inside : 0 < data.rowCount := by decide
  obtain ⟨ends, start, -, -, final, -, -, result, grown⟩ := expansion_exact data 1.0 cores 8 0 old flags entries inside
  have linked : Linked data 1.0 cores old 0 1 :=
    ⟨[], List.isChain_pair.2 ⟨[0, 1], by decide +kernel, by decide⟩, by simp⟩
  refine ⟨⟨flags, entries, inside⟩, ends, final.marks, result, grown, grown.start, ?_, ?_⟩
  · exact (grown.linked 1 (by decide) rfl).2 linked
  · exact grown.kept 2 (by decide) fun free => nomatch free.1

end DensityAudit.Density.Guarded
