import DensityAudit.Proofs.Compare.Equivalence

/-!
# Labellings that are equal

The rows at which two labellings differ are listed completely and in order (`mem_differencesFrom_iff`,
`ascending_differencesFrom`), so a comparison of two tables of labels has exactly one of the outcomes of `LabelsOutcome`
(`compareLabelTables_eq_iff`). Equal labellings are equal partitions whose clusters keep their names, and conversely if
their noise has the same labels too (`exists_compareLabels_iff`).
-/

namespace DensityAudit

variable {a b : List Label} {d : RowDifference}

/-! ### Differences -/

/-- A row with a different label in each of two labellings. -/
structure RowDifference.Between (d : RowDifference) (a b : List Label) : Prop where
  computed : a[d.index]? = some d.computed
  reference : b[d.index]? = some d.reference
  differ : d.computed ≠ d.reference

theorem RowDifference.between_zero {c r x y : Label} :
    (RowDifference.mk 0 x y).Between (c :: a) (r :: b) ↔ x = c ∧ y = r ∧ c ≠ r := by
  constructor
  · rintro ⟨computed, reference, differ⟩
    cases computed
    cases reference
    exact ⟨rfl, rfl, differ⟩
  · rintro ⟨rfl, rfl, differ⟩
    exact ⟨rfl, rfl, differ⟩

theorem RowDifference.between_succ {c r x y : Label} {i : Nat} :
    (RowDifference.mk (i + 1) x y).Between (c :: a) (r :: b) ↔ (RowDifference.mk i x y).Between a b :=
  ⟨fun ⟨computed, reference, differ⟩ => ⟨computed, reference, differ⟩,
    fun ⟨computed, reference, differ⟩ => ⟨computed, reference, differ⟩⟩

/-- Exactly the rows where the labellings differ are listed, the first row being counted as `n`. -/
theorem mem_differencesFrom_iff {n : Nat} : d ∈ differencesFrom n a b ↔
    ∃ i, d.index = n + i ∧ (RowDifference.mk i d.computed d.reference).Between a b := by
  induction a generalizing n b with
  | nil => exact iff_of_false List.not_mem_nil fun ⟨i, _, between⟩ => nomatch between.computed
  | cons c a ih =>
    cases b with
    | nil => exact iff_of_false List.not_mem_nil fun ⟨i, _, between⟩ => nomatch between.reference
    | cons r b =>
      -- row 0 of the lists is counted as `n`, and row `i + 1` is row `i` of the tails, counted from `n + 1`
      have later : d ∈ differencesFrom (n + 1) a b ↔
          ∃ i, d.index = n + (i + 1) ∧ (RowDifference.mk (i + 1) d.computed d.reference).Between (c :: a) (r :: b) := by
        simp only [ih, RowDifference.between_succ, Nat.add_assoc, Nat.add_comm 1]
      have first : (d.index = n + 0 ∧ (RowDifference.mk 0 d.computed d.reference).Between (c :: a) (r :: b)) ↔
          d = ⟨n, c, r⟩ ∧ c ≠ r := by
        obtain ⟨i, x, y⟩ := d
        rw [RowDifference.between_zero, RowDifference.mk.injEq, Nat.add_zero, and_assoc, and_assoc]
      rw [← Nat.or_exists_add_one, first, ← later, differencesFrom]
      split
      case isTrue same => rw [or_iff_right fun other => other.2 same]
      case isFalse other => rw [List.mem_cons, and_iff_left other]

/-- The differences are listed in the order of the rows. -/
theorem ascending_differencesFrom (n : Nat) (a b : List Label) :
    (differencesFrom n a b).Pairwise fun d e => d.index < e.index := by
  induction a generalizing n b with
  | nil => exact .nil
  | cons c a ih =>
    cases b with
    | nil => exact .nil
    | cons r b =>
      rw [differencesFrom]
      split
      · exact ih ..
      · refine List.pairwise_cons.2 ⟨fun e member => ?_, ih ..⟩
        obtain ⟨i, place, -⟩ := mem_differencesFrom_iff.1 member
        rw [place]
        show n < n + 1 + i
        omega

/-- A difference is listed iff there is one between the labellings at its row. -/
theorem mem_differences_iff : d ∈ differencesFrom 0 a b ↔ d.Between a b := by
  rw [mem_differencesFrom_iff]
  simp only [Nat.zero_add, exists_eq_left']

/-- Lists of rows in ascending order with the same members are equal. -/
theorem eq_of_mem_differences {ds es : List RowDifference} (ascending : ds.Pairwise fun d e => d.index < e.index)
    (ascending' : es.Pairwise fun d e => d.index < e.index) (same : ∀ d, d ∈ ds ↔ d ∈ es) : ds = es := by
  have antisymm : Std.Antisymm fun d e : RowDifference => d.index < e.index :=
    ⟨fun d e below above => absurd (Nat.lt_trans below above) (Nat.lt_irrefl d.index)⟩
  have irrefl : Std.Irrefl fun d e : RowDifference => d.index < e.index := ⟨fun d => Nat.lt_irrefl d.index⟩
  exact ascending.eq_of_mem_iff ascending' same

/-! ### Comparisons of lists -/

theorem eq_iff_forall_zip : a = b ↔ a.length = b.length ∧ ∀ p ∈ a.zip b, p.1 = p.2 := by
  rw [← List.forall₂_eq_eq_eq, List.forall₂_iff_zip]
  exact and_congr_right fun _ => ⟨fun h p => h, fun h _ _ inside => h _ inside⟩

/-- Labellings of one length without a difference are equal. -/
theorem differencesFrom_eq_nil_iff (lengths : a.length = b.length) : differencesFrom 0 a b = [] ↔ a = b := by
  rw [List.eq_nil_iff_forall_not_mem]
  constructor
  · intro none
    refine List.ext_getElem lengths fun i inside inside' => ?_
    by_contra differ
    refine none ⟨i, a[i], b[i]⟩ (mem_differences_iff.2 ⟨?_, ?_, differ⟩)
    · exact List.getElem?_eq_getElem inside
    · exact List.getElem?_eq_getElem inside'
  · rintro rfl d member
    obtain ⟨computed, reference, differ⟩ := mem_differences_iff.1 member
    exact differ (Option.some.inj (computed.symm.trans reference))

/-- Labellings of one length pass iff they are equal, and else every difference is listed. -/
theorem compareLabels_of_lengths (lengths : a.length = b.length) : compareLabels a b =
    if a = b then .ok ⟨a.length⟩ else .error (.mismatch (.rows a.length (differencesFrom 0 a b))) := by
  rw [compareLabels, if_neg (not_not_intro lengths)]
  have same := differencesFrom_eq_nil_iff lengths
  cases differences : differencesFrom 0 a b with
  | nil => rw [if_pos (same.1 differences)]
  | cons d rest => rw [if_neg fun equal => nomatch (same.2 equal).symm.trans differences]

theorem compareLabels_self (labels : List Label) : compareLabels labels labels = .ok ⟨labels.length⟩ := by
  rw [compareLabels_of_lengths rfl, if_pos rfl]

/-- The comparison passes for equal labellings only. -/
theorem compareLabels_eq_ok_iff {e : EqualLabels} : compareLabels a b = .ok e ↔ a = b ∧ e = ⟨a.length⟩ := by
  constructor
  · intro passed
    by_cases lengths : a.length = b.length
    · rw [compareLabels_of_lengths lengths] at passed
      split at passed
      case isTrue same => exact ⟨same, (Except.ok.inj passed).symm⟩
      case isFalse => cases passed
    · rw [compareLabels, if_pos lengths] at passed
      cases passed
  · rintro ⟨rfl, rfl⟩
    exact compareLabels_self a

/-- Labellings are equal iff they are equal partitions whose clusters keep their names, and their noise has the same
labels. -/
theorem exists_compareLabels_iff : (∃ e, compareLabels a b = .ok e) ↔
    (∃ e, comparePartitions a b = .ok e ∧ ∀ p ∈ e.pairs, p.1 = p.2) ∧ ∀ p ∈ a.zip b, p.1 < 0 → p.2 < 0 → p.1 = p.2 := by
  constructor
  · rintro ⟨e, passed⟩
    obtain ⟨rfl, -⟩ := compareLabels_eq_ok_iff.1 passed
    refine ⟨⟨_, comparePartitions_self a, fun p member => (Renaming.mem_identity.1 member).1⟩, fun p inside _ _ => ?_⟩
    exact (eq_iff_forall_zip.1 rfl).2 p inside
  · rintro ⟨⟨e, passed, kept⟩, noise⟩
    obtain ⟨lengths, -, grown⟩ := comparePartitions_eq_ok_iff.1 passed
    -- two labels of one row are both noise or both clusters; for clusters the pair belongs to the renaming
    refine ⟨_, compareLabels_eq_ok_iff.2 ⟨eq_iff_forall_zip.2 ⟨lengths, fun p inside => ?_⟩, rfl⟩⟩
    have agree := grown.same.noise p inside
    by_cases negative : p.1 < 0
    · exact noise p inside negative (agree.1 negative)
    · have cluster' := Int.not_lt.1 fun negative' => negative (agree.2 negative')
      exact kept p ((grown.mem_iff p.1 p.2).2 ⟨inside, Int.not_lt.1 negative, cluster'⟩)

/-! ### Comparisons of tables -/

/-- The labels of a table of one column are its values. -/
theorem readLabels_of_single (what : String) {t : Table Label} (single : t.columnCount = 1) :
    readLabels what t = .ok t.values := by
  rw [readLabels, if_neg (not_not_intro single), Table.pullRows_all]
  rfl

/-- What a comparison of two tables of labels comes to: the reasons for failure in the order in which they are looked for,
and what is reported. -/
inductive LabelsOutcome (computed reference : Table Label) : Except Failure EqualLabels → Prop where
  | computedColumns (other : computed.columnCount ≠ 1) :
      LabelsOutcome computed reference (.error (.shape "computed label columns" 1 computed.columnCount))
  | referenceColumns (single : computed.columnCount = 1) (other : reference.columnCount ≠ 1) :
      LabelsOutcome computed reference (.error (.shape "reference label columns" 1 reference.columnCount))
  | rows (single : computed.columnCount = 1) (single' : reference.columnCount = 1)
      (other : computed.rowCount ≠ reference.rowCount) :
      LabelsOutcome computed reference (.error (.shape "label rows" reference.rowCount computed.rowCount))
  | equal (single : computed.columnCount = 1) (single' : reference.columnCount = 1)
      (rows : computed.rowCount = reference.rowCount) (same : ∀ i, computed.get? i 0 = reference.get? i 0) :
      LabelsOutcome computed reference (.ok ⟨computed.rowCount⟩)
  /-- All rows with different labels are listed in ascending order. -/
  | differ (single : computed.columnCount = 1) (single' : reference.columnCount = 1)
      (rows : computed.rowCount = reference.rowCount) {i : Nat} (other : computed.get? i 0 ≠ reference.get? i 0)
      {differences : List RowDifference} (ascending : differences.Pairwise fun d e => d.index < e.index)
      (complete : ∀ d, d ∈ differences ↔ computed.get? d.index 0 = some d.computed ∧
        reference.get? d.index 0 = some d.reference ∧ d.computed ≠ d.reference) :
      LabelsOutcome computed reference (.error (.mismatch (.rows computed.rowCount differences)))

section

variable {computed reference : Table Label} (single : computed.columnCount = 1) (single' : reference.columnCount = 1)
include single single'

/-- Tables of one column compare as their labels do. -/
theorem compareLabelTables_of_single :
    compareLabelTables computed reference = compareLabels computed.values reference.values := by
  rw [compareLabelTables, readLabels_of_single _ single]
  show (readLabels "reference label columns" reference).bind _ = _
  rw [readLabels_of_single _ single']
  rfl

/-- Tables of one column that are read alike hold the same labels. -/
theorem forall_get?_eq_iff : (∀ i, computed.get? i 0 = reference.get? i 0) ↔ computed.values = reference.values := by
  simp only [Table.get?_of_single single, Table.get?_of_single single']
  exact ⟨List.ext_getElem?, fun same i => by rw [same]⟩

theorem mem_differences_iff_get? : d ∈ differencesFrom 0 computed.values reference.values ↔
    computed.get? d.index 0 = some d.computed ∧ reference.get? d.index 0 = some d.reference ∧ d.computed ≠ d.reference := by
  rw [mem_differences_iff, Table.get?_of_single single, Table.get?_of_single single']
  exact ⟨fun ⟨computed, reference, differ⟩ => ⟨computed, reference, differ⟩,
    fun ⟨computed, reference, differ⟩ => ⟨computed, reference, differ⟩⟩

end

variable {computed reference : Table Label} {result : Except Failure EqualLabels}

/-- The comparison has every outcome that applies. -/
theorem LabelsOutcome.sound (h : LabelsOutcome computed reference result) :
    compareLabelTables computed reference = result := by
  cases h with
  | computedColumns other =>
    rw [compareLabelTables, readLabels, if_pos other]
    rfl
  | referenceColumns single other =>
    rw [compareLabelTables, readLabels_of_single _ single]
    show (readLabels "reference label columns" reference).bind _ = _
    rw [readLabels, if_pos other]
    rfl
  | rows single single' other =>
    rw [← Table.length_values_of_single single, ← Table.length_values_of_single single'] at *
    rw [compareLabelTables_of_single single single', compareLabels, if_pos other]
    rfl
  | equal single single' rows same =>
    rw [compareLabelTables_of_single single single', (forall_get?_eq_iff single single').1 same, compareLabels_self, rows,
      Table.length_values_of_single single']
  | differ single single' rows other ascending complete =>
    rw [← Table.length_values_of_single single, ← Table.length_values_of_single single'] at rows
    have unequal : computed.values ≠ reference.values := fun same => other ((forall_get?_eq_iff single single').2 same _)
    rw [compareLabelTables_of_single single single', compareLabels_of_lengths rows, if_neg unequal,
      Table.length_values_of_single single]
    rw [eq_of_mem_differences (ascending_differencesFrom ..) ascending fun d =>
      (mem_differences_iff_get? single single').trans (complete d).symm]

/-- One of the outcomes applies. -/
theorem exists_labelsOutcome (computed reference : Table Label) : ∃ result, LabelsOutcome computed reference result := by
  by_cases single : computed.columnCount = 1
  case neg => exact ⟨_, .computedColumns single⟩
  by_cases single' : reference.columnCount = 1
  case neg => exact ⟨_, .referenceColumns single single'⟩
  by_cases rows : computed.rowCount = reference.rowCount
  case neg => exact ⟨_, .rows single single' rows⟩
  by_cases same : ∀ i, computed.get? i 0 = reference.get? i 0
  case pos => exact ⟨_, .equal single single' rows same⟩
  obtain ⟨i, other⟩ := not_forall.1 same
  exact ⟨_, .differ single single' rows other (ascending_differencesFrom ..) fun d => mem_differences_iff_get? single single'⟩

/-- The comparison of two tables of labels has the outcome that applies to them, and no other. -/
theorem compareLabelTables_eq_iff : compareLabelTables computed reference = result ↔ LabelsOutcome computed reference result := by
  constructor
  · rintro rfl
    obtain ⟨result, outcome⟩ := exists_labelsOutcome computed reference
    rwa [outcome.sound]
  · exact LabelsOutcome.sound

end DensityAudit
