import DensityAudit.Proofs.Audit.Gate
import DensityAudit.Proofs.Audit.Passing
import DensityAudit.Proofs.Compare.Labels

/-!
# Audits of labels and of partitions

An audit of labels reports every row that differs, and an audit of the partition against the same labels asks for less.
So a deterministic engine that passes the first passes the second, and its clusters keep their names
(`checkPartition_of_checkLabels`). With what the comparisons themselves find, this is `labels_compared_exactly`.
-/

namespace DensityAudit

/-- The reply to a job does not depend on what happened before. -/
def Engine.Deterministic {σ : Type} (engine : Engine σ) : Prop := ∀ job s s', (engine job s).1 = (engine job s').1

theorem Engine.deterministic_ofFunction {σ : Type} (answer : Job → Except EngineError Answer) :
    (Engine.ofFunction answer : Engine σ).Deterministic := fun _ _ _ => rfl

/-- What a deterministic engine has answered once it answers from every state. -/
theorem Engine.Deterministic.answers {σ : Type} {engine : Engine σ} (deterministic : engine.Deterministic) {job : Job}
    {answer : Answer} {s s' : σ} (answered : engine job s = (.ok answer, s')) (s₁ : σ) :
    ∃ s₂, engine job s₁ = (.ok answer, s₂) := by
  refine ⟨(engine job s₁).2, Prod.ext ?_ rfl⟩
  rw [deterministic job s₁ s, answered]

namespace Auditor

variable {σ : Type} {a : Auditor σ} {t : Trial} {reference : Table Label} {s s' : σ}

/-- An audit of labels passes iff the labels can be read and are the expected ones. -/
theorem checkLabels_passes_iff {v : Verdict EqualLabels} : (a.checkLabels t reference).Passes s v s' ↔
    ∃ answer labels, a.engine (t.job (.only .labels)) s = (.ok answer, s') ∧ answer.labels = .ok labels ∧
      compareLabelTables labels reference = .ok v.outcome ∧ v.context = t.context := by
  refine (passes_judge_iff fun answer => do compareLabelTables (← requestedLabels answer) reference).trans ?_
  constructor
  · rintro ⟨answer, outcome, answered, judged, rfl⟩
    cases read : answer.labels with
    | error e =>
      rw [requestedLabels, read] at judged
      cases judged
    | ok labels =>
      rw [requestedLabels, read] at judged
      exact ⟨answer, labels, answered, read, judged, rfl⟩
  · rintro ⟨answer, labels, answered, read, judged, placed⟩
    refine ⟨answer, v.outcome, answered, ?_, by rw [← placed]⟩
    rw [requestedLabels, read]
    exact judged

/-- The answer's labels, if they stand in one column, are compared as a partition. -/
theorem checkPartition_passes_of_read {answer : Answer} {labels : Table Label} {known : List Label} {e : EqualPartitions}
    (answered : a.engine (t.job (.only .labels)) s = (.ok answer, s')) (read : answer.labels = .ok labels)
    (single : labels.columnCount = 1) (equal : comparePartitions labels.values known = .ok e) :
    (a.checkPartition t known).Passes s ⟨t.context, e⟩ s' :=
  (passes_judge_iff _).2 ⟨answer, e, answered, (judged_of_read (comparePartitions · known) read single).trans equal, rfl⟩

/-- An engine that gives a trial the expected labels, and replies to equal jobs equally, has the expected partition with the
clusters under their own names. -/
theorem checkPartition_of_checkLabels (deterministic : a.engine.Deterministic) {v : Verdict EqualLabels}
    (passed : (a.checkLabels t reference).Passes s v s') (s₁ : σ) : ∃ s₂,
      (a.checkPartition t reference.values).Passes s₁ ⟨t.context, v.outcome.rows, .identity reference.values⟩ s₂ := by
  obtain ⟨answer, labels, answered, read, compared, -⟩ := checkLabels_passes_iff.1 passed
  obtain ⟨s₂, again⟩ := deterministic.answers answered s₁
  obtain ⟨rows, outcome⟩ : ∃ rows, v.outcome = ⟨rows⟩ := ⟨_, rfl⟩
  rw [outcome] at compared ⊢
  cases compareLabelTables_eq_iff.1 compared with
  | equal single single' rows same =>
    have values := (forall_get?_eq_iff single single').1 same
    refine ⟨s₂, checkPartition_passes_of_read again read single ?_⟩
    rw [values, comparePartitions_self, rows, Table.length_values_of_single single']

end Auditor

/-- Labels are compared exactly. A comparison of two tables of labels has the one outcome of `LabelsOutcome` that applies: the
wrong extents, equal labels, or all rows that differ. Labellings are found equal iff they are equal partitions whose
clusters keep their names and their noise has the same labels. So a deterministic engine that passes the audit of its
labels passes that of its partition, with the clusters under their own names. -/
theorem labels_compared_exactly :
    (∀ computed reference result, compareLabelTables computed reference = result ↔
      LabelsOutcome computed reference result) ∧
    (∀ a b, (∃ e, compareLabels a b = .ok e) ↔
      (∃ e, comparePartitions a b = .ok e ∧ ∀ p ∈ e.pairs, p.1 = p.2) ∧
        ∀ p ∈ a.zip b, p.1 < 0 → p.2 < 0 → p.1 = p.2) ∧
    (∀ (σ : Type) (a : Auditor σ) (t : Trial) (reference : Table Label) (s s' s₁ : σ) (v : Verdict EqualLabels),
      a.engine.Deterministic → (a.checkLabels t reference).Passes s v s' →
        ∃ s₂, (a.checkPartition t reference.values).Passes s₁ ⟨t.context, v.outcome.rows, .identity reference.values⟩ s₂) :=
  ⟨fun _ _ _ => compareLabelTables_eq_iff, fun _ _ => exists_compareLabels_iff,
    fun _ _ _ _ _ _ s₁ _ deterministic passed => Auditor.checkPartition_of_checkLabels deterministic passed s₁⟩

theorem labels_compared_exactly_sparse :
    let auditor := reporting 1 [7, -1, 7]
    auditor.engine.Deterministic ∧
      (auditor.checkLabels pairTrial (Table.column [7, -1, 7])).Passes () ⟨pairTrial.context, ⟨3⟩⟩ () ∧
      (auditor.checkPartition pairTrial [7, -1, 7]).Passes () ⟨pairTrial.context, 3, [(7, 7)]⟩ () := by
  intro auditor
  have deterministic : auditor.engine.Deterministic := Engine.deterministic_ofFunction _
  have passed : (auditor.checkLabels pairTrial (Table.column [7, -1, 7])).Passes () ⟨pairTrial.context, ⟨3⟩⟩ () := rfl
  obtain ⟨s₂, passed'⟩ := labels_compared_exactly.2.2 Unit auditor pairTrial (Table.column [7, -1, 7]) () () () _
    deterministic passed
  exact ⟨deterministic, passed, passed'⟩

end DensityAudit
