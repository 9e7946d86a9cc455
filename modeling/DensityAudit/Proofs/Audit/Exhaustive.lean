import DensityAudit.Audit.Checks
import DensityAudit.Proofs.Compare.Labels
import DensityAudit.Proofs.Compare.Tolerance
import DensityAudit.Proofs.Density.Clustering

/-!
# The exhaustive engine passes every audit

An audit that is equal to `pure v` returns the verdict `v` from every state and leaves the state alone. Each
audit is first evaluated for an engine whose answer is known (`Answers`); the labels of the exhaustive engine
are then compared with themselves, its clusters renamed, its outputs queried and its quality held to its own
figure. `Clears` collects the five verdicts.
-/

namespace DensityAudit

/-! ### Audits of one answer -/

namespace Auditor

variable {σ : Type} {auditor : Auditor σ} {t : Trial} {a : Answer} {labels : List Label}

/-- Labels that stand in one column are read off an answer. -/
theorem judged_of_read {α : Type} {answer : Answer} {L : Table Label} (next : List Label → Except Failure α)
    (read : answer.labels = .ok L) (single : L.columnCount = 1) :
    (do next (← readLabels computedColumns (← requestedLabels answer))) = next L.values := by
  rw [requestedLabels, read]
  show (readLabels computedColumns L).bind next = _
  rw [readLabels_of_single _ single]
  rfl

/-- Labels that can be read are scored, and the score is held to the figure. -/
theorem compareQuality_of_read {answer : Answer} {L : Table Label} (reference tolerance : Float)
    (read : answer.labels = .ok L) (single : L.columnCount = 1) :
    compareQuality t answer reference tolerance =
      (quality t.dataset.data L.values).bind fun figure => checkTolerance figure reference tolerance :=
  judged_of_read (fun labels => do checkTolerance (← quality t.dataset.data labels) reference tolerance) read single

/-- The engine answers a request for the given outputs of a trial, from every state, without changing it. -/
def Answers (auditor : Auditor σ) (t : Trial) (outputs : OutputSet) (a : Answer) : Prop :=
  auditor.run t outputs = pure a

/-- An engine passes the audit against the labels that it answers. -/
theorem checkLabels_self (answers : auditor.Answers t (.only .labels) a) (read : a.labels = .ok (Table.column labels)) :
    auditor.checkLabels t (Table.column labels) = pure ⟨t.context, ⟨labels.length⟩⟩ := by
  have passed : (do compareLabelTables (← requestedLabels a) (Table.column labels)) = .ok ⟨labels.length⟩ := by
    rw [requestedLabels, read]
    show compareLabelTables (Table.column labels) (Table.column labels) = _
    rw [compareLabelTables_of_single rfl rfl]
    exact compareLabels_self labels
  rw [checkLabels, answers, pure_bind, passed]
  rfl

/-- An engine passes the audit against its own partition, whatever the clusters are called there. -/
theorem checkPartition_of_renamed {f : Label → Label} {reference : List Label} {k : Nat}
    (answers : auditor.Answers t (.only .labels) a) (read : a.labels = .ok (Table.column labels))
    (renamed : Renamed f labels reference) (maps : Set.MapsTo f {l | 0 ≤ l} {l | 0 ≤ l})
    (injective : Set.InjOn f {l | 0 ≤ l}) (numbers : ∀ l, 0 ≤ l → (l ∈ labels ↔ ∃ i < k, l = (i : Label))) :
    auditor.checkPartition t reference =
      pure ⟨t.context, ⟨labels.length, (List.range k).map fun i : Nat => ((i : Label), f i)⟩⟩ := by
  have passed : (do comparePartitions (← readLabels computedColumns (← requestedLabels a)) reference) =
      .ok ⟨labels.length, (List.range k).map fun i : Nat => ((i : Label), f i)⟩ :=
    (judged_of_read (comparePartitions · reference) read rfl).trans
      (comparePartitions_of_renamed renamed maps injective numbers)
  rw [checkPartition, answers, pure_bind, passed]
  rfl

/-- An answer that shows what was asked for passes the audit of its outputs. -/
theorem checkDisclosure_of_shows {asked : OutputSet} (answers : auditor.Answers t asked a) (shows : a.Shows asked) :
    auditor.checkDisclosure t asked = pure ⟨t.context, .expected asked⟩ := by
  have agree : ∀ o, asked.contains o = a.readable o := disclosure_ok_iff.1 ((shows.disclosed_iff asked).2 rfl)
  rw [checkDisclosure, answers, pure_bind, disclosure_of_agree agree]
  rfl

/-- An answer with fewer than two clusters is passed over. -/
theorem checkQuality_of_few {reference : Float} {tolerance? : Option Float}
    (answers : auditor.Answers t (.only .labels) a) (few : a.clusterCount < 2)
    (valid : isTolerance (tolerance?.getD auditor.settings.tolerance) = true) :
    auditor.checkQuality t reference tolerance? = pure ⟨t.context, .skipped a.clusterCount⟩ := by
  simp only [checkQuality]
  rw [if_pos valid, answers, pure_bind, if_pos few]
  rfl

/-- An engine passes the audit against the index of its own labels. -/
theorem checkQuality_self {figure : Float} {tolerance? : Option Float}
    (answers : auditor.Answers t (.only .labels) a) (read : a.labels = .ok (Table.column labels))
    (many : 2 ≤ a.clusterCount) (scored : quality t.dataset.data labels = .ok figure) (finite : figure.isFinite = true)
    (valid : isTolerance (tolerance?.getD auditor.settings.tolerance) = true) :
    auditor.checkQuality t figure tolerance? =
      pure ⟨t.context, .compared a.clusterCount ⟨figure, figure, 0.0, tolerance?.getD auditor.settings.tolerance⟩⟩ := by
  have passed : compareQuality t a figure (tolerance?.getD auditor.settings.tolerance) =
      .ok ⟨figure, figure, 0.0, tolerance?.getD auditor.settings.tolerance⟩ := by
    rw [compareQuality_of_read figure _ read rfl, show quality t.dataset.data (Table.column labels).values = _ from scored]
    exact checkTolerance_self finite valid
  simp only [checkQuality]
  rw [if_pos valid, answers, pure_bind, if_neg (by omega), passed]
  rfl

/-- No audit finds fault with an engine that gives these labels and this number of clusters to a trial. -/
structure Clears (auditor : Auditor σ) (t : Trial) (labels : List Label) (clusterCount : Nat) : Prop where
  equal : auditor.checkLabels t (Table.column labels) = pure ⟨t.context, ⟨t.dataset.data.rowCount⟩⟩
  /-- The clusters may have any other names, and noise any negative labels. -/
  renamed : ∀ (f : Label → Label) (reference : List Label), Set.MapsTo f {l | 0 ≤ l} {l | 0 ≤ l} →
    Set.InjOn f {l | 0 ≤ l} → Renamed f labels reference →
    auditor.checkPartition t reference = pure ⟨t.context, t.dataset.data.rowCount,
      (List.range clusterCount).map fun i : Nat => ((i : Label), f i)⟩
  disclosed : ∀ asked, auditor.checkDisclosure t asked = pure ⟨t.context, .expected asked⟩
  skipped : clusterCount < 2 → ∀ reference tolerance?,
    isTolerance (tolerance?.getD auditor.settings.tolerance) = true →
    auditor.checkQuality t reference tolerance? = pure ⟨t.context, .skipped clusterCount⟩
  compared : 2 ≤ clusterCount → ∀ figure, quality t.dataset.data labels = .ok figure → figure.isFinite = true →
    ∀ tolerance?, isTolerance (tolerance?.getD auditor.settings.tolerance) = true →
    auditor.checkQuality t figure tolerance? =
      pure ⟨t.context, .compared clusterCount ⟨figure, figure, 0.0, tolerance?.getD auditor.settings.tolerance⟩⟩

end Auditor

/-! ### The exhaustive engine -/

namespace Density

variable {σ : Type} {settings : Settings} {t : Trial} {outputs : OutputSet}

abbrev auditor (σ : Type) (settings : Settings) : Auditor σ := ⟨exhaustive, settings⟩

theorem run_eq : (auditor σ settings).run t outputs = t.placed ((answer (t.job outputs)).mapError .engine) := rfl

theorem answers_of_answer {a : Answer} (answered : answer (t.job outputs) = .ok a) :
    (auditor σ settings).Answers t outputs a := by
  rw [Auditor.Answers, run_eq, answered]
  rfl

theorem answer_of_run {s s' : σ} {a : Answer} (ran : ((auditor σ settings).run t outputs).run.run s = (.ok a, s')) :
    answer (t.job outputs) = .ok a := by
  rw [run_eq] at ran
  cases answered : answer (t.job outputs) with
  | error cause =>
    rw [answered] at ran
    cases ran
  | ok a' =>
    rw [answered] at ran
    cases ran
    rfl

theorem fault?_of_answer {job : Job} {a : Answer} (answered : answer job = .ok a) : fault? job = none := by
  cases faulty : fault? job with
  | some cause => rw [answer, faulty] at answered; cases answered
  | none => rfl

/-- On a job without a fault no audit finds fault with the exhaustive engine. -/
theorem clears_of_sound (sound : fault? (t.job outputs) = none) :
    (auditor σ settings).Clears t (graph (t.job outputs)).labels (graph (t.job outputs)).clusterCount := by
  have reference := isReference_graph (fault?_eq_none_iff.1 sound)
  obtain ⟨rows, all⟩ := answer_asking sound
  obtain ⟨a, answered, holds⟩ := all (.only .labels)
  have answers : (auditor σ settings).Answers t (.only .labels) a := answers_of_answer answered
  have read : a.labels = .ok (Table.column (graph (t.job outputs)).labels) := holds.read .labels
  refine ⟨?equal, ?renamed, ?disclosed, ?skipped, ?compared⟩
  case equal =>
    rw [Auditor.checkLabels_self answers read, reference.length]
    rfl
  case renamed =>
    intro f other maps injective renamed
    rw [Auditor.checkPartition_of_renamed answers read renamed maps injective reference.mem_labels_iff, reference.length]
    rfl
  case disclosed =>
    intro asked
    obtain ⟨a', answered', holds'⟩ := all asked
    exact Auditor.checkDisclosure_of_shows (answers_of_answer answered') holds'.shows
  case skipped =>
    intro few figure tolerance? valid
    rw [← holds.clusterCount] at few ⊢
    exact Auditor.checkQuality_of_few answers few valid
  case compared =>
    intro many figure scored finite tolerance? valid
    rw [← holds.clusterCount] at many ⊢
    exact Auditor.checkQuality_self answers read many scored finite valid

/-- The exhaustive engine is never flagged: if it answers a trial with labels, no audit of the trial finds fault. -/
theorem exhaustive_cleared (settings : Settings) (t : Trial) (outputs : OutputSet) (s s' : σ) (a : Answer)
    (L : Table Label) (ran : ((auditor σ settings).run t outputs).run.run s = (.ok a, s')) (read : a.labels = .ok L) :
    (auditor σ settings).Clears t L.values a.clusterCount := by
  have answered := answer_of_run ran
  have sound := fault?_of_answer answered
  obtain ⟨rows, all⟩ := answer_asking sound
  obtain ⟨a', answered', holds⟩ := all outputs
  obtain rfl : a' = a := Except.ok.inj (answered'.symm.trans answered)
  have labels : L = Table.column (graph (t.job outputs)).labels := by
    have read' : a'.labels = if outputs.contains .labels then .ok (Table.column (graph (t.job outputs)).labels)
        else .error (.notRequested .labels) := holds.read .labels
    rw [read] at read'
    cases asked : outputs.contains .labels with
    | true => rw [asked, if_pos rfl] at read'; exact Except.ok.inj read'
    | false => rw [asked, if_neg Bool.false_ne_true] at read'; cases read'
  rw [labels, holds.clusterCount]
  exact clears_of_sound sound

/-- The job of row three near a core row on either side, as a trial. -/
def borderTrial : Trial := ⟨⟨"border", borderJob.data, none⟩, borderJob.request.epsilon, borderJob.request.minObservations⟩

theorem exhaustive_cleared_borderTrial : ∃ a L,
    ((auditor Unit .standard).run borderTrial (.only .labels)).run.run () = (.ok a, ()) ∧ a.labels = .ok L ∧
      (auditor Unit .standard).Clears borderTrial L.values a.clusterCount := by
  have sound : fault? (borderTrial.job (.only .labels)) = none := by decide +kernel
  obtain ⟨rows, all⟩ := answer_asking sound
  obtain ⟨a, answered, holds⟩ := all (.only .labels)
  have answers : (auditor Unit .standard).Answers borderTrial (.only .labels) a := answers_of_answer answered
  have ran : ((auditor Unit .standard).run borderTrial (.only .labels)).run.run () = (.ok a, ()) := by
    rw [answers]
    rfl
  exact ⟨a, _, ran, holds.read .labels, exhaustive_cleared .standard borderTrial (.only .labels) () () a _ ran
    (holds.read .labels)⟩

end Density

end DensityAudit
