import DensityAudit.Proofs.Audit.Gate
import DensityAudit.Proofs.Density.Consistency

/-!
# The counts of clusters

The clusters of a labelling are counted as different labels, as centers and as pairs of a renaming of the labelling to
itself; the engine counts them while it labels. All of them count the labels that are not negative, each once
(`countedAs`, `clusterCount_of_numbered`). An audit of the engine's quality is gated by the engine's count and scored by
the others, so it never lacks clusters or centers, and what is left to fail with is on a short list
(`UnacceptedQuality`).
-/

namespace DensityAudit

/-! ### Labellings -/

/-- Every count of the clusters of a labelling gives this number. -/
structure CountedAs (points : Table Float) (labels : List Label) (k : Nat) : Prop where
  labelled : clusterCount labels = k
  centered : ∃ c, centroids points labels = .ok c ∧ c.count = k
  /-- The clusters are paired with themselves. -/
  paired : ∃ e, comparePartitions labels labels = .ok e ∧ e.clusterCount = k

variable {points : Table Float} {labels : List Label} {k : Nat}

/-- All counts of a labelling agree. -/
theorem countedAs (fits : labels.length = points.rowCount) : CountedAs points labels (clusterCount labels) := by
  obtain ⟨c, built, centers⟩ := exists_centroids fits
  have count := clusterCount_eq_count centers
  refine ⟨rfl, ⟨c, built, count.symm⟩, ?_⟩
  have same := samePartition_self labels
  rcases comparePartitions_cases (rfl : labels.length = labels.length) with ⟨m, passed, -, relates⟩ | ⟨row, conflict, -, first⟩
  · have self : Counterparts points labels labels m c c := ⟨rfl, same, relates, centers, centers⟩
    refine ⟨_, passed, ?_⟩
    rw [count, Centroids.count, self.labels_eq, List.length_map]
    rfl
  · exact absurd same first.not_same

/-- A labelling whose clusters are numbered without gaps has as many clusters as numbers. -/
theorem clusterCount_of_numbered (numbers : ∀ l, 0 ≤ l → (l ∈ labels ↔ l < k)) : clusterCount labels = k := by
  have nodup : ((List.range k).map fun i : Nat => (i : Label)).Nodup :=
    List.nodup_range.map fun _ _ same => Int.ofNat.inj same
  have same : ((labels.filter fun l => decide (0 ≤ l)).eraseDups).Perm ((List.range k).map fun i : Nat => (i : Label)) := by
    refine (List.perm_ext_iff_of_nodup (nodup_eraseDups _) nodup).2 fun l => ?_
    rw [List.mem_eraseDups, List.mem_filter, decide_eq_true_iff, List.mem_map]
    constructor
    · rintro ⟨member, cluster⟩
      have below := (numbers l cluster).1 member
      obtain ⟨i, rfl⟩ := Int.eq_ofNat_of_zero_le cluster
      exact ⟨i, List.mem_range.2 (Int.ofNat_lt.1 below), rfl⟩
    · rintro ⟨i, below, rfl⟩
      have cluster := Int.natCast_nonneg i
      exact ⟨(numbers i cluster).2 (Int.ofNat_lt.2 (List.mem_range.1 below)), cluster⟩
  rw [clusterCount, same.length_eq, List.length_map, List.length_range]

/-! ### The engine -/

namespace Density

variable {job : Job} {a : Answer} {c : Clustering}

/-- An answer shows the clustering of its job. -/
theorem answer_eq_of_clusteredAs (clustered : ClusteredAs job c) (answered : answer job = .ok a) :
    a = c.answer job.request.outputs := Except.ok.inj (answered.symm.trans (clustered job.request.outputs))

theorem labels_of_clustering {asked : OutputSet} {L : Table Label} (read : (c.answer asked).labels = .ok L) :
    L = Table.column c.labels := by
  have stored : (c.answer asked).labels = if asked.contains .labels then .ok (Table.column c.labels) else .error (.notRequested .labels) :=
    stored_ite ..
  rw [stored] at read
  split at read
  · exact (Except.ok.inj read).symm
  · cases read

/-- The engine reports the number of clusters that it labels. -/
theorem Describes.clusterCount_eq (h : Describes job c) : DensityAudit.clusterCount c.labels = c.clusterCount :=
  clusterCount_of_numbered fun _ => h.mem_labels_iff

/-- The labels that a job is answered with, whether they are shown or not, have as many clusters as the answer says. -/
theorem exists_clustering_of_answer (answered : answer job = .ok a) :
    ∃ c, ClusteredAs job c ∧ (∀ L, a.labels = .ok L → L = Table.column c.labels) ∧
      CountedAs job.data c.labels a.clusterCount := by
  obtain ⟨c, clustered, described⟩ := exists_clustering (fault?_of_answer answered)
  obtain rfl := answer_eq_of_clusteredAs clustered answered
  have counted := countedAs described.reference.length
  rw [described.clusterCount_eq] at counted
  exact ⟨c, clustered, fun L => labels_of_clustering, counted⟩

/-! ### Audits of the engine's quality -/

/-- What an audit of the engine's quality can fail with. -/
inductive UnacceptedQuality (t : Trial) : Failure → Prop where
  | engine {cause : EngineError} (refused : answer (t.job (.only .labels)) = .error cause) :
      UnacceptedQuality t (.engine cause)
  | coincidentCentroids (first second : Label) :
      UnacceptedQuality t (.undefinedQuality (.coincidentCentroids first second))
  | tolerance (check : ToleranceCheck) : UnacceptedQuality t (.mismatch (.tolerance check))

/-- An audit of the engine's quality is passed over iff the engine finds fewer than two clusters, and fails for one of a few
reasons only. -/
structure QualityAudited (t : Trial) (result : Except Failure (Verdict QualityOutcome)) : Prop where
  skipped : (∃ v k, result = .ok v ∧ v.outcome = .skipped k) ↔
    ∃ a, answer (t.job (.only .labels)) = .ok a ∧ a.clusterCount < 2
  failed : ∀ f, result = .error f → UnacceptedQuality t f.root

variable {σ : Type} {settings : Settings} {t : Trial} {labels : List Label} {f : Failure}

theorem UnacceptedQuality.context (h : UnacceptedQuality t f) : f.context? = none := by
  cases h <;> rfl

/-- The quality of labels with two clusters has a value unless centers coincide. -/
theorem failsOnly_quality_of_many {points : Table Float} (fits : labels.length = points.rowCount)
    (many : 2 ≤ DensityAudit.clusterCount labels) : FailsOnly (UnacceptedQuality t) (quality points labels) := by
  obtain ⟨c, built, centers⟩ := exists_centroids fits
  rw [clusterCount_eq_count centers] at many
  rw [quality_of_centers fits built centers, if_neg (Nat.not_lt.2 many)]
  exact failsOnly_index .coincidentCentroids _

/-- Labels that are counted as reported are judged by their index and the figure alone. -/
theorem failsOnly_judgeQuality (read : a.labels = .ok (Table.column labels))
    (fits : labels.length = t.dataset.data.rowCount) (honest : DensityAudit.clusterCount labels = a.clusterCount)
    (reference tolerance : Float) : FailsOnly (UnacceptedQuality t) (Auditor.judgeQuality t a reference tolerance) := by
  rw [Auditor.judgeQuality, ← honest]
  split
  case isTrue => exact .ok _
  case isFalse enough =>
    rw [Auditor.compareQuality_of_read reference tolerance read rfl]
    exact ((failsOnly_quality_of_many fits (Nat.not_lt.1 enough)).bind fun figure =>
      failsOnly_checkTolerance .tolerance figure reference tolerance).map

/-- An audit that the engine refuses fails with its error and is not passed over. -/
theorem qualityAudited_of_error {cause : EngineError} (refused : answer (t.job (.only .labels)) = .error cause) :
    QualityAudited t (.error ((Failure.engine cause).within t.context)) where
  skipped := iff_of_false (fun ⟨_, _, passed, _⟩ => nomatch passed) fun ⟨a, answered, _⟩ => by
    rw [refused] at answered
    cases answered
  failed := by
    rintro _ ⟨⟩
    exact .engine refused

/-- An answer of the engine is passed over or judged by its own labels. -/
theorem qualityAudited_of_ok (answered : answer (t.job (.only .labels)) = .ok a) (reference tolerance : Float) :
    QualityAudited t (((Auditor.judgeQuality t a reference tolerance).map (Verdict.mk t.context)).mapError
      (Failure.within t.context)) := by
  obtain ⟨c, clustered, described⟩ := exists_clustering (fault?_of_answer answered)
  obtain rfl : a = c.answer (.only .labels) := answer_eq_of_clusteredAs clustered answered
  constructor
  case skipped =>
    rw [(Auditor.gatedBy_judgeQuality reference tolerance t.context).skipped]
    constructor
    · exact fun few => ⟨_, answered, few⟩
    · rintro ⟨a, again, few⟩
      rwa [← Except.ok.inj (answered.symm.trans again)] at few
  case failed =>
    intro f failed
    have reasons := failsOnly_judgeQuality (t := t) (a := c.answer (.only .labels)) rfl described.reference.length
      described.clusterCount_eq reference tolerance
    cases judged : Auditor.judgeQuality t (c.answer (.only .labels)) reference tolerance with
    | ok outcome => rw [judged] at failed; cases failed
    | error cause =>
      rw [judged] at failed
      cases failed
      have listed := reasons cause judged
      rwa [Failure.root_within_of_context?_eq_none listed.context]

/-- The audit of the engine's quality with a tolerance that can accept something. -/
theorem run_checkQuality_exhaustive {tolerance? : Option Float} (reference : Float)
    (valid : isTolerance (tolerance?.getD settings.tolerance) = true) (s : σ) :
    ∃ result, ((auditor σ settings).checkQuality t reference tolerance?).run.run s = (result, s) ∧ QualityAudited t result := by
  have replied : (auditor σ settings).engine (t.job (.only .labels)) s = (answer (t.job (.only .labels)), s) := rfl
  cases answered : answer (t.job (.only .labels)) with
  | ok a =>
    rw [answered] at replied
    exact ⟨_, Auditor.run_checkQuality reference valid replied, qualityAudited_of_ok answered reference _⟩
  | error cause =>
    rw [answered] at replied
    exact ⟨_, Auditor.run_checkQuality_of_error reference valid replied, qualityAudited_of_error answered⟩

end Density

/-- All counts of clusters agree: those of any labelling with one label per point with each other, and those of the
labels that the engine finds with the number that it reports. Hence an audit of the engine's quality is passed over iff
the engine finds fewer than two clusters, and it fails only if the engine does, centers coincide or the figure is missed. -/
theorem counters_agree :
    (∀ points labels, labels.length = points.rowCount → CountedAs points labels (clusterCount labels)) ∧
    (∀ job a, Density.answer job = .ok a → ∃ c, Density.ClusteredAs job c ∧
      (∀ L, a.labels = .ok L → L = Table.column c.labels) ∧ CountedAs job.data c.labels a.clusterCount) ∧
    ∀ (σ : Type) (settings : Settings) (t : Trial) (reference : Float) (tolerance? : Option Float) (s : σ),
      isTolerance (tolerance?.getD settings.tolerance) = true →
        ∃ result, ((Density.auditor σ settings).checkQuality t reference tolerance?).run.run s = (result, s) ∧
          Density.QualityAudited t result :=
  ⟨fun _ _ => countedAs, fun _ _ => Density.exists_clustering_of_answer,
    fun _ _ _ reference _ s valid => Density.run_checkQuality_exhaustive reference valid s⟩

theorem counters_agree_borderTrial :
    CountedAs corners [7, -3, 7, 9] 2 ∧
    (∃ a c, Density.answer Density.borderJob = .ok a ∧ Density.ClusteredAs Density.borderJob c ∧
      CountedAs Density.borderJob.data c.labels a.clusterCount) ∧
    ∃ result, ((Density.auditor Unit .standard).checkQuality Density.borderTrial 0.5 none).run.run () = (result, ()) ∧
      Density.QualityAudited Density.borderTrial result := by
  obtain ⟨labellings, jobs, audits⟩ := counters_agree
  have two : clusterCount [7, -3, 7, 9] = 2 := by decide
  have counted := labellings corners [7, -3, 7, 9] rfl
  rw [two] at counted
  obtain ⟨c, clustered, -⟩ := Density.exists_clustering (show Density.fault? Density.borderJob = none by decide +kernel)
  have answered := clustered (.only .labels)
  obtain ⟨c', clustered', -, counted'⟩ := jobs Density.borderJob _ answered
  exact ⟨counted, ⟨_, c', answered, clustered', counted'⟩,
    audits Unit .standard Density.borderTrial 0.5 none () (by decide +kernel)⟩

end DensityAudit
