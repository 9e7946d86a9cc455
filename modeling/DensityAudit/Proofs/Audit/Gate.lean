import DensityAudit.Proofs.Audit.Exhaustive
import DensityAudit.Proofs.Audit.Failures

/-!
# When an audit of quality is passed over

An audit of quality asks first how many clusters the engine reports, and only then for the labels. The number that an
engine reports decides whether the audit is passed over, and it is the number in the outcome (`checkQuality_gated`). The
number of clusters among the labels decides whether the index has a value (`quality_eq_tooFew_iff`), so an engine that
reports more clusters than it labels can make the audit fail for want of clusters; one that counts its own labels cannot.
-/

namespace DensityAudit

/-! ### Counting clusters -/

theorem nodup_eraseDups : (labels : List Label) → labels.eraseDups.Nodup
  | [] => .nil
  | l :: rest => by
    rw [List.eraseDups_cons]
    refine List.nodup_cons.2 ⟨fun member => ?_, nodup_eraseDups _⟩
    rw [List.mem_eraseDups, List.mem_filter, beq_self_eq_true] at member
    exact Bool.false_ne_true member.2
termination_by labels => labels.length
decreasing_by exact Nat.lt_succ_of_le (List.length_filter_le ..)

variable {points : Table Float} {labels : List Label} {c : Centroids} {k : Nat}

/-- A labelling has as many clusters as centers. -/
theorem clusterCount_eq_count (centers : CentersOf points labels c) : clusterCount labels = c.count := by
  have same : ((labels.filter fun l => decide (0 ≤ l)).eraseDups).Perm c.labels := by
    refine (List.perm_ext_iff_of_nodup (nodup_eraseDups _) centers.ordered.nodup).2 fun l => ?_
    rw [List.mem_eraseDups, List.mem_filter, decide_eq_true_iff, centers.mem_labels]
  exact same.length_eq

/-- The index of a labelling with one label per point fails for want of clusters iff there are fewer than two, and names
their number. -/
theorem quality_eq_tooFew_iff (fits : labels.length = points.rowCount) :
    quality points labels = .error (.undefinedQuality (.tooFewClusters k)) ↔ clusterCount labels = k ∧ k < 2 := by
  obtain ⟨c, built, centers⟩ := exists_centroids fits
  rw [quality_of_centers fits built centers, clusterCount_eq_count centers]
  split
  case isTrue few =>
    rw [Except.error.injEq, Failure.undefinedQuality.injEq, UndefinedQuality.tooFewClusters.injEq]
    exact ⟨fun same => ⟨same, same ▸ few⟩, And.left⟩
  case isFalse enough =>
    refine iff_of_false (fun failed => ?_) fun ⟨same, few⟩ => enough (same ▸ few)
    rw [Ball.index] at failed
    split at failed <;> cases failed

/-! ### The gate -/

/-- The number of clusters that an audit of quality goes by: the audit is passed over iff there are fewer than two, and
every outcome carries the number. -/
structure GatedBy (count : Nat) (result : Except Failure (Verdict QualityOutcome)) : Prop where
  skipped : (∃ v k, result = .ok v ∧ v.outcome = .skipped k) ↔ count < 2
  counted : ∀ v, result = .ok v → v.outcome = .skipped count ∨ ∃ check, v.outcome = .compared count check

/-- The audit fails because the index needs two clusters and found `k`. -/
def WantsClusters (k : Nat) (result : Except Failure (Verdict QualityOutcome)) : Prop :=
  ∃ f, result = .error f ∧ f.root = .undefinedQuality (.tooFewClusters k)

/-- The audit goes by the clusters among the labels, and never lacks any. -/
structure Reflects (labels : List Label) (result : Except Failure (Verdict QualityOutcome)) : Prop where
  gated : GatedBy (clusterCount labels) result
  enough : ∀ k, ¬ WantsClusters k result

namespace Auditor

variable {σ : Type} {a : Auditor σ} {t : Trial} {s s' : σ} {answer : Answer} {L : Table Label}
variable (reference tolerance : Float)

/-- The judgement of an answer, before it is placed in the context of the trial. -/
def judgeQuality (t : Trial) (answer : Answer) (reference tolerance : Float) : Except Failure QualityOutcome :=
  if answer.clusterCount < 2 then .ok (.skipped answer.clusterCount)
  else (compareQuality t answer reference tolerance).map (.compared answer.clusterCount)

/-- An audit of quality is a run and a judgement, unless its tolerance can accept nothing. -/
theorem checkQuality_eq (a : Auditor σ) (t : Trial) (tolerance? : Option Float) :
    a.checkQuality t reference tolerance? =
      if isTolerance (tolerance?.getD a.settings.tolerance) then
        a.run t (.only .labels) >>= fun answer =>
          t.verdict (judgeQuality t answer reference (tolerance?.getD a.settings.tolerance))
      else t.verdict (.error (.invalidTolerance (tolerance?.getD a.settings.tolerance))) := by
  rw [checkQuality]
  refine ite_congr rfl (fun _ => congrArg _ (funext fun answer => ?_)) fun _ => rfl
  rw [judgeQuality, apply_ite t.verdict]

/-- With a valid tolerance an answer is judged, in the context of the trial. -/
theorem run_checkQuality {tolerance? : Option Float} (valid : isTolerance (tolerance?.getD a.settings.tolerance) = true)
    (answered : a.engine (t.job (.only .labels)) s = (.ok answer, s')) :
    (a.checkQuality t reference tolerance?).run.run s =
      (((judgeQuality t answer reference (tolerance?.getD a.settings.tolerance)).map (Verdict.mk t.context)).mapError
        (Failure.within t.context), s') := by
  rw [checkQuality_eq, if_pos valid, run_run_then, answered]
  rfl

/-- With a valid tolerance an error of the engine is passed on, in the context of the trial. -/
theorem run_checkQuality_of_error {tolerance? : Option Float} {cause : EngineError}
    (valid : isTolerance (tolerance?.getD a.settings.tolerance) = true)
    (refused : a.engine (t.job (.only .labels)) s = (.error cause, s')) :
    (a.checkQuality t reference tolerance?).run.run s = (.error ((Failure.engine cause).within t.context), s') := by
  rw [checkQuality_eq, if_pos valid, run_run_then, refused]

/-- The judgement of an answer fails only for what is wrong with the answer or its quality. -/
theorem failsOnly_judgement (t : Trial) (answer : Answer) :
    FailsOnly JudgementFailure (judgeQuality t answer reference tolerance) := by
  rw [judgeQuality]
  split
  · exact .ok _
  · exact (failsOnly_compareQuality t answer reference tolerance).map

/-- With a valid tolerance an audit of quality does not fail for its tolerance. -/
theorem root_ne_invalidTolerance {tolerance? : Option Float} {f : Failure}
    (valid : isTolerance (tolerance?.getD a.settings.tolerance) = true)
    (failed : (a.checkQuality t reference tolerance?).Fails s f s') (value : Float) : f.root ≠ .invalidTolerance value := by
  rw [checkQuality_eq, if_pos valid, fails_judge_iff] at failed
  rcases failed with ⟨e, -, rfl⟩ | ⟨answer, cause, -, judged, rfl⟩
  · exact nofun
  · have reason := failsOnly_judgement _ _ t answer cause judged
    rw [Failure.root_within_of_context?_eq_none reason.listed.direct.context]
    exact reason.ne_invalidTolerance value

/-- A comparison fails for want of clusters iff the index does. -/
theorem compareQuality_eq_tooFew_iff (read : answer.labels = .ok L) (single : L.columnCount = 1)
    (fits : L.rowCount = t.dataset.data.rowCount) {k : Nat} :
    compareQuality t answer reference tolerance = .error (.undefinedQuality (.tooFewClusters k)) ↔
      clusterCount L.values = k ∧ k < 2 := by
  have length : L.values.length = t.dataset.data.rowCount := by
    rw [Table.length_values_of_single single, fits]
  rw [compareQuality_of_read reference tolerance read single, ← quality_eq_tooFew_iff length]
  cases scored : quality t.dataset.data L.values with
  | error cause =>
    rw [Except.error.injEq]
    exact iff_of_eq (Except.error.injEq ..)
  | ok figure =>
    refine iff_of_false (fun failed => ?_) nofun
    change checkTolerance figure reference tolerance = _ at failed
    rw [checkTolerance] at failed
    split at failed <;> cases failed

/-- A judged answer, wherever it is placed, is gated by the number of clusters that the engine reports. -/
theorem gatedBy_judgeQuality (context : Context) : GatedBy answer.clusterCount
    (((judgeQuality t answer reference tolerance).map (Verdict.mk context)).mapError (Failure.within context)) := by
  rw [judgeQuality]
  split
  case isTrue few =>
    refine ⟨iff_of_true ⟨_, _, rfl, rfl⟩ few, fun v passed => .inl ?_⟩
    cases passed
    rfl
  case isFalse enough =>
    cases compareQuality t answer reference tolerance with
    | error cause => exact ⟨iff_of_false (fun ⟨_, _, passed, _⟩ => nomatch passed) enough, nofun⟩
    | ok check =>
      refine ⟨iff_of_false ?_ enough, fun v passed => .inr ⟨check, ?_⟩⟩
      · rintro ⟨v, k, passed, skipped⟩
        cases passed
        cases skipped
      · cases passed
        rfl

/-- A judged answer lacks clusters iff the engine reports at least two and labels fewer. -/
theorem wantsClusters_judgeQuality_iff (context : Context) (read : answer.labels = .ok L) (single : L.columnCount = 1)
    (fits : L.rowCount = t.dataset.data.rowCount) {k : Nat} :
    WantsClusters k
        (((judgeQuality t answer reference tolerance).map (Verdict.mk context)).mapError (Failure.within context)) ↔
      2 ≤ answer.clusterCount ∧ clusterCount L.values = k ∧ k < 2 := by
  rw [judgeQuality]
  split
  case isTrue few => exact iff_of_false (fun ⟨_, failed, _⟩ => nomatch failed) fun lacking => by omega
  case isFalse enough =>
    rw [and_iff_right (Nat.not_lt.1 enough), ← compareQuality_eq_tooFew_iff reference tolerance read single fits]
    cases compared : compareQuality t answer reference tolerance with
    | ok check => exact iff_of_false (fun ⟨_, failed, _⟩ => nomatch failed) nofun
    | error cause =>
      have direct := (failsOnly_compareQuality t answer reference tolerance cause compared).listed.direct
      have root := Failure.root_within_of_context?_eq_none direct.context context
      rw [Except.error.injEq]
      constructor
      · rintro ⟨f, failed, lacking⟩
        cases failed
        rwa [root] at lacking
      · exact fun lacking => ⟨_, rfl, root.trans lacking⟩

/-- Whether an audit of quality is passed over is decided by the number of clusters that the engine reports, which is
also the number in its outcome. It fails for want of clusters iff the engine reports at least two and labels fewer. If the
engine reports the number that it labels, the audit goes by the labels. -/
theorem checkQuality_gated (a : Auditor σ) (t : Trial) (reference : Float) (tolerance? : Option Float) (s s' : σ)
    (answer : Answer) (L : Table Label) (valid : isTolerance (tolerance?.getD a.settings.tolerance) = true)
    (answered : a.engine (t.job (.only .labels)) s = (.ok answer, s')) (read : answer.labels = .ok L)
    (single : L.columnCount = 1) (fits : L.rowCount = t.dataset.data.rowCount) :
    ∃ result, (a.checkQuality t reference tolerance?).run.run s = (result, s') ∧
      GatedBy answer.clusterCount result ∧
      (∀ k, WantsClusters k result ↔ 2 ≤ answer.clusterCount ∧ clusterCount L.values = k ∧ k < 2) ∧
      (answer.clusterCount = clusterCount L.values → Reflects L.values result) := by
  have gated := @gatedBy_judgeQuality t answer reference (tolerance?.getD a.settings.tolerance) t.context
  have lacking := fun k => @wantsClusters_judgeQuality_iff t answer L reference (tolerance?.getD a.settings.tolerance)
    t.context read single fits k
  refine ⟨_, run_checkQuality reference valid answered, gated, lacking, fun honest => ⟨honest ▸ gated, fun k wants => ?_⟩⟩
  obtain ⟨reported, labelled, few⟩ := (lacking k).1 wants
  omega

end Auditor

/-! ### Engines that count otherwise -/

/-- The auditor of an engine that always reports this number of clusters and answers with these labels. -/
def reporting (count : Nat) (labels : List Label) : Auditor Unit :=
  ⟨Engine.fixed ⟨.none, count, some (Table.column labels), none, none, none⟩, .standard⟩

/-- Two rows one apart. -/
def pairTrial : Trial := ⟨⟨"pair", Table.column [0.0, 1.0], none⟩, 0.5, 1⟩

/-- An engine that reports one cluster and gives labels of one. -/
theorem Auditor.checkQuality_gated_pairTrial : ∃ result,
    ((reporting 1 [0, 0]).checkQuality pairTrial 0.5 none).run.run () = (result, ()) ∧
      GatedBy 1 result ∧ Reflects [0, 0] result := by
  obtain ⟨result, ran, gated, -, honest⟩ := Auditor.checkQuality_gated (reporting 1 [0, 0]) pairTrial 0.5 none () ()
    ⟨.only .labels, 1, some (Table.column [0, 0]), none, none, none⟩ (Table.column [0, 0]) (by decide +kernel)
    rfl rfl rfl rfl
  exact ⟨result, ran, gated, honest rfl⟩

/-- An engine that reports two clusters and labels one makes the audit fail for want of clusters, where its labels ask for
the audit to be passed over. -/
theorem not_reflects_pairTrial : ∃ f,
    ((reporting 2 [0, 0]).checkQuality pairTrial 0.5 none).run.run () = (.error f, ()) ∧
      f.root = .undefinedQuality (.tooFewClusters 1) ∧ ¬ Reflects [0, 0] (.error f) := by
  have answered : (reporting 2 [0, 0]).engine (pairTrial.job (.only .labels)) () =
      (.ok ⟨.only .labels, 2, some (Table.column [0, 0]), none, none, none⟩, ()) := rfl
  refine ⟨.inContext pairTrial.context (.undefinedQuality (.tooFewClusters 1)), ?_, rfl, fun reflects => ?_⟩
  · rw [Auditor.run_checkQuality 0.5 (by decide +kernel) answered]
    rfl
  · exact reflects.enough 1 ⟨_, rfl, rfl⟩

end DensityAudit
