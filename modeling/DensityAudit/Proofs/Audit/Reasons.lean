import DensityAudit.Audit.Checks
import DensityAudit.Proofs.Quality.Renaming

/-!
# Reasons of failure

Each comparison fails for reasons of its own kind: `LabelsFailure`, `PartitionFailure`, `QualityFailure` and
`DisclosureFailure` list them. A comparison is a chain of steps, and whatever every step fails with the chain fails
with (`FailsOnly.bind`), so the lists follow step by step. No table is ever cut wrongly and no cluster is ever without
its center, so these failures are on none of the lists.
-/

namespace DensityAudit

/-! ### Steps that may fail -/

/-- Every failure of the result has the property. -/
def FailsOnly {α : Type} (P : Failure → Prop) (result : Except Failure α) : Prop := ∀ f, result = .error f → P f

namespace FailsOnly

variable {α β ε : Type} {P Q : Failure → Prop} {result : Except Failure α}

theorem ok (x : α) : FailsOnly P (.ok x) := nofun

theorem error {f : Failure} (h : P f) : FailsOnly P (.error f : Except Failure α) := by
  rintro _ ⟨⟩
  exact h

theorem mono (h : FailsOnly P result) (weaker : ∀ f, P f → Q f) : FailsOnly Q result :=
  fun f failed => weaker f (h f failed)

theorem bind {next : α → Except Failure β} (first : FailsOnly P result) (second : ∀ x, FailsOnly P (next x)) :
    FailsOnly P (result >>= next) := by
  cases result with
  | ok x => exact second x
  | error f => exact error (first f rfl)

theorem map {g : α → β} (h : FailsOnly P result) : FailsOnly P (result.map g) := by
  cases result with
  | ok x => exact ok (g x)
  | error f => exact error (h f rfl)

theorem mapError {result : Except ε α} {g : ε → Failure} (h : ∀ e, P (g e)) : FailsOnly P (result.mapError g) := by
  cases result with
  | ok x => exact ok x
  | error e => exact error (h e)

/-- A step for each item fails only for the reasons of the steps. -/
theorem mapM {step : α → Except Failure β} (each : ∀ x, FailsOnly P (step x)) (xs : List α) : FailsOnly P (xs.mapM step) := by
  induction xs with
  | nil => exact ok []
  | cons x rest ih =>
    rw [List.mapM_cons]
    exact (each x).bind fun _ => ih.bind fun _ => ok _

end FailsOnly

/-! ### The lists -/

/-- Labels that were asked for cannot be read, or have the wrong extents. -/
inductive Unreadable : Failure → Prop where
  | contract (detail : String) : Unreadable (.contract .labels true detail)
  | shape (what : String) (expected found : Nat) : Unreadable (.shape what expected found)

/-- What a comparison of labels fails with. -/
inductive LabelsFailure : Failure → Prop where
  | unreadable {f : Failure} (h : Unreadable f) : LabelsFailure f
  | rows (total : Nat) (differences : List RowDifference) : LabelsFailure (.mismatch (.rows total differences))

/-- What a comparison of partitions fails with. -/
inductive PartitionFailure : Failure → Prop where
  | unreadable {f : Failure} (h : Unreadable f) : PartitionFailure f
  | structural (row : RowDifference) (conflict : Conflict) : PartitionFailure (.mismatch (.structural row conflict))

/-- What the judgement of a quality fails with. -/
inductive JudgementFailure : Failure → Prop where
  | unreadable {f : Failure} (h : Unreadable f) : JudgementFailure f
  | tooFewClusters (clusterCount : Nat) : JudgementFailure (.undefinedQuality (.tooFewClusters clusterCount))
  | coincidentCentroids (first second : Label) : JudgementFailure (.undefinedQuality (.coincidentCentroids first second))
  | tolerance (check : ToleranceCheck) : JudgementFailure (.mismatch (.tolerance check))

/-- What a comparison of qualities fails with. -/
inductive QualityFailure : Failure → Prop where
  | invalidTolerance (value : Float) : QualityFailure (.invalidTolerance value)
  | unreadable {f : Failure} (h : Unreadable f) : QualityFailure f
  | tooFewClusters (clusterCount : Nat) : QualityFailure (.undefinedQuality (.tooFewClusters clusterCount))
  | coincidentCentroids (first second : Label) : QualityFailure (.undefinedQuality (.coincidentCentroids first second))
  | tolerance (check : ToleranceCheck) : QualityFailure (.mismatch (.tolerance check))

/-- What a check of disclosure fails with. -/
inductive DisclosureFailure : Failure → Prop where
  | contract (output : Output) (requested : Bool) (detail : String) :
      DisclosureFailure (.contract output requested detail)

/-- The failure is neither that of an engine nor in a context. -/
structure Failure.Direct (f : Failure) : Prop where
  context : f.context? = none
  engine : f.engineError? = none

theorem Unreadable.direct {f : Failure} (h : Unreadable f) : f.Direct := by
  cases h <;> exact ⟨rfl, rfl⟩

theorem LabelsFailure.direct {f : Failure} (h : LabelsFailure f) : f.Direct := by
  cases h with
  | unreadable h => exact h.direct
  | rows => exact ⟨rfl, rfl⟩

theorem PartitionFailure.direct {f : Failure} (h : PartitionFailure f) : f.Direct := by
  cases h with
  | unreadable h => exact h.direct
  | structural => exact ⟨rfl, rfl⟩

theorem QualityFailure.direct {f : Failure} (h : QualityFailure f) : f.Direct := by
  cases h with
  | unreadable h => exact h.direct
  | _ => exact ⟨rfl, rfl⟩

namespace JudgementFailure

variable {f : Failure} (h : JudgementFailure f)
include h

theorem listed : QualityFailure f := by
  cases h with
  | unreadable h => exact .unreadable h
  | tooFewClusters k => exact .tooFewClusters k
  | coincidentCentroids a b => exact .coincidentCentroids a b
  | tolerance check => exact .tolerance check

/-- A tolerance is not judged. -/
theorem ne_invalidTolerance (value : Float) : f ≠ .invalidTolerance value := by
  cases h with
  | unreadable h => cases h <;> exact nofun
  | _ => exact nofun

end JudgementFailure

theorem DisclosureFailure.direct {f : Failure} (h : DisclosureFailure f) : f.Direct := by
  cases h
  exact ⟨rfl, rfl⟩

/-! ### The comparisons -/

section

variable {P : Failure → Prop} (unreadable : ∀ {f}, Unreadable f → P f)
include unreadable

/-- Labels that were asked for and cannot be read are a broken contract. -/
theorem failsOnly_requestedLabels (a : Answer) : FailsOnly P (requestedLabels a) :=
  .mapError fun cause => unreadable (.contract ("requested output was not accessible: " ++ cause.message))

/-- A table of labels has the wrong number of columns, or is read. -/
theorem failsOnly_readLabels (what : String) (t : Table Label) : FailsOnly P (readLabels what t) := by
  rw [readLabels, Table.pullRows_all]
  split
  · exact .error (unreadable (.shape ..))
  · exact .ok _

/-- What is done with the labels of an answer fails for its own reasons, or the labels cannot be read. -/
theorem failsOnly_answered {α : Type} {next : List Label → Except Failure α} (after : ∀ labels, FailsOnly P (next labels))
    (a : Answer) : FailsOnly P (do next (← readLabels computedColumns (← requestedLabels a))) :=
  (failsOnly_requestedLabels unreadable a).bind fun labels => (failsOnly_readLabels unreadable _ labels).bind after

end

theorem failsOnly_compareLabels (computed reference : List Label) :
    FailsOnly LabelsFailure (compareLabels computed reference) := by
  rw [compareLabels]
  split
  · exact .error (.unreadable (.shape ..))
  · split
    · exact .ok _
    · exact .error (.rows ..)

/-- Tables of labels fail to compare for their extents or for their labels. -/
theorem failsOnly_compareLabelTables (computed reference : Table Label) :
    FailsOnly LabelsFailure (compareLabelTables computed reference) :=
  (failsOnly_readLabels .unreadable _ computed).bind fun found =>
    (failsOnly_readLabels .unreadable _ reference).bind fun known => failsOnly_compareLabels found known

/-- Partitions fail to compare for their extents or for a conflict. -/
theorem failsOnly_comparePartitions (computed reference : List Label) :
    FailsOnly PartitionFailure (comparePartitions computed reference) := by
  by_cases lengths : computed.length = reference.length
  · rcases comparePartitions_cases lengths with ⟨m, passed, -⟩ | ⟨row, conflict, stopped, -⟩
    · rw [passed]
      exact .ok _
    · rw [stopped]
      exact .error (.structural row conflict)
  · rw [comparePartitions, if_pos lengths]
    exact .error (.unreadable (.shape ..))

theorem failsOnly_index {P : Failure → Prop} (coincident : ∀ a b, P (.undefinedQuality (.coincidentCentroids a b)))
    (clusters : List Ball) : FailsOnly P (Ball.index clusters) := by
  rw [Ball.index]
  split
  · exact .error (coincident ..)
  · exact .ok _

/-- The quality of a labelling has a value, or the labelling does not fit the points, has fewer than two clusters or has
coincident centers. -/
theorem failsOnly_quality (points : Table Float) (labels : List Label) : FailsOnly JudgementFailure (quality points labels) := by
  by_cases fits : labels.length = points.rowCount
  · obtain ⟨c, built, centers⟩ := exists_centroids fits
    rw [quality_of_centers fits built centers]
    split
    · exact .error (.tooFewClusters _)
    · exact failsOnly_index .coincidentCentroids _
  · rw [quality_of_labelCount fits]
    exact .error (.unreadable (.shape ..))

theorem failsOnly_checkTolerance {P : Failure → Prop} (mismatch : ∀ check, P (.mismatch (.tolerance check)))
    (value reference tolerance : Float) : FailsOnly P (checkTolerance value reference tolerance) := by
  rw [checkTolerance]
  split
  · exact .ok _
  · exact .error (mismatch _)

theorem failsOnly_compareQuality (t : Trial) (a : Answer) (reference tolerance : Float) :
    FailsOnly JudgementFailure (Auditor.compareQuality t a reference tolerance) :=
  failsOnly_answered .unreadable (fun labels => (failsOnly_quality _ labels).bind fun figure =>
    failsOnly_checkTolerance .tolerance figure reference tolerance) a

theorem failsOnly_discloses (a : Answer) (requested : Bool) (o : Output) :
    FailsOnly DisclosureFailure (discloses a requested o) := by
  unfold discloses
  split
  · exact .ok _
  · exact .error (.contract ..)
  · exact .ok _
  · exact .error (.contract ..)
  · exact .error (.contract ..)

/-- A disclosure fails only for an output that makes a difference. -/
theorem failsOnly_disclosure (requested : OutputSet) (a : Answer) :
    FailsOnly DisclosureFailure (disclosure requested a) :=
  (FailsOnly.mapM (fun o => (failsOnly_discloses a _ o).bind fun _ => .ok _) _).bind fun _ => .ok _

end DensityAudit
