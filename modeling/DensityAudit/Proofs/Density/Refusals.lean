import DensityAudit.Proofs.Density.Guarded

/-!
# When a job is refused

The engine refuses a job for the first of six causes and answers every other job. `Refused` lists the causes in the order
in which they are looked for, each with the conditions under which it is the first one, so no two of them apply to one job.
Data without columns are not on the list: they have no rows either, and this is found out first. What comes after the
checks is total: nothing that does not exist is accessed (`Guarded.answer?_eq`), and the core rows form a table.
-/

namespace DensityAudit.Density

/-! ### Causes -/

/-- The values of the table are finite. -/
def Finite (t : Table Float) : Prop := ∀ v ∈ t.values, v.isFinite = true

/-- The radius is finite and not negative. -/
def ProperRadius (epsilon : Float) : Prop := epsilon.isFinite = true ∧ ¬ epsilon < 0.0

/-- There is one weight for each of these rows. -/
def OnePerRow (rows : Nat) (weights : Table Float) : Prop := weights.rowCount = rows ∧ weights.columnCount = 1

/-- The first cause for which a job is refused. -/
inductive Refused (job : Job) : EngineError → Prop where
  | emptyInput (empty : job.data.rowCount = 0) : Refused job .emptyInput
  | data (rows : job.data.rowCount ≠ 0) (infinite : ¬ Finite job.data) :
      Refused job (.invalidParameter "data" "must be finite")
  | epsilon (rows : job.data.rowCount ≠ 0) (data : Finite job.data) (improper : ¬ ProperRadius job.request.epsilon) :
      Refused job (.invalidParameter "epsilon" "must be finite and non-negative")
  | minObservations (rows : job.data.rowCount ≠ 0) (data : Finite job.data) (radius : ProperRadius job.request.epsilon)
      (zero : job.request.minObservations = 0) :
      Refused job (.invalidParameter "min_observations" "must be at least 1")
  | weightShape (rows : job.data.rowCount ≠ 0) (data : Finite job.data) (radius : ProperRadius job.request.epsilon)
      (threshold : job.request.minObservations ≠ 0) {w : Table Float} (given : job.weights? = some w)
      (other : ¬ OnePerRow job.data.rowCount w) : Refused job (.weightShape job.data.rowCount w.rowCount w.columnCount)
  | weights (rows : job.data.rowCount ≠ 0) (data : Finite job.data) (radius : ProperRadius job.request.epsilon)
      (threshold : job.request.minObservations ≠ 0) {w : Table Float} (given : job.weights? = some w)
      (shape : OnePerRow job.data.rowCount w) (infinite : ¬ Finite w) :
      Refused job (.invalidParameter "weights" "must be finite")

variable {job : Job} {cause : EngineError}

/-- A job is never refused for a table that cannot be built. -/
theorem Refused.ne_table (refused : Refused job cause) (e : TableError) : cause ≠ .table e := by
  cases refused <;> exact nofun

/-- A job is never refused for an output. -/
theorem Refused.ne_notRequested (refused : Refused job cause) (o : Output) : cause ≠ .notRequested o := by
  cases refused <;> exact nofun

/-- Data are never refused for having no columns. -/
theorem Refused.ne_columns (refused : Refused job cause) :
    cause ≠ .invalidParameter "data" "must have at least one column" := by
  cases refused <;> simp

/-! ### The checks -/

theorem ite_some_eq_some {α : Type} {p : Prop} [Decidable p] {fault found : α} {others : Option α} :
    (if p then some fault else others) = some found ↔ p ∧ fault = found ∨ ¬ p ∧ others = some found := by
  by_cases h : p <;> simp [h]

theorem allFinite_iff {t : Table Float} : allFinite t = true ↔ Finite t := by
  rw [allFinite, List.all_eq_true]
  rfl

theorem isRadius_iff {epsilon : Float} : isRadius epsilon = true ↔ ProperRadius epsilon := by
  simp [isRadius, ProperRadius]

/-- The shape of the weights is looked at before their values. -/
theorem weightFault?_eq_some_iff {rows : Nat} {w : Table Float} : weightFault? rows w = some cause ↔
    ¬ OnePerRow rows w ∧ .weightShape rows w.rowCount w.columnCount = cause ∨
      OnePerRow rows w ∧ ¬ Finite w ∧ .invalidParameter "weights" "must be finite" = cause := by
  have shape : (w.rowCount ≠ rows ∨ w.columnCount ≠ 1) ↔ ¬ OnePerRow rows w := not_and_or.symm
  simp [weightFault?, ite_some_eq_some, shape, ← allFinite_iff]

/-- The first fault that the checks find is the first cause. -/
theorem fault?_eq_some_iff : fault? job = some cause ↔ Refused job cause := by
  have columns : job.data.rowCount ≠ 0 → job.data.columnCount ≠ 0 := mt job.data.rowCount_of_no_columns
  simp only [fault?, ite_some_eq_some, Option.bind_eq_some_iff, weightFault?_eq_some_iff, Bool.not_eq_true',
    ← Bool.not_eq_true, allFinite_iff, isRadius_iff, not_not]
  constructor
  · rintro (⟨empty, rfl⟩ | ⟨rows, ⟨empty, rfl⟩ | ⟨-, ⟨infinite, rfl⟩ | ⟨data, ⟨improper, rfl⟩ | ⟨radius, ⟨zero, rfl⟩ |
      ⟨threshold, w, given, ⟨other, rfl⟩ | ⟨shape, infinite, rfl⟩⟩⟩⟩⟩⟩)
    · exact .emptyInput empty
    · exact absurd empty (columns rows)
    · exact .data rows infinite
    · exact .epsilon rows data improper
    · exact .minObservations rows data radius zero
    · exact .weightShape rows data radius threshold given other
    · exact .weights rows data radius threshold given shape infinite
  · intro refused
    cases refused with
    | emptyInput empty => exact .inl ⟨empty, rfl⟩
    | data rows infinite => exact .inr ⟨rows, .inr ⟨columns rows, .inl ⟨infinite, rfl⟩⟩⟩
    | epsilon rows data improper => exact .inr ⟨rows, .inr ⟨columns rows, .inr ⟨data, .inl ⟨improper, rfl⟩⟩⟩⟩
    | minObservations rows data radius zero =>
      exact .inr ⟨rows, .inr ⟨columns rows, .inr ⟨data, .inr ⟨radius, .inl ⟨zero, rfl⟩⟩⟩⟩⟩
    | weightShape rows data radius threshold given other =>
      exact .inr ⟨rows, .inr ⟨columns rows, .inr ⟨data, .inr ⟨radius, .inr ⟨threshold, _, given, .inl ⟨other, rfl⟩⟩⟩⟩⟩⟩
    | weights rows data radius threshold given shape infinite =>
      exact .inr ⟨rows, .inr ⟨columns rows, .inr ⟨data, .inr ⟨radius,
        .inr ⟨threshold, _, given, .inr ⟨shape, infinite, rfl⟩⟩⟩⟩⟩⟩

/-! ### Answers -/

/-- A job is refused for its first fault, and answered if it has none. -/
theorem answer_eq_error_iff : answer job = .error cause ↔ Refused job cause := by
  rw [← fault?_eq_some_iff]
  cases faulty : fault? job with
  | some fault => simp [answer, faulty]
  | none =>
    obtain ⟨c, answered, -⟩ := exists_clustering faulty
    have found : answer job = .ok (c.answer job.request.outputs) := answered job.request.outputs
    simp [found]

/-- A job is refused for the first cause on the list that applies, and answered if there is none. No other error occurs,
and with fewer rows than there are numbers for clusters nothing that does not exist is accessed. -/
theorem answer_refuses_exactly (job : Job) (few : job.data.rowCount < 2 ^ 31) :
    (∀ cause, answer job = .error cause ↔ Refused job cause) ∧
    ((∃ a, answer job = .ok a) ↔ ∀ cause, ¬ Refused job cause) ∧
    (∀ cause, answer job = .error cause → (∀ e, cause ≠ .table e) ∧ (∀ o, cause ≠ .notRequested o) ∧
      cause ≠ .invalidParameter "data" "must have at least one column") ∧
    Guarded.answer? job = some (answer job) := by
  refine ⟨fun _ => answer_eq_error_iff, ?_, fun cause failed => ?_, Guarded.answer?_eq few⟩
  · simp only [← answer_eq_error_iff]
    cases answer job <;> simp
  · have refused := answer_eq_error_iff.1 failed
    exact ⟨refused.ne_table, refused.ne_notRequested, refused.ne_columns⟩

/-- Two rows, for which no weight is asked and the weights have one row too few. -/
def lightJob : Job := ⟨⟨0.5, 0, .all⟩, Table.column [0.0, 1.0], some (Table.column [1.0])⟩

/-- A job without a threshold is refused, and the one with a border row is answered. -/
theorem answer_refuses_exactly_lightJob :
    Refused lightJob (.invalidParameter "min_observations" "must be at least 1") ∧
    Guarded.answer? lightJob = some (answer lightJob) ∧
    (∃ a, answer borderJob = .ok a) ∧ Guarded.answer? borderJob = some (answer borderJob) := by
  obtain ⟨refused, -, -, guarded⟩ := answer_refuses_exactly lightJob (by decide)
  obtain ⟨-, answered, -, guarded'⟩ := answer_refuses_exactly borderJob (by decide)
  refine ⟨(refused _).1 ?_, guarded, answered.2 fun cause refused' => ?_, guarded'⟩
  · have fault : fault? lightJob = some (.invalidParameter "min_observations" "must be at least 1") := by decide +kernel
    rw [answer, fault]
  · have sound : fault? borderJob = none := by decide +kernel
    rw [← fault?_eq_some_iff, sound] at refused'
    cases refused'

end DensityAudit.Density
