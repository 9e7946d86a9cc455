import DensityAudit.Catalog.Quality
import DensityAudit.Proofs.Audit.Disclosure
import DensityAudit.Proofs.Audit.Gate

/-!
# The calls of an engine

An engine that notes its jobs answers as it did before, so what an audit asks of its engine is what a noting engine has
noted after the audit (`Asks`). An audit that runs the engine and judges asks for one job, whatever the engine replies
(`asks_judge`); a series of audits asks for the jobs of those that are reached (`asks_mapM_of_reached`).
`calls_accounted` adds this up over any sequence of operations.
-/

namespace DensityAudit

def Auditor.recorded {σ : Type} (a : Auditor σ) : Auditor (σ × List Job) := ⟨a.engine.recorded, a.settings⟩

/-- A program asks its engine for these jobs: with a noting engine it gives the same result and leaves the same state,
and these jobs are noted after those that were. -/
def Asks {σ α : Type} (program : StateM σ α) (noting : StateM (σ × List Job) α) (s : σ) (jobs : List Job) : Prop :=
  ∀ log, noting.run (s, log) = ((program.run s).1, (program.run s).2, log ++ jobs)

section

variable {σ α β : Type} {s s' : σ} {jobs jobs' : List Job}

theorem asks_pure (x : α) : Asks (pure x) (pure x) s [] := fun log => by
  rw [List.append_nil]
  rfl

/-- Two steps ask for what the first one does, and then for what the second one does. -/
theorem Asks.bind {first : StateM σ α} {first' : StateM (σ × List Job) α} {next : α → StateM σ β}
    {next' : α → StateM (σ × List Job) β} (asks : Asks first first' s jobs)
    (rest : Asks (next (first.run s).1) (next' (first.run s).1) (first.run s).2 jobs') :
    Asks (first >>= next) (first' >>= next') s (jobs ++ jobs') := by
  intro log
  rw [StateT.run_bind, asks log]
  show (next' _).run (_, log ++ jobs) = _
  rw [rest, List.append_assoc]
  rfl

/-- Steps in turn ask for what each of them does. -/
theorem exists_asks_mapM (step : α → StateM σ β) (step' : α → StateM (σ × List Job) β) {C : α → σ → List Job → Prop}
    (xs : List α) (each : ∀ x ∈ xs, ∀ s, ∃ jobs, C x s jobs ∧ Asks (step x) (step' x) s jobs) (s : σ) :
    ∃ calls, InTurn (fun x s jobs s' => C x s jobs ∧ ((step x).run s).2 = s') xs s calls ((xs.mapM step).run s).2 ∧
      Asks (xs.mapM step) (xs.mapM step') s calls.flatten := by
  induction xs generalizing s with
  | nil => exact ⟨[], .nil s, asks_pure []⟩
  | cons x xs ih =>
    obtain ⟨jobs, expected, asks⟩ := each x (List.mem_cons_self ..) s
    obtain ⟨calls, turns, rest⟩ := ih (fun y member => each y (List.mem_cons_of_mem _ member)) ((step x).run s).2
    rw [List.mapM_cons, List.mapM_cons]
    refine ⟨jobs :: calls, .cons ⟨expected, rfl⟩ turns, ?_⟩
    rw [List.flatten_cons, ← List.append_nil calls.flatten]
    exact asks.bind (rest.bind (asks_pure _))

end

/-! ### One audit -/

/-- The jobs of an audit of quality: one for the labels, if the tolerance is finite and positive. -/
def Trial.qualityJobs (t : Trial) (tolerance : Float) : List Job :=
  if tolerance.isFinite = true ∧ 0.0 < tolerance then [t.job (.only .labels)] else []

section

variable {σ α β : Type} {t : Trial} {s s' : σ} {f : Failure} {jobs jobs' : List Job}

/-- After a first step that passes, the second one asks as well. -/
theorem Asks.bind_of_passes {first : Audit σ α} {first' : Audit (σ × List Job) α} {next : α → Audit σ β}
    {next' : α → Audit (σ × List Job) β} {x : α} (asks : Asks first.run first'.run s jobs) (passed : first.Passes s x s')
    (rest : Asks (next x).run (next' x).run s' jobs') :
    Asks (first >>= next).run (first' >>= next').run s (jobs ++ jobs') := by
  intro log
  have noted := asks log
  rw [show first.run.run s = _ from passed] at noted
  rw [Auditor.run_bind, Auditor.run_bind, noted, show first.run.run s = _ from passed]
  show (next' x).run.run (s', log ++ jobs) = _
  rw [rest, List.append_assoc]

/-- After a failure nothing is asked for. -/
theorem Asks.bind_of_fails {first : Audit σ α} {first' : Audit (σ × List Job) α} {next : α → Audit σ β}
    {next' : α → Audit (σ × List Job) β} (asks : Asks first.run first'.run s jobs) (failed : first.Fails s f s') :
    Asks (first >>= next).run (first' >>= next').run s jobs := by
  intro log
  have noted := asks log
  rw [show first.run.run s = _ from failed] at noted
  rw [Auditor.run_bind, Auditor.run_bind, noted, show first.run.run s = _ from failed]

/-- A second step that never asks adds nothing. -/
theorem Asks.bind_of_silent {first : Audit σ α} {first' : Audit (σ × List Job) α} {next : α → Audit σ β}
    {next' : α → Audit (σ × List Job) β} (asks : Asks first.run first'.run s jobs)
    (silent : ∀ x s, Asks (next x).run (next' x).run s []) :
    Asks (first >>= next).run (first' >>= next').run s jobs := by
  rcases first.passes_or_fails s with ⟨x, s', passed⟩ | ⟨f, s', failed⟩
  · have both := asks.bind_of_passes passed (silent x s')
    rwa [List.append_nil] at both
  · exact asks.bind_of_fails failed

namespace Auditor

/-- One run is one job, whether the engine answers or fails. -/
theorem asks_run (a : Auditor σ) (t : Trial) (outputs : OutputSet) (s : σ) :
    Asks (a.run t outputs).run (a.recorded.run t outputs).run s [t.job outputs] := by
  intro log
  have noted : a.recorded.engine (t.job outputs) (s, log) =
      ((a.engine (t.job outputs) s).1, (a.engine (t.job outputs) s).2, log ++ [t.job outputs]) := rfl
  rw [run_run, run_run, noted]
  rcases a.engine (t.job outputs) s with ⟨e | answer, s'⟩ <;> rfl

theorem asks_verdict (result : Except Failure α) (s : σ) :
    Asks (t.verdict result : Audit σ _).run (t.verdict result : Audit (σ × List Job) _).run s [] := asks_pure _

/-- To judge an answer is to ask for nothing more. -/
theorem asks_judge (a : Auditor σ) (t : Trial) (outputs : OutputSet) (judge : Answer → Except Failure α) (s : σ) :
    Asks (a.run t outputs >>= fun answer => t.verdict (judge answer)).run
      (a.recorded.run t outputs >>= fun answer => t.verdict (judge answer)).run s [t.job outputs] :=
  (a.asks_run t outputs s).bind_of_silent fun answer => asks_verdict (judge answer)

/-- An audit of quality asks for labels if its tolerance can accept something, and else for nothing. -/
theorem asks_checkQuality (a : Auditor σ) (t : Trial) (reference : Float) (tolerance? : Option Float) (s : σ) :
    Asks (a.checkQuality t reference tolerance?).run (a.recorded.checkQuality t reference tolerance?).run s
      (t.qualityJobs (tolerance?.getD a.settings.tolerance)) := by
  have same : a.recorded.settings = a.settings := rfl
  rw [checkQuality_eq, checkQuality_eq, same, Trial.qualityJobs]
  simp only [← isTolerance_iff]
  split
  · exact a.asks_judge t _ _ s
  · exact asks_verdict _ s

end Auditor

/-! ### A series of audits -/

variable {audit : α → Audit σ β} {noting : α → Audit (σ × List Job) β} {job : α → Job}
variable (each : ∀ x s, Asks (audit x).run (noting x).run s [job x])

include each

/-- The audits that pass ask for their jobs before the rest of the series does. -/
theorem asks_mapM_append {before : List α} (after : List α) {ys : List β}
    (turns : InTurn (fun x => (audit x).Passes) before s ys s')
    (rest : Asks (after.mapM audit : Audit σ _).run (after.mapM noting : Audit _ _).run s' jobs) :
    Asks ((before ++ after).mapM audit : Audit σ _).run ((before ++ after).mapM noting : Audit _ _).run s
      (before.map job ++ jobs) := by
  induction turns with
  | nil => exact rest
  | @cons x xs y ys s s₁ s'' first turns ih =>
    rw [List.cons_append, List.mapM_cons, List.mapM_cons]
    exact (each x s).bind_of_passes first ((ih rest).bind_of_silent fun _ _ => asks_pure _)

/-- A series of audits asks for the jobs of those that are reached. -/
theorem asks_mapM_of_reached {xs reached : List α} (h : Reached audit s xs reached) :
    Asks (xs.mapM audit : Audit σ _).run (xs.mapM noting : Audit _ _).run s (reached.map job) := by
  cases h with
  | all passed =>
    have all := asks_mapM_append each [] passed (asks_pure _)
    rwa [List.append_nil, List.append_nil] at all
  | upTo after stopped =>
    obtain ⟨ys, s₁, turns, failed⟩ := stopped
    rw [List.map_append]
    refine asks_mapM_append each _ turns ?_
    rw [List.mapM_cons, List.mapM_cons]
    exact (each _ s₁).bind_of_fails failed

end

/-! ### The cases of the catalog -/

/-- A case with a published quality is audited as quality is, unless the figure does not hold for doubles. -/
theorem QualityCase.asks_run {σ : Type} (c : QualityCase) (a : Auditor σ) (data : Table Float) (s : σ) :
    Asks (c.run a data).run (c.run a.recorded data).run s
      (if .double ∈ c.precisions then (c.trial data).qualityJobs c.tolerance else []) := by
  have same : a.recorded.precision = a.precision := rfl
  have known : c.hasReference a.precision = true ↔ .double ∈ c.precisions := List.contains_iff_mem
  simp only [run, same, known]
  split
  · exact a.asks_checkQuality (c.trial data) c.reference (some c.tolerance) s
  · exact Auditor.asks_verdict _ s

namespace LabelCase

variable {σ : Type} {c : LabelCase}

/-- The data of every case form a table. -/
theorem exists_data (member : c ∈ labelCases) : ∃ data, c.data = .ok data := by
  have fits : ∀ c ∈ labelCases, c.values.length = c.values.length / max c.columns 1 * c.columns ∧ c.columns ≠ 0 := by
    decide
  obtain ⟨length, some⟩ := fits c member
  refine ⟨⟨c.values, _, _, length, fun none => absurd none some⟩, ?_⟩
  rw [data, Table.wrap, dif_pos ⟨length, fun none => absurd none some⟩]
  rfl

/-- A case is one job, whatever comes of it. -/
theorem asks_run (a : Auditor σ) {data : Table Float} (read : c.data = .ok data) (s : σ) :
    Asks (c.run a).run (c.run a.recorded).run s [(c.trial data).job (.only .labels)] := by
  rw [run, run, read]
  exact a.asks_judge (c.trial data) _ (fun answer => do compareLabelTables (← requestedLabels answer) c.expectedTable) s

end LabelCase

theorem forall₂_flatten {α β : Type} {R : α → β → Prop} {xs : List α} {yss : List (List β)}
    (h : List.Forall₂ (fun x ys => ∃ y, R x y ∧ ys = [y]) xs yss) : List.Forall₂ R xs yss.flatten := by
  induction h with
  | nil => exact .nil
  | cons first _ ih =>
    obtain ⟨y, related, rfl⟩ := first
    exact .cons related ih

/-- The cases are one job each, whatever comes of them. -/
theorem exists_asks_runLabelCases {σ : Type} (a : Auditor σ) (s : σ) : ∃ jobs,
    List.Forall₂ (fun c job => ∃ data, c.data = .ok data ∧ job = (c.trial data).job (.only .labels)) labelCases jobs ∧
      Asks (runLabelCases a) (runLabelCases a.recorded) s jobs := by
  obtain ⟨calls, turns, asks⟩ := exists_asks_mapM
    (fun c => do pure (c.name, ← (c.run a).run)) (fun c => do pure (c.name, ← (c.run a.recorded).run))
    (C := fun c _ jobs => ∃ job, (∃ data, c.data = .ok data ∧ job = (c.trial data).job (.only .labels)) ∧ jobs = [job])
    labelCases (fun c member s => by
      obtain ⟨data, read⟩ := LabelCase.exists_data member
      exact ⟨_, ⟨_, ⟨data, read, rfl⟩, rfl⟩, (LabelCase.asks_run a read s).bind (asks_pure _)⟩) s
  exact ⟨calls.flatten, forall₂_flatten (turns.forall₂ fun _ _ _ _ step => step.1), asks⟩

/-! ### Any sequence of operations -/

/-- What can be asked of an auditor. -/
inductive Operation where
  | run (t : Trial) (outputs : OutputSet)
  | checkLabels (t : Trial) (reference : Table Label)
  | checkPartition (t : Trial) (reference : List Label)
  | checkQuality (t : Trial) (reference : Float) (tolerance? : Option Float)
  | checkDisclosure (t : Trial) (outputs : OutputSet)
  | runLabelCases
  | runDisclosureChecks (sets : List OutputSet)
  | runQualityCase (c : QualityCase) (data : Table Float)

namespace Operation

/-- What an operation results in. -/
def Result : Operation → Type
  | run .. => Except Failure Answer
  | checkLabels .. => Except Failure (Verdict EqualLabels)
  | checkPartition .. => Except Failure (Verdict EqualPartitions)
  | checkQuality .. => Except Failure (Verdict QualityOutcome)
  | checkDisclosure .. => Except Failure (Verdict DisclosureReport)
  | runLabelCases => List (String × Except Failure (Verdict EqualLabels))
  | runDisclosureChecks _ => Except Failure (List (Verdict DisclosureReport))
  | runQualityCase .. => Except Failure (Verdict QualityOutcome)

variable {σ : Type}

def perform (a : Auditor σ) : (op : Operation) → StateM σ op.Result
  | run t outputs => (a.run t outputs).run
  | checkLabels t reference => (a.checkLabels t reference).run
  | checkPartition t reference => (a.checkPartition t reference).run
  | checkQuality t reference tolerance? => (a.checkQuality t reference tolerance?).run
  | checkDisclosure t outputs => (a.checkDisclosure t outputs).run
  | runLabelCases => DensityAudit.runLabelCases a
  | runDisclosureChecks sets => (DensityAudit.runDisclosureChecks a sets).run
  | runQualityCase c data => (c.run a data).run

/-- The jobs that an operation owes the engine from a state, in order: one for an audit, except that an audit of quality
owes none without a usable tolerance or a figure; one for each case with known labels; and for the disclosure checks one
for each set up to the first whose check fails. -/
def Owes (a : Auditor σ) (s : σ) (jobs : List Job) : Operation → Prop
  | run t outputs => jobs = [t.job outputs]
  | checkLabels t _ => jobs = [t.job (.only .labels)]
  | checkPartition t _ => jobs = [t.job (.only .labels)]
  | checkQuality t _ tolerance? => jobs = t.qualityJobs (tolerance?.getD a.settings.tolerance)
  | checkDisclosure t outputs => jobs = [t.job outputs]
  | runLabelCases =>
    List.Forall₂ (fun c job => ∃ data, c.data = .ok data ∧ job = (c.trial data).job (.only .labels)) labelCases jobs
  | runDisclosureChecks sets => ∃ reached,
    Reached (fun set => a.checkDisclosure (disclosureTrial farApart) set) s sets reached ∧
      jobs = reached.map (disclosureTrial farApart).job
  | runQualityCase c data => jobs = if .double ∈ c.precisions then (c.trial data).qualityJobs c.tolerance else []

/-- Every operation asks for exactly what it owes. -/
theorem exists_asks (a : Auditor σ) (op : Operation) (s : σ) :
    ∃ jobs, op.Owes a s jobs ∧ Asks (op.perform a) (op.perform a.recorded) s jobs := by
  cases op with
  | run t outputs => exact ⟨_, rfl, a.asks_run t outputs s⟩
  | checkLabels t reference =>
    exact ⟨_, rfl, a.asks_judge t _ (fun answer => do compareLabelTables (← requestedLabels answer) reference) s⟩
  | checkPartition t reference =>
    exact ⟨_, rfl, a.asks_judge t _
      (fun answer => do comparePartitions (← readLabels computedColumns (← requestedLabels answer)) reference) s⟩
  | checkQuality t reference tolerance? => exact ⟨_, rfl, a.asks_checkQuality t reference tolerance? s⟩
  | checkDisclosure t outputs => exact ⟨_, rfl, a.asks_judge t outputs (disclosure outputs) s⟩
  | runLabelCases => exact exists_asks_runLabelCases a s
  | runDisclosureChecks sets =>
    obtain ⟨reached, reaches⟩ := exists_reached (fun set => a.checkDisclosure (disclosureTrial farApart) set) sets s
    refine ⟨_, ⟨reached, reaches, rfl⟩, ?_⟩
    rw [perform, perform, runDisclosureChecks_eq, runDisclosureChecks_eq]
    exact asks_mapM_of_reached (fun set s => a.asks_judge _ set (disclosure set) s) reaches
  | runQualityCase c data => exact ⟨_, rfl, c.asks_run a data s⟩

end Operation

/-- Performs the operations in order and keeps every result. -/
def performAll {σ : Type} (a : Auditor σ) (ops : List Operation) : StateM σ (List ((op : Operation) × op.Result)) :=
  ops.mapM fun op => do pure ⟨op, ← op.perform a⟩

/-- The calls of an engine are accounted for. Whichever operations are performed in order, with any engine and from any
state, the engine is given the jobs that each of them owes it, in order, and no others; a job holds the radius, the
threshold, the data and the weights of its trial and the outputs that are asked for. -/
theorem calls_accounted {σ : Type} (a : Auditor σ) (ops : List Operation) (s : σ) :
    (∀ (t : Trial) (outputs : OutputSet), t.job outputs =
      ⟨⟨t.epsilon, t.minObservations, outputs⟩, t.dataset.data, t.dataset.weights?⟩) ∧
    ∃ calls, InTurn (fun op s jobs s' => op.Owes a s jobs ∧ ((op.perform a).run s).2 = s') ops s calls
        ((performAll a ops).run s).2 ∧
      Asks (performAll a ops) (performAll a.recorded ops) s calls.flatten := by
  obtain ⟨calls, turns, asks⟩ := exists_asks_mapM
    (fun op => do pure (⟨op, ← op.perform a⟩ : (op : Operation) × op.Result))
    (fun op => do pure ⟨op, ← op.perform a.recorded⟩) ops (fun op _ s => by
      obtain ⟨jobs, owed, asks⟩ := op.exists_asks a s
      exact ⟨jobs, owed, jobs.append_nil ▸ asks.bind (asks_pure _)⟩) s
  exact ⟨fun _ _ => rfl, calls, turns, asks⟩

end DensityAudit
