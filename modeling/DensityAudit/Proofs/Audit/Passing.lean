import DensityAudit.Audit.Basic
import Mathlib.Data.List.Forall2

/-!
# Audits that pass, alone and in turn

From a state an audit passes or fails, and leaves another state. An audit that runs the engine and judges its answer
passes iff there is an answer and the judgement passes it (`passes_judge_iff`). Audits in turn start each from the state
that the one before leaves (`InTurn`), and a series of them stops at the first that fails (`StopsAt`): this is what
`passes_mapM_iff` and `fails_mapM_iff` say of the results, and `exists_reached` of the audits that are reached.
-/

namespace DensityAudit

variable {σ α β : Type} {s s' s'' : σ} {f : Failure}

/-! ### Runs -/

namespace Auditor

/-- The second step is done from the state that the first one left, if that passed. -/
theorem run_bind (first : Audit σ α) (next : α → Audit σ β) (s : σ) :
    (first >>= next).run.run s = match first.run.run s with
      | (.ok x, s') => (next x).run.run s'
      | (.error f, s') => (.error f, s') := by
  rw [ExceptT.run_bind, StateT.run_bind]
  rcases first.run.run s with ⟨_ | x, s'⟩ <;> rfl

/-- A run gives the answer of the engine, or its error in the context of the trial. -/
theorem run_run (a : Auditor σ) (t : Trial) (outputs : OutputSet) (s : σ) :
    (a.run t outputs).run.run s = match a.engine (t.job outputs) s with
      | (.ok answer, s') => (.ok answer, s')
      | (.error e, s') => (.error ((Failure.engine e).within t.context), s') := by
  show (((a.engine (t.job outputs) s).1.mapError Failure.engine).mapError (Failure.within t.context),
    (a.engine (t.job outputs) s).2) = _
  rcases a.engine (t.job outputs) s with ⟨_ | answer, s'⟩ <;> rfl

/-- What is done after a run depends on the reply of the engine. -/
theorem run_run_then (a : Auditor σ) (t : Trial) (outputs : OutputSet) (next : Answer → Audit σ α) (s : σ) :
    (a.run t outputs >>= next).run.run s = match a.engine (t.job outputs) s with
      | (.ok answer, s') => (next answer).run.run s'
      | (.error e, s') => (.error ((Failure.engine e).within t.context), s') := by
  rw [run_bind, run_run]
  rcases a.engine (t.job outputs) s with ⟨_ | answer, s'⟩ <;> rfl

end Auditor

/-! ### Passing and failing -/

/-- The audit passes with a result. -/
def Audit.Passes (audit : Audit σ α) (s : σ) (x : α) (s' : σ) : Prop := audit.run.run s = (.ok x, s')

/-- The audit fails for a reason. -/
def Audit.Fails (audit : Audit σ α) (s : σ) (f : Failure) (s' : σ) : Prop := audit.run.run s = (.error f, s')

namespace Audit

theorem passes_or_fails (audit : Audit σ α) (s : σ) :
    (∃ x s', audit.Passes s x s') ∨ ∃ f s', audit.Fails s f s' := by
  rcases ran : audit.run.run s with ⟨f | x, s'⟩
  · exact .inr ⟨f, s', ran⟩
  · exact .inl ⟨x, s', ran⟩

theorem passes_pure_iff {x y : α} : (pure x : Audit σ α).Passes s y s' ↔ y = x ∧ s' = s := by
  show (Except.ok x, s) = (Except.ok y, s') ↔ _
  rw [Prod.mk.injEq, Except.ok.injEq, eq_comm, eq_comm (a := s)]

theorem not_fails_pure (x : α) : ¬ (pure x : Audit σ α).Fails s f s' := nofun

/-- Two steps pass iff both do, one after the other. -/
theorem passes_bind_iff {first : Audit σ α} {next : α → Audit σ β} {y : β} :
    (first >>= next : Audit σ β).Passes s y s'' ↔ ∃ x s', first.Passes s x s' ∧ (next x).Passes s' y s'' := by
  rw [Passes, Auditor.run_bind]
  rcases ran : first.run.run s with ⟨f | x, s'⟩
  · refine iff_of_false nofun ?_
    rintro ⟨x, s₁, passed, -⟩
    cases ran.symm.trans passed
  · constructor
    · exact fun passed => ⟨x, s', ran, passed⟩
    · rintro ⟨x', s₁, passed, rest⟩
      cases ran.symm.trans passed
      exact rest

/-- Two steps fail iff the first one does, or passes and the second one fails. -/
theorem fails_bind_iff {first : Audit σ α} {next : α → Audit σ β} :
    (first >>= next : Audit σ β).Fails s f s'' ↔
      first.Fails s f s'' ∨ ∃ x s', first.Passes s x s' ∧ (next x).Fails s' f s'' := by
  rw [Fails, Auditor.run_bind, Fails]
  rcases ran : first.run.run s with ⟨f' | x, s'⟩
  · refine Iff.trans ?_ (or_iff_left ?_).symm
    · rw [Prod.mk.injEq, Prod.mk.injEq, Except.error.injEq, Except.error.injEq]
    · rintro ⟨x, s₁, passed, -⟩
      cases ran.symm.trans passed
  · refine Iff.trans ?_ (or_iff_right nofun).symm
    constructor
    · exact fun failed => ⟨x, s', ran, failed⟩
    · rintro ⟨x', s₁, passed, rest⟩
      cases ran.symm.trans passed
      exact rest

end Audit

namespace Auditor

variable {a : Auditor σ} {t : Trial} {outputs : OutputSet} {answer : Answer}

/-- A run passes iff the engine answers. -/
theorem run_passes_iff : (a.run t outputs).Passes s answer s' ↔ a.engine (t.job outputs) s = (.ok answer, s') := by
  rw [Audit.Passes, run_run]
  rcases a.engine (t.job outputs) s with ⟨e | answer', s₁⟩
  · exact iff_of_false nofun nofun
  · rw [Prod.mk.injEq, Prod.mk.injEq, Except.ok.injEq, Except.ok.injEq]

/-- A run fails iff the engine does, and then with its error in the context of the trial. -/
theorem run_fails_iff : (a.run t outputs).Fails s f s' ↔
    ∃ e, a.engine (t.job outputs) s = (.error e, s') ∧ f = .inContext t.context (.engine e) := by
  rw [Audit.Fails, run_run]
  rcases a.engine (t.job outputs) s with ⟨e | answer, s₁⟩
  · constructor
    · rintro ⟨⟩
      exact ⟨e, rfl, rfl⟩
    · rintro ⟨_, replied, rfl⟩
      cases replied
      rfl
  · exact iff_of_false nofun fun ⟨_, replied, _⟩ => nomatch replied

variable {result : Except Failure α} {v : Verdict α}

theorem verdict_passes_iff : (t.verdict result : Audit σ (Verdict α)).Passes s v s' ↔
    ∃ outcome, result = .ok outcome ∧ v = ⟨t.context, outcome⟩ ∧ s' = s := by
  cases result with
  | error cause => exact iff_of_false nofun nofun
  | ok outcome =>
    constructor
    · rintro ⟨⟩
      exact ⟨outcome, rfl, rfl, rfl⟩
    · rintro ⟨_, ⟨⟩, rfl, rfl⟩
      rfl

theorem verdict_fails_iff : (t.verdict result : Audit σ (Verdict α)).Fails s f s' ↔
    ∃ cause, result = .error cause ∧ f = cause.within t.context ∧ s' = s := by
  cases result with
  | ok outcome => exact iff_of_false nofun nofun
  | error cause =>
    constructor
    · rintro ⟨⟩
      exact ⟨cause, rfl, rfl, rfl⟩
    · rintro ⟨_, ⟨⟩, rfl, rfl⟩
      rfl

variable (judge : Answer → Except Failure α)

/-- What is judged passes iff the engine answers and the judgement passes the answer. -/
theorem passes_judge_iff :
    (a.run t outputs >>= fun answer => t.verdict (judge answer) : Audit σ (Verdict α)).Passes s v s' ↔
      ∃ answer outcome, a.engine (t.job outputs) s = (.ok answer, s') ∧ judge answer = .ok outcome ∧
        v = ⟨t.context, outcome⟩ := by
  simp only [Audit.passes_bind_iff, run_passes_iff, verdict_passes_iff]
  constructor
  · rintro ⟨answer, _, answered, outcome, judged, rfl, rfl⟩
    exact ⟨answer, outcome, answered, judged, rfl⟩
  · rintro ⟨answer, outcome, answered, judged, rfl⟩
    exact ⟨answer, s', answered, outcome, judged, rfl, rfl⟩

/-- What is judged fails with the engine, or as the judgement of its answer does. -/
theorem fails_judge_iff :
    (a.run t outputs >>= fun answer => t.verdict (judge answer) : Audit σ (Verdict α)).Fails s f s' ↔
      (∃ e, a.engine (t.job outputs) s = (.error e, s') ∧ f = .inContext t.context (.engine e)) ∨
      ∃ answer cause, a.engine (t.job outputs) s = (.ok answer, s') ∧ judge answer = .error cause ∧
        f = cause.within t.context := by
  simp only [Audit.fails_bind_iff, run_fails_iff, run_passes_iff, verdict_fails_iff]
  refine or_congr_right ⟨?_, ?_⟩
  · rintro ⟨answer, _, answered, cause, judged, rfl, rfl⟩
    exact ⟨answer, cause, answered, judged, rfl⟩
  · rintro ⟨answer, cause, answered, judged, rfl⟩
    exact ⟨answer, s', answered, cause, judged, rfl, rfl⟩

end Auditor

/-! ### Audits in turn -/

/-- Steps in turn, one for each item: every step has a result and starts from the state that the one before leaves. -/
inductive InTurn (step : α → σ → β → σ → Prop) : List α → σ → List β → σ → Prop where
  | nil (s : σ) : InTurn step [] s [] s
  | cons {x : α} {xs : List α} {y : β} {ys : List β} {s s' s'' : σ} (first : step x s y s')
      (rest : InTurn step xs s' ys s'') : InTurn step (x :: xs) s (y :: ys) s''

theorem inTurn_cons_iff {step : α → σ → β → σ → Prop} {x : α} {xs : List α} {zs : List β} :
    InTurn step (x :: xs) s zs s'' ↔
      ∃ y s' ys, step x s y s' ∧ InTurn step xs s' ys s'' ∧ zs = y :: ys := by
  constructor
  · intro turns
    cases turns with
    | cons first rest => exact ⟨_, _, _, first, rest, rfl⟩
  · rintro ⟨y, s', ys, first, rest, rfl⟩
    exact .cons first rest

/-- The results are those of the steps, whatever the states. -/
theorem InTurn.forall₂ {step : α → σ → β → σ → Prop} {R : α → β → Prop} {xs : List α} {ys : List β}
    (turns : InTurn step xs s ys s') (each : ∀ x s y s', step x s y s' → R x y) : List.Forall₂ R xs ys := by
  induction turns with
  | nil => exact .nil
  | cons first _ ih => exact .cons (each _ _ _ _ first) ih

section

variable {audit : α → Audit σ β}

/-- A series of audits stops at an item: the audits of the items before it pass, and its own fails. -/
def StopsAt (audit : α → Audit σ β) (s : σ) (before : List α) (x : α) (f : Failure) (s' : σ) : Prop :=
  ∃ ys s₁, InTurn (fun y => (audit y).Passes) before s ys s₁ ∧ (audit x).Fails s₁ f s'

/-- A series passes iff its audits pass in turn. -/
theorem passes_mapM_iff {xs : List α} {ys : List β} :
    (xs.mapM audit : Audit σ (List β)).Passes s ys s' ↔ InTurn (fun x => (audit x).Passes) xs s ys s' := by
  induction xs generalizing s ys with
  | nil =>
    rw [List.mapM_nil, Audit.passes_pure_iff]
    constructor
    · rintro ⟨rfl, rfl⟩
      exact .nil _
    · rintro ⟨⟩
      exact ⟨rfl, rfl⟩
  | cons x xs ih =>
    rw [List.mapM_cons, inTurn_cons_iff]
    simp only [Audit.passes_bind_iff, Audit.passes_pure_iff]
    constructor
    · rintro ⟨y, s₁, first, ys, s₂, rest, rfl, rfl⟩
      exact ⟨y, s₁, ys, first, ih.1 rest, rfl⟩
    · rintro ⟨y, s₁, ys, first, rest, rfl⟩
      exact ⟨y, s₁, first, ys, s', ih.2 rest, rfl, rfl⟩

/-- A series fails as the first of its audits that fails. -/
theorem fails_mapM_iff {xs : List α} :
    (xs.mapM audit : Audit σ (List β)).Fails s f s' ↔
      ∃ before x after, xs = before ++ x :: after ∧ StopsAt audit s before x f s' := by
  induction xs generalizing s with
  | nil => exact iff_of_false (Audit.not_fails_pure _) fun ⟨before, x, after, same, _⟩ => by simp at same
  | cons x xs ih =>
    rw [List.mapM_cons]
    simp only [Audit.fails_bind_iff, Audit.not_fails_pure, and_false, exists_false, or_false, ih]
    -- either the head fails, with nothing before it, or it passes and the failure is in the tail, from the head's state
    constructor
    · rintro (failed | ⟨y, s₁, first, before, x', after, rfl, ys, s₂, turns, failed⟩)
      · exact ⟨[], x, xs, rfl, [], s, .nil s, failed⟩
      · exact ⟨x :: before, x', after, rfl, y :: ys, s₂, .cons first turns, failed⟩
    · rintro ⟨before, x', after, same, ys, s₂, turns, failed⟩
      cases turns with
      | nil =>
        obtain ⟨rfl, rfl⟩ := List.cons.inj same
        exact .inl failed
      | cons first turns =>
        obtain ⟨rfl, rfl⟩ := List.cons.inj same
        exact .inr ⟨_, _, first, _, x', after, rfl, _, s₂, turns, failed⟩

/-- The items of a series whose audits are reached: all of them if all pass, and else those up to the one that fails. -/
inductive Reached (audit : α → Audit σ β) (s : σ) : List α → List α → Prop where
  | all {xs : List α} {ys : List β} {s' : σ} (passed : InTurn (fun x => (audit x).Passes) xs s ys s') :
      Reached audit s xs xs
  | upTo {before : List α} {x : α} (after : List α) {f : Failure} {s' : σ} (stopped : StopsAt audit s before x f s') :
      Reached audit s (before ++ x :: after) (before ++ [x])

theorem exists_reached (audit : α → Audit σ β) (xs : List α) (s : σ) : ∃ reached, Reached audit s xs reached := by
  rcases (xs.mapM audit : Audit σ (List β)).passes_or_fails s with ⟨ys, s', passed⟩ | ⟨f, s', failed⟩
  · exact ⟨xs, .all (passes_mapM_iff.1 passed)⟩
  · obtain ⟨before, x, after, rfl, stopped⟩ := fails_mapM_iff.1 failed
    exact ⟨before ++ [x], .upTo after stopped⟩

end

end DensityAudit
