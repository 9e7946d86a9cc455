import DensityAudit.Density.Exhaustive
import DensityAudit.Proofs.Audit.Passing
import DensityAudit.Proofs.Audit.Reasons

/-!
# What the failure of an audit tells

An audit runs the engine once and judges the answer, or judges without running it. Either way a failure has the
trial's context and no other, and below it the error of the engine exactly if the engine was called and failed
(`Faithful`); otherwise one of the audit's own reasons. `faithful_of_judge` shows this for every audit that
runs the engine and then judges, and `audits_fail_faithfully` collects the five audits.
-/

namespace DensityAudit

/-! ### Contexts -/

namespace Failure

/-- Contexts do not change what a failure is. -/
structure Classified (f : Failure) : Prop where
  /-- The root is in no context. -/
  root_context : f.root.context? = none
  root : ∀ c, (f.within c).root = f.root
  engineError : ∀ c, (f.within c).engineError? = f.engineError?
  isContract : ∀ c, (f.within c).isContract = f.isContract
  isMismatch : ∀ c, (f.within c).isMismatch = f.isMismatch
  isUndefinedQuality : ∀ c, (f.within c).isUndefinedQuality = f.isUndefinedQuality
  isEngine : ∀ c, (f.within c).isEngine = f.isEngine
  /-- The context that comes first stays. -/
  context : ∀ c, (f.within c).context? = some (f.context?.getD c)
  within : ∀ c c', (f.within c).within c' = f.within c

variable {f : Failure}

/-- However deep the contexts are nested, there is a cause below all of them. -/
theorem context?_root (f : Failure) : f.root.context? = none := by
  induction f with
  | inContext context cause ih => exact ih
  | _ => rfl

/-- A context does not change what is below all contexts. -/
theorem root_within (f : Failure) (c : Context) : (f.within c).root = f.root := by
  cases f <;> rfl

theorem classified (f : Failure) : f.Classified where
  root_context := f.context?_root
  root c := f.root_within c
  engineError c := by rw [engineError?, engineError?, root_within]
  isContract c := by rw [isContract, Failure.isContract, root_within]
  isMismatch c := by rw [isMismatch, Failure.isMismatch, root_within]
  isUndefinedQuality c := by rw [isUndefinedQuality, Failure.isUndefinedQuality, root_within]
  isEngine c := by rw [isEngine, isEngine, engineError?, engineError?, root_within]
  context c := by cases f <;> rfl
  within c c' := by cases f <;> rfl

theorem within_of_context?_eq_none (h : f.context? = none) (c : Context) : f.within c = .inContext c f := by
  cases f with
  | inContext => cases h
  | _ => rfl

theorem root_of_context?_eq_none (h : f.context? = none) : f.root = f := by
  cases f with
  | inContext => cases h
  | _ => rfl

/-- A context hides nothing. -/
theorem root_within_of_context?_eq_none (h : f.context? = none) (c : Context) : (f.within c).root = f := by
  rw [root_within, root_of_context?_eq_none h]

end Failure

/-! ### Replies of an engine -/

/-- The engine that also notes its replies, in order. -/
def Engine.replying {σ : Type} (engine : Engine σ) : Engine (σ × List (Except EngineError Answer)) :=
  fun job state =>
    let (reply, inner) := engine job state.1
    (reply, inner, state.2 ++ [reply])

def Auditor.replying {σ : Type} (a : Auditor σ) : Auditor (σ × List (Except EngineError Answer)) :=
  ⟨a.engine.replying, a.settings⟩

/-- A failure of a trial tells what happened: it is in the trial's context, the engine is its cause exactly if the engine
replied with this error, and otherwise its cause is one of the audit's own. -/
structure Faithful (t : Trial) (replies : List (Except EngineError Answer)) (own : Failure → Prop) (f : Failure) : Prop where
  /-- The context of the trial is the only one. -/
  context : ∃ cause, f = .inContext ⟨t.dataset.name, t.epsilon, t.minObservations⟩ cause ∧ cause.context? = none
  root_iff : ∀ e, f.root = .engine e ↔ Except.error e ∈ replies
  engineError_iff : ∀ e, f.engineError? = some e ↔ Except.error e ∈ replies
  own : (∀ e, Except.error e ∉ replies) → own f.root

/-- Whenever an audit of a trial fails, with any engine and settings and from any state, its failure tells what
happened. -/
def FailsFaithfully {α : Type} (t : Trial) (audit : (σ : Type) → Auditor σ → Audit σ α) (own : Failure → Prop) : Prop :=
  ∀ (σ : Type) (a : Auditor σ) (s s' : σ) (f : Failure), (audit σ a).run.run s = (.error f, s') →
    ∃ replies, (audit _ a.replying).run.run (s, []) = (.error f, s', replies) ∧ Faithful t replies own f

section

variable {t : Trial} {own : Failure → Prop} {replies : List (Except EngineError Answer)} {cause : Failure}

theorem engineError?_eq_some_iff {f : Failure} {e : EngineError} : f.engineError? = some e ↔ f.root = .engine e := by
  rw [Failure.engineError?]
  cases f.root <;> simp

/-- A failure of the audit's own. -/
theorem faithful_of_own (direct : cause.Direct) (listed : own cause) (quiet : ∀ e, Except.error e ∉ replies) :
    Faithful t replies own (cause.within t.context) := by
  have root := Failure.root_within_of_context?_eq_none direct.context t.context
  have silent : ∀ e, (cause.within t.context).engineError? ≠ some e := by
    intro e
    rw [(Failure.classified cause).engineError, direct.engine]
    exact nofun
  refine ⟨⟨cause, Failure.within_of_context?_eq_none direct.context _, direct.context⟩, fun e => ?_, fun e => ?_, fun _ => ?_⟩
  · rw [← engineError?_eq_some_iff]
    exact iff_of_false (silent e) (quiet e)
  · exact iff_of_false (silent e) (quiet e)
  · rw [root]
    exact listed

/-- A failure of the engine. -/
theorem faithful_of_engine (e : EngineError) : Faithful t [.error e] own ((Failure.engine e).within t.context) := by
  have told : ∀ e', (Failure.engine e : Failure) = .engine e' ↔ Except.error e' ∈ [(.error e : Except EngineError Answer)] := by
    intro e'
    rw [List.mem_singleton, Failure.engine.injEq, Except.error.injEq, eq_comm]
  refine ⟨⟨.engine e, rfl, rfl⟩, told, fun e' => ?_, fun quiet => ?_⟩
  · rw [engineError?_eq_some_iff]
    exact told e'
  · exact absurd (List.mem_singleton.2 rfl) (quiet e)

end

/-! ### Runs -/

namespace Auditor

variable {σ α : Type} {t : Trial} {own : Failure → Prop} {a : Auditor σ} {s s' : σ} {f : Failure}

/-- The first reply of an engine is noted as it is. -/
theorem replying_engine {job : Job} {reply : Except EngineError Answer} (called : a.engine job s = (reply, s')) :
    a.replying.engine job (s, []) = (reply, s', [reply]) := by
  show ((a.engine job s).1, (a.engine job s).2, [] ++ [(a.engine job s).1]) = _
  rw [called]
  rfl

/-- An audit that runs the engine and then judges the answer fails faithfully. -/
theorem faithful_of_judge {outputs : OutputSet} (judge : Answer → Except Failure α) {audit : Audit σ (Verdict α)}
    {noted : Audit (σ × List (Except EngineError Answer)) (Verdict α)}
    (same : audit = a.run t outputs >>= fun answer => t.verdict (judge answer))
    (same' : noted = a.replying.run t outputs >>= fun answer => t.verdict (judge answer))
    (direct : ∀ f, own f → f.Direct) (reasons : ∀ answer, FailsOnly own (judge answer))
    (failed : audit.run.run s = (.error f, s')) :
    ∃ replies, noted.run.run (s, []) = (.error f, s', replies) ∧ Faithful t replies own f := by
  subst same same'
  rw [run_run_then] at failed
  rcases called : a.engine (t.job outputs) s with ⟨e | answer, inner⟩
  · rw [called] at failed
    cases failed
    refine ⟨[.error e], ?_, faithful_of_engine e⟩
    rw [run_run_then, replying_engine called]
  · rw [called] at failed
    obtain ⟨cause, judged, rfl, rfl⟩ := verdict_fails_iff.1 failed
    have listed := reasons answer cause judged
    refine ⟨[.ok answer], ?_, faithful_of_own (direct cause listed) listed fun e member => ?_⟩
    · rw [run_run_then, replying_engine called]
      show (t.verdict (judge answer) : Audit _ _).run.run _ = _
      rw [judged]
      rfl
    · cases List.mem_singleton.1 member

/-! ### The audits -/

/-- A run fails only with the error of the engine. -/
theorem run_failsFaithfully (t : Trial) (outputs : OutputSet) :
    FailsFaithfully t (fun _ a => a.run t outputs) fun _ => False := by
  intro σ a s s' f failed
  change (a.run t outputs).run.run s = _ at failed
  show ∃ replies, (a.replying.run t outputs).run.run (s, []) = _ ∧ _
  rw [run_run] at failed
  rcases called : a.engine (t.job outputs) s with ⟨e | answer, inner⟩
  · rw [called] at failed
    cases failed
    refine ⟨[.error e], ?_, faithful_of_engine e⟩
    rw [run_run, replying_engine called]
  · rw [called] at failed
    cases failed

theorem checkLabels_failsFaithfully (t : Trial) (reference : Table Label) :
    FailsFaithfully t (fun _ a => a.checkLabels t reference) LabelsFailure := by
  intro σ a s s' f failed
  refine faithful_of_judge (fun answer => do compareLabelTables (← requestedLabels answer) reference) rfl rfl
    (fun _ => LabelsFailure.direct) (fun answer => ?_) failed
  exact (failsOnly_requestedLabels .unreadable answer).bind fun labels => failsOnly_compareLabelTables labels reference

theorem checkPartition_failsFaithfully (t : Trial) (reference : List Label) :
    FailsFaithfully t (fun _ a => a.checkPartition t reference) PartitionFailure := by
  intro σ a s s' f failed
  refine faithful_of_judge
    (fun answer => do comparePartitions (← readLabels computedColumns (← requestedLabels answer)) reference) rfl rfl
    (fun _ => PartitionFailure.direct) (fun answer => ?_) failed
  exact failsOnly_answered .unreadable (fun labels => failsOnly_comparePartitions labels reference) answer

/-- Quality is judged without a run if the tolerance can accept nothing. -/
theorem checkQuality_failsFaithfully (t : Trial) (reference : Float) (tolerance? : Option Float) :
    FailsFaithfully t (fun _ a => a.checkQuality t reference tolerance?) QualityFailure := by
  intro σ a s s' f failed
  cases valid : isTolerance (tolerance?.getD a.settings.tolerance) with
  | true =>
    -- the settings, and so the tolerance, are the same for the engine that notes its replies
    let judge (answer : Answer) : Except Failure QualityOutcome :=
      if answer.clusterCount < 2 then .ok (.skipped answer.clusterCount)
      else (compareQuality t answer reference (tolerance?.getD a.settings.tolerance)).map (.compared answer.clusterCount)
    have same : ∀ {τ : Type} (b : Auditor τ), b.settings = a.settings →
        b.checkQuality t reference tolerance? = b.run t (.only .labels) >>= fun answer => t.verdict (judge answer) := by
      intro τ b settings
      simp only [checkQuality, settings, judge, apply_ite, valid, if_true]
    refine faithful_of_judge judge (same a rfl) (same a.replying rfl) (fun _ => QualityFailure.direct) (fun answer => ?_) failed
    show FailsOnly QualityFailure (if answer.clusterCount < 2 then _ else _)
    split
    · exact .ok _
    · exact ((failsOnly_compareQuality t answer reference _).mono fun _ judged => judged.listed).map
  | false =>
    have same : ∀ {τ : Type} (b : Auditor τ), b.settings = a.settings →
        b.checkQuality t reference tolerance? =
          t.verdict (.error (.invalidTolerance (tolerance?.getD a.settings.tolerance))) := by
      intro τ b settings
      simp only [checkQuality, settings, valid, Bool.false_eq_true, if_false]
    simp only [same a rfl] at failed
    obtain ⟨cause, judged, rfl, rfl⟩ := verdict_fails_iff.1 failed
    cases judged
    refine ⟨[], ?_, faithful_of_own ⟨rfl, rfl⟩ (.invalidTolerance _) fun e => List.not_mem_nil⟩
    simp only [same a.replying rfl]
    rfl

theorem checkDisclosure_failsFaithfully (t : Trial) (outputs : OutputSet) :
    FailsFaithfully t (fun _ a => a.checkDisclosure t outputs) DisclosureFailure := by
  intro σ a s s' f failed
  exact faithful_of_judge (disclosure outputs) rfl rfl (fun _ => DisclosureFailure.direct) (failsOnly_disclosure outputs) failed

end Auditor

/-- Failures tell the truth. Whichever engine is audited, a failed audit of a trial is in the trial's context alone, has
the engine's error as its cause exactly if the engine was called and replied with it, and otherwise a cause of the
audit's own; and no context, however deep, changes what a failure is. -/
theorem audits_fail_faithfully (t : Trial) :
    (∀ outputs, FailsFaithfully t (fun _ a => a.run t outputs) fun _ => False) ∧
    (∀ reference, FailsFaithfully t (fun _ a => a.checkLabels t reference) LabelsFailure) ∧
    (∀ reference, FailsFaithfully t (fun _ a => a.checkPartition t reference) PartitionFailure) ∧
    (∀ reference tolerance?, FailsFaithfully t (fun _ a => a.checkQuality t reference tolerance?) QualityFailure) ∧
    (∀ outputs, FailsFaithfully t (fun _ a => a.checkDisclosure t outputs) DisclosureFailure) ∧
    ∀ f : Failure, f.Classified :=
  ⟨Auditor.run_failsFaithfully t, Auditor.checkLabels_failsFaithfully t, Auditor.checkPartition_failsFaithfully t,
    Auditor.checkQuality_failsFaithfully t, Auditor.checkDisclosure_failsFaithfully t, Failure.classified⟩

/-- A trial without rows, which no engine can cluster. -/
def emptyTrial : Trial := ⟨⟨"empty", Table.empty 2, none⟩, 0.5, 3⟩

theorem audits_fail_faithfully_emptyTrial :
    let auditor : Auditor Unit := ⟨Density.exhaustive, .standard⟩
    let f : Failure := .inContext ⟨"empty", 0.5, 3⟩ (.engine .emptyInput)
    (auditor.checkLabels emptyTrial (Table.column [])).run.run () = (.error f, ()) ∧
      ∃ replies, (auditor.replying.checkLabels emptyTrial (Table.column [])).run.run ((), []) = (.error f, (), replies) ∧
        Faithful emptyTrial replies LabelsFailure f := by
  intro auditor f
  have failed : (auditor.checkLabels emptyTrial (Table.column [])).run.run () = (.error f, ()) := rfl
  exact ⟨failed, (audits_fail_faithfully emptyTrial).2.1 (Table.column []) Unit auditor () () f failed⟩

end DensityAudit
