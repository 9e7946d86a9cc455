import DensityAudit.Catalog.Disclosure
import DensityAudit.Proofs.Audit.Passing
import DensityAudit.Proofs.Engine.Disclosure
import DensityAudit.Table.Lemmas

/-!
# Audits of disclosure

Whatever an engine answers, only which outputs can be read decides an audit of disclosure: it passes if they are the
requested ones, and otherwise fails with the first of the outputs that makes the difference. The disclosure checks are a
series of such audits on one trial. `disclosure_audited` collects what both find.
-/

namespace DensityAudit

variable {σ : Type} {a : Auditor σ} {t : Trial} {requested : OutputSet} {s s' : σ} {f : Failure}

namespace Auditor

/-- The audit passes iff the engine answers and exactly the requested outputs can be read. -/
theorem checkDisclosure_passes_iff {v : Verdict DisclosureReport} : (a.checkDisclosure t requested).Passes s v s' ↔
    ∃ answer, a.engine (t.job requested) s = (.ok answer, s') ∧ (∀ o, requested.contains o = answer.readable o) ∧
      v = ⟨t.context, .expected requested⟩ := by
  refine (passes_judge_iff (disclosure requested)).trans ?_
  simp only [disclosure_eq_ok_iff]
  constructor
  · rintro ⟨answer, _, answered, ⟨agree, rfl⟩, rfl⟩
    exact ⟨answer, answered, agree, rfl⟩
  · rintro ⟨answer, answered, agree, rfl⟩
    exact ⟨answer, _, answered, ⟨agree, rfl⟩, rfl⟩

/-- The audit fails with the error of the engine, or with the first output that makes a difference. -/
theorem checkDisclosure_fails_iff : (a.checkDisclosure t requested).Fails s f s' ↔
    (∃ e, a.engine (t.job requested) s = (.error e, s') ∧ f = .inContext t.context (.engine e)) ∨
    ∃ answer o, a.engine (t.job requested) s = (.ok answer, s') ∧ firstViolation? requested answer = some o ∧
      f = .inContext t.context (violation requested o) := by
  refine (fails_judge_iff (disclosure requested)).trans (or_congr_right ?_)
  simp only [disclosure_eq_error_iff]
  constructor
  · rintro ⟨answer, _, answered, ⟨o, first, rfl⟩, rfl⟩
    exact ⟨answer, o, answered, first, rfl⟩
  · rintro ⟨answer, o, answered, first, rfl⟩
    exact ⟨answer, _, answered, ⟨o, first, rfl⟩, rfl⟩

end Auditor

/-! ### The disclosure checks -/

/-- The data of the disclosure checks. -/
def farApart : Table Float := ⟨farApartValues, 3, 5, rfl, by decide⟩

/-- The disclosure checks are audits of one trial. -/
theorem runDisclosureChecks_eq (a : Auditor σ) (sets : List OutputSet) :
    runDisclosureChecks a sets = sets.mapM fun set => a.checkDisclosure (disclosureTrial farApart) set := by
  have wrapped : Table.wrap farApartValues 3 5 = .ok farApart := farApart.wrap_values
  rw [runDisclosureChecks, wrapped]
  rfl

/-- Audits of disclosure that pass in turn report the sets in turn. -/
theorem verdicts_of_inTurn {sets : List OutputSet} {vs : List (Verdict DisclosureReport)}
    (turns : InTurn (fun set => (a.checkDisclosure t set).Passes) sets s vs s') :
    vs = sets.map fun set => ⟨t.context, .expected set⟩ := by
  have each : List.Forall₂ (fun set v => v = ⟨t.context, .expected set⟩) sets vs :=
    turns.forall₂ fun set s v s' passed => by
      obtain ⟨answer, -, -, rfl⟩ := Auditor.checkDisclosure_passes_iff.1 passed
      rfl
  clear turns
  induction each with
  | nil => rfl
  | cons first _ ih => rw [List.map_cons, first, ih]

/-- An audit of disclosure passes iff the engine answers and exactly the requested outputs can be read, and then reports
all four outputs; else it fails with the engine, or with the first output that can be read without being requested or
the other way round. The disclosure checks pass iff such audits of the sets pass in turn, with their verdicts, and fail
as the first that does not. -/
theorem disclosure_audited (a : Auditor σ) (s : σ) :
    (∀ t requested v s', (a.checkDisclosure t requested).Passes s v s' ↔
      ∃ answer, a.engine (t.job requested) s = (.ok answer, s') ∧ (∀ o, requested.contains o = answer.readable o) ∧
        v = ⟨t.context, .expected requested⟩) ∧
    (∀ t requested f s', (a.checkDisclosure t requested).Fails s f s' ↔
      (∃ e, a.engine (t.job requested) s = (.error e, s') ∧ f = .inContext t.context (.engine e)) ∨
      ∃ answer o, a.engine (t.job requested) s = (.ok answer, s') ∧ firstViolation? requested answer = some o ∧
        f = .inContext t.context (violation requested o)) ∧
    (∀ requested answer, firstViolation? requested answer = none ↔
      ∀ o, requested.contains o = answer.readable o) ∧
    (∀ sets vs s', (runDisclosureChecks a sets).Passes s vs s' ↔
      InTurn (fun set => (a.checkDisclosure (disclosureTrial farApart) set).Passes) sets s vs s' ∧
        vs = sets.map fun set => ⟨(disclosureTrial farApart).context, .expected set⟩) ∧
    ∀ sets f s', (runDisclosureChecks a sets).Fails s f s' ↔ ∃ before set after, sets = before ++ set :: after ∧
      StopsAt (fun set => a.checkDisclosure (disclosureTrial farApart) set) s before set f s' := by
  refine ⟨fun _ _ _ _ => Auditor.checkDisclosure_passes_iff, fun _ _ _ _ => Auditor.checkDisclosure_fails_iff,
    fun _ _ => firstViolation?_eq_none_iff, fun sets vs s' => ?_, fun sets f s' => ?_⟩
  · rw [runDisclosureChecks_eq, passes_mapM_iff]
    exact (and_iff_left_of_imp verdicts_of_inTurn).symm
  · rw [runDisclosureChecks_eq, fails_mapM_iff]

end DensityAudit
