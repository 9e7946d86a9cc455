import DensityAudit.Density.Exhaustive
import DensityAudit.Proofs.Engine.Disclosure
import DensityAudit.Table.Lemmas

/-!
# The outputs of the exhaustive engine

Every output comes from one labelling of the job, which does not depend on the requested set: an output is
the same table in every answer that holds it, and an answer holds exactly the requested outputs
(`answer_asking`). The core rows always form a table, so that a job without a fault is always answered.
-/

namespace DensityAudit

/-- The same job with another set of requested outputs. -/
def Job.asking (job : Job) (outputs : OutputSet) : Job :=
  { job with request := { job.request with outputs := outputs } }

namespace Density

/-- Whether a job has a fault does not depend on what is asked for. -/
theorem fault?_asking (job : Job) (outputs : OutputSet) : fault? (job.asking outputs) = fault? job := rfl

/-- The core rows fit into a table of as many columns as the data, also if there are none. -/
theorem exists_coreRows (data : Table Float) (g : Graph) : ∃ rows, coreRows data g = .ok rows := by
  have widths : ∀ row ∈ ((data.rows.zip g.coreFlags).filter Prod.snd).map Prod.fst, row.length = data.columnCount := by
    intro row member
    obtain ⟨pair, picked, rfl⟩ := List.mem_map.1 member
    exact Table.length_of_mem_rows (List.of_mem_zip (List.mem_filter.1 picked).1).1
  have total := Table.length_flatten_of_width widths
  rw [List.length_map] at total
  have none : data.columnCount = 0 → ((data.rows.zip g.coreFlags).filter Prod.snd).length = 0 := by
    intro columns
    have rows : data.rows = [] := by
      rw [← List.length_eq_zero_iff, Table.length_rows, data.rowCount_of_no_columns columns]
    rw [rows]
    rfl
  exact ⟨⟨_, _, _, total, none⟩, by simp only [coreRows, Table.wrap, dif_pos (And.intro total none)]; rfl⟩

/-- The table of each output of a job, given its core rows. -/
def outputTable (job : Job) (rows : Table Float) : (o : Output) → Table o.Value
  | .labels => Table.column (graph job).labels
  | .coreFlags => Table.column (graph job).coreFlags
  | .coreRows => rows
  | .coreIndices => Table.column (graph job).coreIndices

/-- An answer with the given outputs of a job, and no others. -/
structure Holds (job : Job) (rows : Table Float) (asked : OutputSet) (a : Answer) : Prop where
  outputs : a.outputs = asked
  clusterCount : a.clusterCount = (graph job).clusterCount
  read : ∀ o, a.read o = if asked.contains o then .ok (outputTable job rows o) else .error (.notRequested o)

theorem stored_ite {α : Type} (o : Output) (asked : Bool) (t : Table α) :
    Answer.stored o (if asked then some t else none) = if asked then .ok t else .error (.notRequested o) := by
  cases asked <;> rfl

/-- Whatever is asked for, the answer holds these outputs of the job. -/
theorem answerSound_asking {job : Job} {rows : Table Float} (built : coreRows job.data (graph job) = .ok rows)
    (asked : OutputSet) : ∃ a, answerSound (job.asking asked) = .ok a ∧ Holds job rows asked a := by
  refine ⟨⟨asked, (graph job).clusterCount, if asked.contains .labels then some (Table.column (graph job).labels) else none,
    if asked.contains .coreFlags then some (Table.column (graph job).coreFlags) else none,
    if asked.contains .coreRows then some rows else none,
    if asked.contains .coreIndices then some (Table.column (graph job).coreIndices) else none⟩, ?_, rfl, rfl, ?_⟩
  · show (if asked.contains .coreRows then (coreRows job.data (graph job)).map _ else _) = _
    rw [built]
    cases asked.contains .coreRows <;> rfl
  · intro o
    cases o <;> exact stored_ite ..

/-- An answer that holds the requested outputs shows them and nothing else. -/
theorem Holds.shows {job : Job} {rows : Table Float} {asked : OutputSet} {a : Answer} (h : Holds job rows asked a) :
    a.Shows asked := by
  rw [← h.outputs]
  apply Answer.shows_of_readable
  intro o
  have read := h.read o
  rw [h.outputs]
  cases member : asked.contains o with
  | true => rw [member, if_pos rfl] at read; rw [Answer.readable_of_read read]
  | false => rw [member, if_neg Bool.false_ne_true] at read; rw [Answer.not_readable_of_read read]

/-- A job without a fault is answered, with the same tables for every requested set. -/
theorem answer_asking {job : Job} (sound : fault? job = none) :
    ∃ rows, ∀ outputs, ∃ a, answer (job.asking outputs) = .ok a ∧ Holds job rows outputs a := by
  obtain ⟨rows, built⟩ := exists_coreRows job.data (graph job)
  refine ⟨rows, fun outputs => ?_⟩
  rw [answer, fault?_asking, sound]
  exact answerSound_asking built outputs

/-- A job with a fault is refused whatever is asked for. -/
theorem answer_asking_of_fault {job : Job} {cause : EngineError} (faulty : fault? job = some cause) (outputs : OutputSet) :
    answer (job.asking outputs) = .error cause := by
  rw [answer, fault?_asking, faulty]

/-- What is requested does not influence what is computed. Two requests for outputs of one job fail with one
error, or are answered with one number of clusters, with the same table for every output in both requests,
and with no output that was not requested. -/
theorem answer_independent_of_request (job : Job) (A B : OutputSet) :
    (∀ cause, answer (job.asking A) = .error cause ↔ answer (job.asking B) = .error cause) ∧
    ∀ a b, answer (job.asking A) = .ok a → answer (job.asking B) = .ok b →
      a.Shows A ∧ b.Shows B ∧ a.clusterCount = b.clusterCount ∧
      ∀ o, A.contains o = true → B.contains o = true → ∃ t, a.read o = .ok t ∧ b.read o = .ok t := by
  cases faulty : fault? job with
  | some cause =>
    rw [answer_asking_of_fault faulty, answer_asking_of_fault faulty]
    exact ⟨fun _ => Iff.rfl, fun a _ answered => nomatch answered⟩
  | none =>
    obtain ⟨rows, answered⟩ := answer_asking faulty
    obtain ⟨a, first, holds⟩ := answered A
    obtain ⟨b, second, holds'⟩ := answered B
    rw [first, second]
    refine ⟨fun _ => ⟨nofun, nofun⟩, ?_⟩
    rintro _ _ ⟨⟩ ⟨⟩
    refine ⟨holds.shows, holds'.shows, holds.clusterCount.trans holds'.clusterCount.symm, fun o inA inB => ?_⟩
    refine ⟨outputTable job rows o, ?_, ?_⟩
    · rw [holds.read, if_pos inA]
    · rw [holds'.read, if_pos inB]

end Density

end DensityAudit
