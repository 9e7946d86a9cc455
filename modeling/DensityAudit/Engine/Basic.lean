import DensityAudit.Engine.Answer
import DensityAudit.Request.Basic

/-!
# Clustering engines

An engine turns a job into an answer or an error. It may keep a state of its own from call to call,
so an audit cannot assume that two equal jobs get equal answers. `Engine.recorded` notes every job
that an engine is given, which is what accounts of its calls are stated on.
-/

namespace DensityAudit

/-- One call of an engine: the request, the data, and a weight for each row, or one for all if absent. -/
structure Job where
  request : Request
  data : Table Float
  weights? : Option (Table Float)

/-- A clustering engine with a state of type `σ`. -/
abbrev Engine (σ : Type) := Job → StateM σ (Except EngineError Answer)

namespace Engine

/-- The engine that answers every job by a function. -/
def ofFunction {σ : Type} (answer : Job → Except EngineError Answer) : Engine σ :=
  fun job => pure (answer job)

/-- The engine that gives the same answer to every job, under the name of the outputs that were requested. -/
def fixed {σ : Type} (answer : Answer) : Engine σ :=
  ofFunction fun job => .ok { answer with outputs := job.request.outputs }

def failing {σ : Type} (cause : EngineError) : Engine σ := ofFunction fun _ => .error cause

/-- The engine that also notes the jobs it is given, in order. -/
def recorded {σ : Type} (engine : Engine σ) : Engine (σ × List Job) :=
  fun job state =>
    let (answer, inner) := engine job state.1
    (answer, inner, state.2 ++ [job])

end Engine

end DensityAudit
