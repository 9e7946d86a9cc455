import DensityAudit.Failure

/-!
# Disclosure of outputs

An engine must let exactly the requested outputs be read. `disclosure` checks all outputs of an answer
against a request and reports what it found, or the first output, in the order of declaration, that is
readable without being requested or the other way round. The contents of the outputs play no part.
-/

namespace DensityAudit

/-- How an output was found to behave. -/
inductive Availability where
  /-- Requested and readable. -/
  | available
  /-- Not requested and refused. -/
  | refused
deriving DecidableEq

/-- What a passed disclosure check found. -/
structure DisclosureReport where
  /-- The outputs that were requested. -/
  outputs : OutputSet
  /-- Every output in the order of declaration. -/
  findings : List (Output × Availability)
deriving DecidableEq

/-- The failure of an engine that did not return what was requested. -/
def inaccessible (output : Output) (cause : EngineError) : Failure :=
  .contract output true ("requested output was not accessible: " ++ cause.message)

/-- The behaviour of one output, which is requested or not. -/
def discloses (answer : Answer) (requested : Bool) (output : Output) : Except Failure Availability :=
  match requested, answer.query output with
  | true, .ok () => .ok .available
  | true, .error cause => .error (inaccessible output cause)
  | false, .error (.notRequested _) => .ok .refused
  | false, .error cause =>
    .error (.contract output false ("unrequested output failed with an unexpected error: " ++ cause.message))
  | false, .ok () => .error (.contract output false "unrequested output was accessible")

/-- Checks every output of an answer against the requested set. -/
def disclosure (requested : OutputSet) (answer : Answer) : Except Failure DisclosureReport := do
  let findings ← Output.all.mapM fun output => do
    pure (output, ← discloses answer (requested.contains output) output)
  pure ⟨requested, findings⟩

end DensityAudit
