import DensityAudit.Density.Exhaustive

/-!
# An engine that shares too much

It computes and returns every output, whatever was asked for. Its labels are right; only its disclosure is
not, so an auditor that looks at labels alone finds nothing wrong with it.
-/

namespace DensityAudit.Density

def askingAll (job : Job) : Job := { job with request := { job.request with outputs := .all } }

/-- The engine that returns every output under the name of those that were requested. -/
def overSharing {σ : Type} : Engine σ := Engine.ofFunction fun job =>
  (answer (askingAll job)).map fun found => { found with outputs := job.request.outputs }

end DensityAudit.Density
