import DensityAudit.Catalog.Label

/-!
# Disclosure on fixed data

One small dataset on which an engine is asked for one set of outputs after another. The first set that it
does not disclose exactly ends the audit.
-/

namespace DensityAudit

/-- The sets that are usually asked for: each output alone, and all of them. -/
def usualOutputSets : List OutputSet := Output.all.map OutputSet.only ++ [OutputSet.all]

def disclosureTrial (data : Table Float) : Trial := ⟨⟨"mode check", data, none⟩, 0.01, 1⟩

/-- Audits the disclosure of each set in turn. -/
def runDisclosureChecks {σ : Type} (a : Auditor σ) (sets : List OutputSet) :
    Audit σ (List (Verdict DisclosureReport)) := do
  let data ← ExceptT.mk (pure ((Table.wrap farApartValues 3 5).mapError Failure.table))
  sets.mapM fun outputs => a.checkDisclosure (disclosureTrial data) outputs

end DensityAudit
