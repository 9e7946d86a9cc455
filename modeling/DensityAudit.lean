import DensityAudit.Catalog.Disclosure
import DensityAudit.Catalog.Quality
import DensityAudit.Density.OverSharing
import DensityAudit.Request.Document
import DensityAudit.Settings.Change
import DensityAudit.Table.Lemmas
import DensityAudit.Proofs.Table.Construction
import DensityAudit.Proofs.Table.Readers
import DensityAudit.Proofs.Table.RowAccess
import DensityAudit.Proofs.Audit.Calls
import DensityAudit.Proofs.Audit.Exhaustive
import DensityAudit.Proofs.Audit.Failures
import DensityAudit.Proofs.Audit.Gate
import DensityAudit.Proofs.Audit.Labels
import DensityAudit.Proofs.Compare.Partition
import DensityAudit.Proofs.Compare.Tolerance
import DensityAudit.Proofs.Density.Scan
import DensityAudit.Proofs.Density.Outputs
import DensityAudit.Proofs.Density.Clustering
import DensityAudit.Proofs.Density.Blocks
import DensityAudit.Proofs.Density.Copies
import DensityAudit.Proofs.Density.Growth
import DensityAudit.Proofs.Density.Noise
import DensityAudit.Proofs.Density.Pair
import DensityAudit.Proofs.Density.Rearrangement
import DensityAudit.Proofs.Engine.Disclosure
import DensityAudit.Proofs.Quality.DaviesBouldin
import DensityAudit.Proofs.Quality.Renaming
import DensityAudit.Proofs.Quality.Similarity
import DensityAudit.Proofs.Doubles.Vanishing
import DensityAudit.Proofs.Audit.Counters
import DensityAudit.Proofs.Quality.Coincidence
import DensityAudit.Density.Guarded
import DensityAudit.Density.Walk
import DensityAudit.Proofs.Density.Guarded
import DensityAudit.Proofs.Density.Refusals
import DensityAudit.Proofs.Density.Threshold
import DensityAudit.Proofs.Density.Walk
import DensityAudit.Proofs.Density.Neighbourhoods
import DensityAudit.Proofs.Quality.Means
import DensityAudit.Proofs.Quality.Dependence
import DensityAudit.Proofs.Compare.Equivalence
import DensityAudit.Proofs.Settings.Validity
import DensityAudit.Proofs.Settings.RoundTrip
