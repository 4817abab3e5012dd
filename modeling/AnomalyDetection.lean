import AnomalyDetection.Main
import AnomalyDetection.Proofs.Engine.Alignment
import AnomalyDetection.Proofs.Engine.Attribution
import AnomalyDetection.Proofs.Engine.Confined
import AnomalyDetection.Proofs.Engine.Deviation
import AnomalyDetection.Proofs.Engine.Field
import AnomalyDetection.Proofs.Engine.Filter
import AnomalyDetection.Proofs.Engine.Finite
import AnomalyDetection.Proofs.Engine.Populated
import AnomalyDetection.Proofs.Engine.Presence
import AnomalyDetection.Proofs.Engine.Rearranged
import AnomalyDetection.Proofs.Engine.Skipped
import AnomalyDetection.Proofs.Engine.Tiling
import AnomalyDetection.Proofs.Engine.Width
import AnomalyDetection.Proofs.Execution.Period
import AnomalyDetection.Proofs.Execution.Problem
import AnomalyDetection.Proofs.Service.BasePath
import AnomalyDetection.Proofs.Service.Handed
import AnomalyDetection.Proofs.Service.History
import AnomalyDetection.Proofs.Service.Previews
import AnomalyDetection.Proofs.Service.Unknown
import AnomalyDetection.Proofs.Store.Linear
import AnomalyDetection.Proofs.Store.Race
import AnomalyDetection.Proofs.Store.Versions
