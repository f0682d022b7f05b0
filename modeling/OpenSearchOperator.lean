import OpenSearchOperator.Controllers.Draining
import OpenSearchOperator.Controllers.Reconcile
import OpenSearchOperator.Controllers.RestartExclusion
import OpenSearchOperator.Controllers.RestartOrder
import OpenSearchOperator.Controllers.ScalerRequeue
import OpenSearchOperator.Controllers.ShardAllocation
import OpenSearchOperator.Gateway.ExcludeSet
import OpenSearchOperator.Gateway.StuckShards
import OpenSearchOperator.Gateway.Templates
import OpenSearchOperator.Helpers.MainCommand
import OpenSearchOperator.Managed.Ownership
import OpenSearchOperator.Managed.PolicyIdentity
import OpenSearchOperator.Managed.PolicyRecognition
import OpenSearchOperator.Managed.TemplateNames
import OpenSearchOperator.Migration.Loss
import OpenSearchOperator.Migration.OldDeletion
import OpenSearchOperator.Migration.Resurrection
import OpenSearchOperator.Migration.StatusCopy
import OpenSearchOperator.Migration.StatusMemory
import OpenSearchOperator.Patch.LastApplied
import OpenSearchOperator.Reconcilers.AdditionalVolumes
import OpenSearchOperator.Reconcilers.Checksum
import OpenSearchOperator.Reconcilers.PoolLabels
import OpenSearchOperator.Reconcilers.PoolRemoval
import OpenSearchOperator.Reconcilers.RecordedVersion
import OpenSearchOperator.Reconcilers.ScalerEntries
import OpenSearchOperator.Reconcilers.ScalerWrites
import OpenSearchOperator.Reconcilers.SecurityConfigBackoff
import OpenSearchOperator.Reconcilers.SustainedLoss
import OpenSearchOperator.Reconcilers.VolumeResize
import OpenSearchOperator.Security.MappingUpdate
import OpenSearchOperator.Security.UserOwnership
import OpenSearchOperator.Tls.Transport
