import ActivityLog.Builtin.Modules
import ActivityLog.Application
import ActivityLog.Facade
import ActivityLog.Middleware
import ActivityLog.Proofs.Pass.ClosedForm
import ActivityLog.Proofs.Traffic.Alone
import ActivityLog.Proofs.Host.Storage
import ActivityLog.Proofs.Pass.References
import ActivityLog.Proofs.Pass.Siblings
import ActivityLog.Proofs.Pass.Mandatory
import ActivityLog.Proofs.Host.Headers
import ActivityLog.Proofs.Builtin
import ActivityLog.Proofs.Core.Correlation
import ActivityLog.Proofs.Lifecycle.Return
import ActivityLog.Proofs.Facade
import ActivityLog.Proofs.Core.Sending
import ActivityLog.Proofs.Lifecycle.CarryOver
import ActivityLog.Proofs.Traffic.Attribution
import ActivityLog.Proofs.Host.StandIn
import ActivityLog.Proofs.Lifecycle.Waiting
import ActivityLog.Proofs.Middleware
import ActivityLog.Proofs.Core.Elsewhere
import ActivityLog.Proofs.Reading
import ActivityLog.Proofs.Facade.Growth
import ActivityLog.Proofs.Facade.Demand
import ActivityLog.Proofs.Operation
import ActivityLog.Proofs.Facade.Making
import ActivityLog.Proofs.Facade.Replacement
import ActivityLog.Proofs.Pass.Waiting
import ActivityLog.Proofs.Builtin.Record
import ActivityLog.Proofs.Descriptor.Describes
import ActivityLog.Proofs.Descriptor.Escapes
import ActivityLog.Proofs.Pass.Failures
import ActivityLog.Proofs.Pass.Deferral
import ActivityLog.Proofs.Logging.Pattern
import ActivityLog.Proofs.Pass.Course
import ActivityLog.Proofs.Traffic.Spotless
import ActivityLog.Proofs.Lifecycle.Moves
import ActivityLog.Proofs.Descriptor.Resolution
import ActivityLog.Proofs.Logging.Reconfiguration
import ActivityLog.Proofs.Core.Levels
import ActivityLog.Proofs.Context
import ActivityLog.Proofs.Core.Messages
import ActivityLog.Proofs.Settings
import ActivityLog.Proofs.Host.Listeners
import ActivityLog.Proofs.Record.Order
import ActivityLog.Proofs.Host.HeaderTable
import ActivityLog.Proofs.Calendar.Stamp
import ActivityLog.Proofs.Builtin.Elapsed
