import WorkflowBus.Configuration
import WorkflowBus.Handler.Scripted
import WorkflowBus.Proofs.Audit.History
import WorkflowBus.Proofs.Bus.Dispatch
import WorkflowBus.Proofs.Bus.Invocation
import WorkflowBus.Proofs.Handler.Category
import WorkflowBus.Proofs.Wiring.Strict
import WorkflowBus.Registry.Catalog
import WorkflowBus.Workbench
import WorkflowBus.Proofs.Wiring.Delivery
import WorkflowBus.Proofs.Wiring.Publication
import WorkflowBus.Proofs.Workbench.Publishing
import WorkflowBus.Proofs.Workbench.Isolation
import WorkflowBus.Proofs.Workbench.Scoping
import WorkflowBus.Proofs.Workbench.Agreement
import WorkflowBus.Proofs.Uuid
import WorkflowBus.Proofs.Json.Text
import WorkflowBus.Proofs.Audit.LinkText
import WorkflowBus.Proofs.Audit.Tampering
import WorkflowBus.Proofs.Json.Members
import WorkflowBus.Proofs.Wiring.Behaviour
import WorkflowBus.Proofs.Handler.Secrecy
import WorkflowBus.Proofs.Workbench.Secrecy
import WorkflowBus.Proofs.Json.Apart
import WorkflowBus.Proofs.Audit.Commitment
import WorkflowBus.Proofs.Registry.WellFormed
import WorkflowBus.Proofs.Wiring.Memory
import WorkflowBus.Proofs.Wiring.Standard
import WorkflowBus.Proofs.Workbench.Standard
import WorkflowBus.Proofs.Wiring.Revocation
import WorkflowBus.Proofs.Bus.History
import WorkflowBus.Proofs.Wiring.Drift
import WorkflowBus.Proofs.Bus.Concurrency
import WorkflowBus.Proofs.Wiring.Concurrency
import WorkflowBus.Proofs.Bus.Outstanding
import WorkflowBus.Proofs.Wiring.Balance
import WorkflowBus.Json.Parsing
import WorkflowBus.Proofs.Audit.Verification
import WorkflowBus.Proofs.Api.Subscriptions
import WorkflowBus.Proofs.Event.RoundTrip
import WorkflowBus.Proofs.Audit.Export
import WorkflowBus.Proofs.Audit.Location
import WorkflowBus.Proofs.Event.Resource
import WorkflowBus.Proofs.Handler.Recording
import WorkflowBus.Proofs.Event.Accessors
import WorkflowBus.Proofs.Event.Reading
import WorkflowBus.Proofs.Bus.Limit
import WorkflowBus.Proofs.SessionStore
import WorkflowBus.Proofs.Compliance.Declarations
import WorkflowBus.Proofs.Configuration
import WorkflowBus.Proofs.Api.Correlation
import WorkflowBus.Proofs.Workbench.Sinks
