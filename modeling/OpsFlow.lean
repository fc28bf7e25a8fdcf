import OpsFlow.Library.Transition
import OpsFlow.Gateway.CircuitBreaker
import OpsFlow.Gateway.BreakerRuns
import OpsFlow.Gateway.Probe
import OpsFlow.Gateway.RetryLaw
import OpsFlow.Values
import OpsFlow.Execution.Record
import OpsFlow.Execution.Lease
import OpsFlow.Incidents.Domain
import OpsFlow.Library.RowStore
import OpsFlow.Incidents.Isolation
import OpsFlow.Incidents.UpdateLaw
import OpsFlow.Incidents.Completion
import OpsFlow.Incidents.CompletionLaw
import OpsFlow.Incidents.Services
import OpsFlow.Incidents.Wire
import OpsFlow.Incidents.Schemas
import OpsFlow.Incidents.HttpGateway
import OpsFlow.Incidents.HttpTransparency
import OpsFlow.Incidents.GatewayAgreement
import OpsFlow.Auth.Domain
import OpsFlow.Auth.System
import OpsFlow.Auth.Sessions
import OpsFlow.Auth.Credentials
import OpsFlow.Auth.Tokens
import OpsFlow.Auth.ResetTokens
import OpsFlow.Auth.RefreshTokens
import OpsFlow.Auth.Atomicity
import OpsFlow.Auth.RefreshFamilies
import OpsFlow.Auth.CredentialChain
import OpsFlow.Auth.OldSessions
import OpsFlow.Outbox.Message
import OpsFlow.Outbox.Relay
import OpsFlow.Outbox.RelayInv
import OpsFlow.Outbox.RelayLaw
import OpsFlow.Contracts.Formats
import OpsFlow.Contracts.Schema
import OpsFlow.Contracts.TaskEnvelope
import OpsFlow.Contracts.Uuids
import OpsFlow.Contracts.EnvelopeAgreement
import OpsFlow.Messaging.TaskPublication
import OpsFlow.Messaging.PublicationLaw
import OpsFlow.Execution.Intake
import OpsFlow.Incidents.Processing
import OpsFlow.Incidents.ProcessingLaw
import OpsFlow.JsonText
import OpsFlow.Contracts.CompletionEvent
import OpsFlow.Notifier.Notification
import OpsFlow.Notifier.EventContract
import OpsFlow.Notifier.EventBoundary
import OpsFlow.Execution.Batch
import OpsFlow.Execution.BatchLaw
import OpsFlow.Pipeline.Request
import OpsFlow.Pipeline.System
import OpsFlow.Pipeline.Provenance
import OpsFlow.Pipeline.Identity
import OpsFlow.Auth.AnonymousRoutes
import OpsFlow.Library.Unwinding
import OpsFlow.Auth.Noninterference
import OpsFlow.Auth.LoginRace
import OpsFlow.Auth.ResetThrottleLaw
import OpsFlow.Auth.LoginThrottleLaw
import OpsFlow.Auth.SecurityEvents
import OpsFlow.Auth.RefreshLifetime
import OpsFlow.ServiceIdentity.Tokens
import OpsFlow.ServiceIdentity.TokenAgreement
import OpsFlow.Execution.Reconcilable
import OpsFlow.Incidents.Lifecycle
import OpsFlow.Frontend.ApiClient
import OpsFlow.Frontend.RefreshCoalescing
import OpsFlow.Frontend.LogoutFinality
import OpsFlow.Incidents.BatchIsolation
import OpsFlow.Incidents.TaskIdentities
import OpsFlow.Notifier.Fanout
import OpsFlow.Notifier.FanoutLaw
import OpsFlow.Notifier.SqsBatch
import OpsFlow.Webhook.Delivery
import OpsFlow.Webhook.DeliveryLaw
import OpsFlow.Incidents.Pagination
import OpsFlow.Incidents.Search
import OpsFlow.Overview.OverviewService
import OpsFlow.Overview.OverviewLaw
import OpsFlow.Messaging.IdempotencyKeys
import OpsFlow.Frontend.PasswordPolicy
import OpsFlow.Scripts.TrailingWhitespaceLaw
import OpsFlow.Auth.CsrfTokens
import OpsFlow.UrlSplit
import OpsFlow.Middleware.BrowserTrust
import OpsFlow.Contracts.IsoDates
import OpsFlow.Library.LaggingStore
import OpsFlow.Notifier.Connections
import OpsFlow.Notifier.ConnectionRuns
import OpsFlow.Notifier.ConnectionsLaw
import OpsFlow.JsonRoundTrip
import OpsFlow.TaskPublisher.HttpRequest
import OpsFlow.TaskPublisher.Publisher
import OpsFlow.TaskPublisher.PublisherLaw
import OpsFlow.TaskPublisher.Submissions
import OpsFlow.Catalog.Services
import OpsFlow.Catalog.System
import OpsFlow.Catalog.Moves
import OpsFlow.Catalog.Transactions
import OpsFlow.Catalog.Invariant
import OpsFlow.Catalog.CatalogLaw
import OpsFlow.Catalog.UpdateLaw
