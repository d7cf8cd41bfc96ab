import ChatGateway.Base64
import ChatGateway.Cache.Messages
import ChatGateway.Cache.Titles
import ChatGateway.Delivery.Fanout
import ChatGateway.Delivery.Metrics
import ChatGateway.Delivery.Queue
import ChatGateway.Delivery.Rehearsal
import ChatGateway.Delivery.Trigger
import ChatGateway.Failure
import ChatGateway.Gateway.Basic
import ChatGateway.Gateway.Directory
import ChatGateway.Gateway.Settle
import ChatGateway.Http.Cors
import ChatGateway.Http.MediaType
import ChatGateway.Http.Message
import ChatGateway.Http.Route
import ChatGateway.Http.Service
import ChatGateway.Http.Target
import ChatGateway.Http.Url
import ChatGateway.Json.Basic
import ChatGateway.Json.Decode
import ChatGateway.Json.Parser
import ChatGateway.Json.Printer
import ChatGateway.Json.Stream
import ChatGateway.Keyed
import ChatGateway.Message.Basic
import ChatGateway.Message.Kind
import ChatGateway.Message.Wire
import ChatGateway.Number.Binary64
import ChatGateway.Number.Integer
import ChatGateway.Number.Scaling
import ChatGateway.Outbound.ChatId
import ChatGateway.Outbound.Request
import ChatGateway.Push.Frame
import ChatGateway.Push.Handle
import ChatGateway.Push.Hub
import ChatGateway.Push.Metrics
import ChatGateway.Push.Pool
import ChatGateway.Session.Event
import ChatGateway.Session.Exchange
import ChatGateway.Session.Link
import ChatGateway.Settings.Basic
import ChatGateway.Settings.Document
import ChatGateway.Settings.Place
import ChatGateway.Settings.Sources
import ChatGateway.Store.Address
import ChatGateway.Store.Repository
import ChatGateway.Switch
import ChatGateway.Tenant.Basic
import ChatGateway.Tenant.Events
import ChatGateway.Tenant.Info
import ChatGateway.Tenant.Ingest
import ChatGateway.Tenant.Lifecycle
import ChatGateway.Tenant.Outgoing
import ChatGateway.Tenant.Profile
import ChatGateway.Tenant.Settle
import ChatGateway.Tenant.Status
import ChatGateway.Tenant.Webhooks
import ChatGateway.Text.Affix
import ChatGateway.Text.Ascii
import ChatGateway.Text.Blank
import ChatGateway.Text.Case
import ChatGateway.Text.Case.Context
import ChatGateway.Text.Case.Lower
import ChatGateway.Text.Case.Run
import ChatGateway.Text.Case.Upper
import ChatGateway.Text.Split
import ChatGateway.Text.Utf8
import ChatGateway.Time.Calendar
import ChatGateway.Time.Instant
import ChatGateway.Time.Written
import ChatGateway.Violation
import ChatGateway.Webhook.Basic
import ChatGateway.Webhook.Filter
import ChatGateway.Webhook.Post
import ChatGateway.Webhook.Wire
import ChatGateway.Proofs.Delivery.Conservation
import ChatGateway.Proofs.Delivery.History
import ChatGateway.Proofs.Delivery.InOrder
import ChatGateway.Proofs.Delivery.Isolation
import ChatGateway.Proofs.Delivery.Relay
import ChatGateway.Proofs.Cache.Entries
import ChatGateway.Proofs.Cache.Newest
import ChatGateway.Proofs.Cache.Refinement
import ChatGateway.Proofs.Gateway.Agreement
import ChatGateway.Proofs.Gateway.Consistent
import ChatGateway.Proofs.Gateway.Identities
import ChatGateway.Proofs.Gateway.Isolation
import ChatGateway.Proofs.Gateway.Provenance
import ChatGateway.Proofs.Gateway.Restart
import ChatGateway.Proofs.Push.Traffic
import ChatGateway.Proofs.Tenant.LoggedOut
import ChatGateway.Proofs.Gateway.Toggles
import ChatGateway.Proofs.Webhook.Dispatcher
import ChatGateway.Proofs.Gateway.Ended
import ChatGateway.Proofs.Gateway.Failures
import ChatGateway.Proofs.Tenant.Replays
import ChatGateway.Proofs.Tenant.Filters
import ChatGateway.Proofs.Http.Interchange
import ChatGateway.Proofs.Gateway.Bindings
import ChatGateway.Proofs.Tenant.Notices
import ChatGateway.Proofs.Webhook.Wire
import ChatGateway.Proofs.Store.Address
import ChatGateway.Proofs.Cache.Polling
import ChatGateway.Proofs.Tenant.Backlog
import ChatGateway.Proofs.Tenant.Sending
import ChatGateway.Proofs.Outbound.ChatId
import ChatGateway.Proofs.Tenant.Previews
import ChatGateway.Proofs.Cache.Spellings
import ChatGateway.Proofs.Tenant.Revoking
import ChatGateway.Proofs.Tenant.Farewell
import ChatGateway.Proofs.Tenant.Addressed
import ChatGateway.Proofs.Settings.Switches
