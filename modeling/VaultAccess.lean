import VaultAccess.Action
import VaultAccess.Admin
import VaultAccess.Authentication
import VaultAccess.Backend
import VaultAccess.Base64
import VaultAccess.Binary64
import VaultAccess.Ciphertext
import VaultAccess.Client
import VaultAccess.Config.Database
import VaultAccess.Config.Defaults
import VaultAccess.Config.Server
import VaultAccess.Credentials
import VaultAccess.DatabaseSource
import VaultAccess.Decimal.Literal
import VaultAccess.Decimal.Shortest
import VaultAccess.Endpoint
import VaultAccess.EnvFile
import VaultAccess.Environment
import VaultAccess.Event
import VaultAccess.Exchange
import VaultAccess.Factory
import VaultAccess.Failure
import VaultAccess.Failure.Cause
import VaultAccess.Failure.Chain
import VaultAccess.Health
import VaultAccess.Http.Client
import VaultAccess.Http.Fault
import VaultAccess.Http.Request
import VaultAccess.Http.Settings
import VaultAccess.Http.Status
import VaultAccess.Instant
import VaultAccess.Json.Literal
import VaultAccess.Json.Record
import VaultAccess.Json.Text
import VaultAccess.Json.Token
import VaultAccess.Json.Tree
import VaultAccess.Json.Value
import VaultAccess.KeyVault
import VaultAccess.Logging
import VaultAccess.NameMap
import VaultAccess.Pem
import VaultAccess.Proofs.Actions
import VaultAccess.Proofs.Administration
import VaultAccess.Proofs.Answers
import VaultAccess.Proofs.Base64
import VaultAccess.Proofs.Binary64
import VaultAccess.Proofs.Building
import VaultAccess.Proofs.Calls
import VaultAccess.Proofs.Config.Agreement
import VaultAccess.Proofs.DatabaseReads
import VaultAccess.Proofs.Documents
import VaultAccess.Proofs.Endpoints
import VaultAccess.Proofs.Json.Grammar
import VaultAccess.Proofs.Json.Printing
import VaultAccess.Proofs.Json.Schemas
import VaultAccess.Proofs.Json.Soundness
import VaultAccess.Proofs.NameMap
import VaultAccess.Proofs.Replies
import VaultAccess.Proofs.Requests
import VaultAccess.Proofs.Rotation.Backoff
import VaultAccess.Proofs.Rotation.Doubling
import VaultAccess.Proofs.Rotation.HeldCredentials
import VaultAccess.Proofs.Rotation.Hooks
import VaultAccess.Proofs.Rotation.Pacing
import VaultAccess.Proofs.Rotation.Refresh
import VaultAccess.Proofs.Rotation.Retries
import VaultAccess.Proofs.Rotation.Schedule
import VaultAccess.Proofs.Rotation.Starting
import VaultAccess.Proofs.Rotation.Steps
import VaultAccess.Proofs.Rotation.Stopping
import VaultAccess.Proofs.Rotation.Watching
import VaultAccess.Proofs.Runs
import VaultAccess.Proofs.Secrecy.Actions
import VaultAccess.Proofs.Secrecy.Administration
import VaultAccess.Proofs.Secrecy.Clients
import VaultAccess.Proofs.Secrecy.Histories
import VaultAccess.Proofs.Secrecy.Requests
import VaultAccess.Proofs.Secrecy.Rotations
import VaultAccess.Proofs.Secrecy.Servers
import VaultAccess.Proofs.Secrecy.Services
import VaultAccess.Proofs.Secrecy.Sessions
import VaultAccess.Proofs.Secret.Addresses
import VaultAccess.Proofs.Secret.Contents
import VaultAccess.Proofs.Secret.Outcomes
import VaultAccess.Proofs.Secret.RoundTrip
import VaultAccess.Proofs.Secret.Storing
import VaultAccess.Proofs.Session.Coherence
import VaultAccess.Proofs.Session.Decisions
import VaultAccess.Proofs.Session.Freshness
import VaultAccess.Proofs.Session.Logins
import VaultAccess.Proofs.Session.Refusals
import VaultAccess.Proofs.Session.Sharing
import VaultAccess.Proofs.Session.SingleFlight
import VaultAccess.Proofs.Session.Steps
import VaultAccess.Proofs.Session.Turns
import VaultAccess.Proofs.Targets
import VaultAccess.Proofs.Text.Order
import VaultAccess.Proofs.Transcripts
import VaultAccess.Proofs.Transit
import VaultAccess.Proofs.Url.Addresses
import VaultAccess.Proofs.Url.Authorities
import VaultAccess.Proofs.Url.Encoding
import VaultAccess.Proofs.Url.Hosts
import VaultAccess.Proofs.Url.Joining
import VaultAccess.Proofs.Url.LongAddresses
import VaultAccess.Proofs.Url.Names
import VaultAccess.Proofs.Url.Paths
import VaultAccess.Proofs.Url.Reading
import VaultAccess.Reply
import VaultAccess.Rotation.Backoff
import VaultAccess.Rotation.Manager
import VaultAccess.Rotation.Pool
import VaultAccess.Rotation.Settings
import VaultAccess.Rotation.System
import VaultAccess.Rotation.Timeline
import VaultAccess.Rotation.Tunables
import VaultAccess.Secret.Basic
import VaultAccess.Secret.Document
import VaultAccess.Secret.Reference
import VaultAccess.Session.Basic
import VaultAccess.Session.Login
import VaultAccess.Session.Obtain
import VaultAccess.Session.System
import VaultAccess.Session.Token
import VaultAccess.Text.Alphanumeric
import VaultAccess.Text.Blank
import VaultAccess.Text.Numeral
import VaultAccess.Text.Quoted
import VaultAccess.Text.Ranges
import VaultAccess.Text.Unprintable
import VaultAccess.Text.Utf8
import VaultAccess.Timestamp
import VaultAccess.Tls.Certificate
import VaultAccess.Tls.Curve
import VaultAccess.Tls.Der
import VaultAccess.Tls.Digest
import VaultAccess.Tls.Identity
import VaultAccess.Tls.PrivateKey
import VaultAccess.Tls.TwistedCurve
import VaultAccess.Url.Basic
import VaultAccess.Url.Domain.Admitted
import VaultAccess.Url.Domain.Composition
import VaultAccess.Url.Domain.Direction
import VaultAccess.Url.Domain.Folding
import VaultAccess.Url.Domain.Joining
import VaultAccess.Url.Domain.Name
import VaultAccess.Url.Domain.Punycode
import VaultAccess.Url.Host
import VaultAccess.Url.Parts
import VaultAccess.Url.Path
import VaultAccess.Url.Percent
import VaultAccess.Url.Read
