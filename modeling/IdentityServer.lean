import IdentityServer.Association.Attestation
import IdentityServer.Association.Change
import IdentityServer.Binding.Binder
import IdentityServer.Binding.UnbindRequest
import IdentityServer.Clock
import IdentityServer.CommandLine.Arguments
import IdentityServer.CommandLine.Help
import IdentityServer.CommandLine.Program
import IdentityServer.Configuration.Environment
import IdentityServer.Configuration.EnvironmentFile
import IdentityServer.Configuration.Format
import IdentityServer.Configuration.Ini
import IdentityServer.Configuration.Json5
import IdentityServer.Configuration.Place
import IdentityServer.Configuration.Ron
import IdentityServer.Configuration.Setting
import IdentityServer.Configuration.Settings
import IdentityServer.Configuration.SettingsFile
import IdentityServer.Configuration.Sources
import IdentityServer.Crypto.Ed25519
import IdentityServer.Crypto.Edwards
import IdentityServer.Crypto.Sha512
import IdentityServer.Crypto.SignatureScheme
import IdentityServer.Decimal.Binary64
import IdentityServer.Decimal.Reading
import IdentityServer.Decimal.Shortest
import IdentityServer.Duration
import IdentityServer.Error
import IdentityServer.Federation.Authorization
import IdentityServer.Federation.Client
import IdentityServer.Federation.Discovery
import IdentityServer.Federation.Error
import IdentityServer.Federation.Http
import IdentityServer.Federation.InternetAddress
import IdentityServer.Federation.KeyDocument
import IdentityServer.Federation.Ownership
import IdentityServer.Federation.Url
import IdentityServer.Fields
import IdentityServer.Files.Directory
import IdentityServer.Files.Path
import IdentityServer.HostName.Basic
import IdentityServer.HostName.Direction
import IdentityServer.HostName.Joiner
import IdentityServer.HostName.MappingTable
import IdentityServer.Identifier.Account
import IdentityServer.Identifier.Address
import IdentityServer.Identifier.Medium
import IdentityServer.Identifier.Redaction
import IdentityServer.Invite.Delivery
import IdentityServer.Invite.Notice
import IdentityServer.Invite.Token
import IdentityServer.Json.Answer
import IdentityServer.Json.Basic
import IdentityServer.Json.Canonical
import IdentityServer.Json.Number
import IdentityServer.Json.Parser
import IdentityServer.Json.Record
import IdentityServer.Json.Source
import IdentityServer.Replication.Backoff
import IdentityServer.Replication.Batch
import IdentityServer.Replication.Peer
import IdentityServer.Replication.Receiver
import IdentityServer.Replication.Sender
import IdentityServer.Replication.Wake
import IdentityServer.Service.Remote
import IdentityServer.Service.Schedule
import IdentityServer.Service.Settings
import IdentityServer.Service.State
import IdentityServer.Signing.KeyPair
import IdentityServer.Signing.KeyRing
import IdentityServer.Signing.SignedJson
import IdentityServer.Store.AssociationLog
import IdentityServer.Store.CursorTable
import IdentityServer.Store.Database
import IdentityServer.Store.DatabaseFile
import IdentityServer.Store.FileName
import IdentityServer.Store.IdentifierLocks
import IdentityServer.Store.InviteTable
import IdentityServer.Store.KeyTable
import IdentityServer.Store.Location
import IdentityServer.Store.ReplicatedTable
import IdentityServer.Store.Snapshot
import IdentityServer.Store.Transaction
import IdentityServer.Text.Alphanumeric
import IdentityServer.Text.Base64
import IdentityServer.Text.Blank
import IdentityServer.Text.Bytes
import IdentityServer.Text.Case
import IdentityServer.Text.CaseTable
import IdentityServer.Text.Composition
import IdentityServer.Text.CompositionTable
import IdentityServer.Text.Hex
import IdentityServer.Text.Integer
import IdentityServer.Text.Letter
import IdentityServer.Text.Percent
import IdentityServer.Text.Punycode
import IdentityServer.Text.Ranges
import IdentityServer.Text.Split
import IdentityServer.Toml.Basic
import IdentityServer.Toml.Document
import IdentityServer.Toml.Moment
import IdentityServer.Toml.Node
import IdentityServer.Toml.Number
import IdentityServer.Toml.Quoted
import IdentityServer.Yaml.Cursor
import IdentityServer.Yaml.Document
import IdentityServer.Yaml.Node
import IdentityServer.Yaml.Reading
import IdentityServer.Yaml.Scalar
import IdentityServer.Yaml.Tag
import IdentityServer.Yaml.Token
import IdentityServer.Proofs.Outcome
import IdentityServer.Proofs.Replication.Pages
import IdentityServer.Proofs.Replication.PrefixDelivery
import IdentityServer.Proofs.Replication.Push
import IdentityServer.Proofs.Store.AssociationLog
import IdentityServer.Proofs.Store.LogReplay
import IdentityServer.Main
import IdentityServer.Proofs.Association.Attestation
import IdentityServer.Proofs.Federation.KeyCache
import IdentityServer.Proofs.Binding.Results
import IdentityServer.Proofs.Binding.UnbindSoundness
import IdentityServer.Proofs.Text.Base64
import IdentityServer.Proofs.Text.Case
import IdentityServer.Proofs.Identifier.Address
import IdentityServer.Proofs.Json.Number
import IdentityServer.Proofs.Json.Text
import IdentityServer.Proofs.Json.RoundTrip
import IdentityServer.Proofs.Replication.Replica
import IdentityServer.Proofs.Binding.GenuineLog
import IdentityServer.Proofs.Replication.Reception
import IdentityServer.Proofs.Replication.EndToEnd
import IdentityServer.Proofs.Replication.Acceptance
import IdentityServer.Proofs.Json.Unambiguous
import IdentityServer.Proofs.Signing.SignedMessages
import IdentityServer.Proofs.Store.Convergence
import IdentityServer.Proofs.Invite.Frame
import IdentityServer.Proofs.Store.Lookup
import IdentityServer.Proofs.Binding.Semantics
import IdentityServer.Proofs.Binding.AllOrNothing
import IdentityServer.Proofs.Binding.SignedLog
import IdentityServer.Proofs.Replication.Trust
import IdentityServer.Proofs.Store.InviteTable
import IdentityServer.Proofs.Invite.Attempts
import IdentityServer.Proofs.Invite.AtMostOnce
import IdentityServer.Proofs.Invite.Lifecycle
import IdentityServer.Proofs.Signing.Republication
import IdentityServer.Proofs.Invite.Spelling
import IdentityServer.Proofs.Invite.RetryPage
import IdentityServer.Proofs.Json.Literal
import IdentityServer.Proofs.Json.Reading
import IdentityServer.Proofs.Json.Reordering
import IdentityServer.Proofs.Json.CanonicalForm
import IdentityServer.Proofs.Signing.Signatures
import IdentityServer.Proofs.Federation.Header
import IdentityServer.Proofs.Binding.UnbindCompleteness
import IdentityServer.Proofs.Replication.Rotation
import IdentityServer.Proofs.Json.WireTypes
import IdentityServer.Proofs.Federation.OwnDocument
import IdentityServer.Proofs.Federation.Reliance
import IdentityServer.Proofs.Federation.OutboundRequests
import IdentityServer.Proofs.Invite.Tally
import IdentityServer.Proofs.Invite.RetryAccount
import IdentityServer.Proofs.Federation.NotaryAnswers
import IdentityServer.Proofs.Federation.NotaryResolution
import IdentityServer.Proofs.Federation.FetchDiscipline
import IdentityServer.Proofs.Federation.PinnedAddresses
import IdentityServer.Proofs.Signing.VersionOrder
import IdentityServer.Proofs.Replication.Draining
import IdentityServer.Proofs.Replication.EveryPeer
import IdentityServer.Proofs.Federation.HeaderSpelling
import IdentityServer.Proofs.Text.Blank
import IdentityServer.Proofs.Text.Split
import IdentityServer.Proofs.Identifier.Canonicalization
import IdentityServer.Proofs.Identifier.Redaction
import IdentityServer.Proofs.Duration
import IdentityServer.Proofs.Replication.Backoff
import IdentityServer.Proofs.Signing.KeyPair
import IdentityServer.Proofs.Store.IdentifierLocks
