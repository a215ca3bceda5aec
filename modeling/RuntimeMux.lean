import RuntimeMux.Activity
import RuntimeMux.Backend
import RuntimeMux.Call
import RuntimeMux.Connection.Basic
import RuntimeMux.Connection.Line
import RuntimeMux.Connection.Rehearsal
import RuntimeMux.Connection.Wait
import RuntimeMux.Cri.Catalog
import RuntimeMux.Cri.Codes
import RuntimeMux.Cri.Container
import RuntimeMux.Cri.Convertible
import RuntimeMux.Cri.Exec
import RuntimeMux.Cri.Image
import RuntimeMux.Cri.Legacy
import RuntimeMux.Cri.Parts
import RuntimeMux.Cri.PodSandbox
import RuntimeMux.Cri.RuntimeInfo
import RuntimeMux.Cri.Scoped
import RuntimeMux.Cri.Stats
import RuntimeMux.Cri.Views
import RuntimeMux.Deadline
import RuntimeMux.Decimal.Binary64
import RuntimeMux.Decimal.Shortest
import RuntimeMux.Dialing
import RuntimeMux.Digest
import RuntimeMux.Dispatch
import RuntimeMux.Exchange
import RuntimeMux.Fault
import RuntimeMux.ImageNames
import RuntimeMux.Main
import RuntimeMux.Method
import RuntimeMux.Misconfiguration
import RuntimeMux.Proofs.Call.Course
import RuntimeMux.Proofs.Call.Flight
import RuntimeMux.Proofs.Call.Interleaving
import RuntimeMux.Proofs.Call.Invocation
import RuntimeMux.Proofs.Call.Journal
import RuntimeMux.Proofs.Call.Outcomes
import RuntimeMux.Proofs.Call.Schemas
import RuntimeMux.Proofs.Call.Traffic
import RuntimeMux.Proofs.Connection.Kicks
import RuntimeMux.Proofs.Connection.Links
import RuntimeMux.Proofs.Connection.Losses
import RuntimeMux.Proofs.Connection.Moves
import RuntimeMux.Proofs.Connection.Probes
import RuntimeMux.Proofs.Connection.Rehearsals
import RuntimeMux.Proofs.Connection.Soundness
import RuntimeMux.Proofs.Connection.Stops
import RuntimeMux.Proofs.Connection.Waiters
import RuntimeMux.Proofs.Cri.Conversions
import RuntimeMux.Proofs.Cri.ImageReferences
import RuntimeMux.Proofs.Cri.Legible
import RuntimeMux.Proofs.Cri.ListRequests
import RuntimeMux.Proofs.Cri.Neutral
import RuntimeMux.Proofs.Cri.NewerFields
import RuntimeMux.Proofs.Cri.OwnTexts
import RuntimeMux.Proofs.Cri.Translation
import RuntimeMux.Proofs.Cri.UndeclaredFields
import RuntimeMux.Proofs.Dialing.Sockets
import RuntimeMux.Proofs.Dispatch.Deadlines
import RuntimeMux.Proofs.Dispatch.Paths
import RuntimeMux.Proofs.Results
import RuntimeMux.Proofs.Router.Configured
import RuntimeMux.Proofs.Router.ImageOwner
import RuntimeMux.Proofs.Router.Owner
import RuntimeMux.Proofs.Routing.Aim
import RuntimeMux.Proofs.Routing.Broadcasts
import RuntimeMux.Proofs.Routing.Chosen
import RuntimeMux.Proofs.Routing.ConcurrentImages
import RuntimeMux.Proofs.Routing.Contacts
import RuntimeMux.Proofs.Routing.Delivery
import RuntimeMux.Proofs.Routing.Failures
import RuntimeMux.Proofs.Routing.Gather
import RuntimeMux.Proofs.Routing.ImageRequests
import RuntimeMux.Proofs.Routing.LearntOwners
import RuntimeMux.Proofs.Routing.LegacyAnswers
import RuntimeMux.Proofs.Routing.Merge
import RuntimeMux.Proofs.Routing.NamelessImages
import RuntimeMux.Proofs.Routing.Narrow
import RuntimeMux.Proofs.Routing.NewContainers
import RuntimeMux.Proofs.Routing.NewSandboxes
import RuntimeMux.Proofs.Routing.Objects
import RuntimeMux.Proofs.Routing.Ready
import RuntimeMux.Proofs.Routing.Refusals
import RuntimeMux.Proofs.Routing.Rehearsals
import RuntimeMux.Proofs.Routing.RemovedImages
import RuntimeMux.Proofs.Routing.Revisions
import RuntimeMux.Proofs.Routing.Rounds
import RuntimeMux.Proofs.Routing.SeenImages
import RuntimeMux.Proofs.Routing.Selection
import RuntimeMux.Proofs.Routing.Serving
import RuntimeMux.Proofs.Routing.TargetContainers
import RuntimeMux.Proofs.Routing.Tolerance
import RuntimeMux.Proofs.Routing.Transparency
import RuntimeMux.Proofs.Scope.Digests
import RuntimeMux.Proofs.Scope.ImageQualifier
import RuntimeMux.Proofs.Scope.Qualifier
import RuntimeMux.Proofs.Settings.Arguments
import RuntimeMux.Proofs.Settings.Keys
import RuntimeMux.Proofs.Settings.Layers
import RuntimeMux.Proofs.Settings.Numbers
import RuntimeMux.Proofs.Settings.Precedence
import RuntimeMux.Proofs.Text.Cuts
import RuntimeMux.Proofs.Text.Numbers
import RuntimeMux.Proofs.Url.Absolute
import RuntimeMux.Proofs.Url.Addresses
import RuntimeMux.Proofs.Url.Authorities
import RuntimeMux.Proofs.Url.DomainNames
import RuntimeMux.Proofs.Url.Encoding
import RuntimeMux.Proofs.Url.Hosts
import RuntimeMux.Proofs.Url.Paths
import RuntimeMux.Proofs.Url.Schemes
import RuntimeMux.Proofs.Url.Streams
import RuntimeMux.Proofs.Wire.Contents
import RuntimeMux.Proofs.Wire.Fields
import RuntimeMux.Proofs.Wire.Layout
import RuntimeMux.Proofs.Wire.Legible
import RuntimeMux.Response
import RuntimeMux.Revision
import RuntimeMux.Router
import RuntimeMux.Routing.Choice
import RuntimeMux.Routing.Lists
import RuntimeMux.Routing.Rehearsal
import RuntimeMux.Routing.Single
import RuntimeMux.Routing.Stage
import RuntimeMux.Scope
import RuntimeMux.Settings.Basic
import RuntimeMux.Settings.Datum
import RuntimeMux.Settings.Flags
import RuntimeMux.Settings.Load
import RuntimeMux.Span
import RuntimeMux.Startup
import RuntimeMux.Status
import RuntimeMux.Stream
import RuntimeMux.Text.Blank
import RuntimeMux.Text.Combining
import RuntimeMux.Text.Hex
import RuntimeMux.Text.Number
import RuntimeMux.Text.Quoted
import RuntimeMux.Text.Split
import RuntimeMux.Text.Unprintable
import RuntimeMux.Text.Utf8
import RuntimeMux.TextMap
import RuntimeMux.Toml.Document
import RuntimeMux.Toml.Moment
import RuntimeMux.Toml.Number
import RuntimeMux.Toml.Token
import RuntimeMux.Toml.Tree
import RuntimeMux.Url.Basic
import RuntimeMux.Url.DomainName
import RuntimeMux.Url.Fault
import RuntimeMux.Url.Host
import RuntimeMux.Url.Parse
import RuntimeMux.Url.Percent
import RuntimeMux.Url.Punycode
import RuntimeMux.Wire.Failure
import RuntimeMux.Wire.Key
import RuntimeMux.Wire.Message
import RuntimeMux.Wire.Scalar
import RuntimeMux.Wire.Varint
