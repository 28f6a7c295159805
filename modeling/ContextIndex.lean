import ContextIndex.Text.Alphabetic
import ContextIndex.Text.Base64
import ContextIndex.Text.CharClass
import ContextIndex.Text.CombiningClass
import ContextIndex.Text.Composition
import ContextIndex.Text.Digit
import ContextIndex.Text.Direction
import ContextIndex.Text.Hidden
import ContextIndex.Text.Joining
import ContextIndex.Text.Line
import ContextIndex.Text.Mark
import ContextIndex.Text.Normal
import ContextIndex.Text.Number
import ContextIndex.Text.Quoted
import ContextIndex.Text.Range
import ContextIndex.Text.Utf8
import ContextIndex.Text.Width
import ContextIndex.Word
import ContextIndex.Path
import ContextIndex.Digest
import ContextIndex.Instant
import ContextIndex.Decimal.Shortest
import ContextIndex.Json.Decode
import ContextIndex.Json.Fault
import ContextIndex.Json.Parser
import ContextIndex.Json.Printer
import ContextIndex.Json.Shape
import ContextIndex.Json.Value
import ContextIndex.Toml.Decode
import ContextIndex.Toml.Fault
import ContextIndex.Toml.Moment
import ContextIndex.Toml.Number
import ContextIndex.Toml.Parser
import ContextIndex.Toml.Printer
import ContextIndex.Toml.Reading
import ContextIndex.Toml.Statement
import ContextIndex.Toml.Text.Reader
import ContextIndex.Toml.Text.Writer
import ContextIndex.Toml.Value
import ContextIndex.Domain.Folding
import ContextIndex.Domain.Label
import ContextIndex.Domain.Name
import ContextIndex.Domain.Punycode
import ContextIndex.Domain.Refused
import ContextIndex.Url.Basic
import ContextIndex.Url.Encoding
import ContextIndex.Url.Fault
import ContextIndex.Url.Host
import ContextIndex.Url.Parser
import ContextIndex.Url.Path
import ContextIndex.Http
import ContextIndex.Repo
import ContextIndex.Error
import ContextIndex.Token
import ContextIndex.Symbol
import ContextIndex.Language
import ContextIndex.IgnoreFile
import ContextIndex.Pattern
import ContextIndex.Extract.Block
import ContextIndex.Extract.Filter
import ContextIndex.Extract.Model
import ContextIndex.Extract.Model.Prompt
import ContextIndex.Extract.Model.Reply
import ContextIndex.Extract.Rules
import ContextIndex.Extract.Scan
import ContextIndex.Remote.Basic
import ContextIndex.Remote.GitHub.Client
import ContextIndex.Remote.GitHub.Endpoint
import ContextIndex.Remote.GitHub.Reply
import ContextIndex.Remote.Memory
import ContextIndex.Remote.Service
import ContextIndex.Store.Basic
import ContextIndex.Store.Lease
import ContextIndex.Store.Like
import ContextIndex.Query.Batch
import ContextIndex.Query.Budget
import ContextIndex.Query.Candidate
import ContextIndex.Query.Context
import ContextIndex.Query.Diff
import ContextIndex.Query.Envelope
import ContextIndex.Query.File
import ContextIndex.Query.Lookup
import ContextIndex.Query.Outline
import ContextIndex.Query.Search
import ContextIndex.Sync.Change
import ContextIndex.Sync.Push
import ContextIndex.Sync.Queue
import ContextIndex.Sync.Run
import ContextIndex.Sync.Status
import ContextIndex.Sync.Wait
import ContextIndex.Config.Basic
import ContextIndex.Config.Printer
import ContextIndex.Config.Reader
import ContextIndex.Config.Services
import ContextIndex.Display.Table
import ContextIndex.Display.Theme
import ContextIndex.Command.App
import ContextIndex.Command.Arguments
import ContextIndex.Command.Disk
import ContextIndex.Command.Invocation
import ContextIndex.Command.Listing
import ContextIndex.Command.Query
import ContextIndex.Command.Record
import ContextIndex.Command.Run
import ContextIndex.Command.Screen
import ContextIndex.Command.Sync
import ContextIndex.Main
import ContextIndex.Proofs.Store.Rows
import ContextIndex.Proofs.Store.Stamps
import ContextIndex.Proofs.Store.Exclusion
import ContextIndex.Proofs.Store.Integrity
import ContextIndex.Proofs.Sync.Crew
import ContextIndex.Proofs.Sync.Script
import ContextIndex.Proofs.Sync.Program
import ContextIndex.Proofs.Sync.Undisturbed
import ContextIndex.Proofs.Sync.Calls
import ContextIndex.Proofs.Sync.Desk
import ContextIndex.Proofs.Sync.Correspondence
import ContextIndex.Proofs.Extract.Settled
import ContextIndex.Proofs.Sync.Changes
import ContextIndex.Proofs.Sync.Phases
import ContextIndex.Proofs.Sync.Moves
import ContextIndex.Proofs.Sync.Jobs
import ContextIndex.Proofs.Sync.Completion
import ContextIndex.Proofs.Sync.Full
import ContextIndex.Proofs.Remote.Tree
import ContextIndex.Proofs.Sync.Partial
import ContextIndex.Proofs.Sync.Push
import ContextIndex.Proofs.Remote.Timeline
import ContextIndex.Proofs.Sync.Deployment
import ContextIndex.Proofs.Sync.UpToDate
import ContextIndex.Proofs.Sync.Cache
import ContextIndex.Proofs.Sync.Tidy
import ContextIndex.Proofs.Sync.Unblocked
import ContextIndex.Proofs.Sync.Accepted
import ContextIndex.Proofs.Sync.Repeated
import ContextIndex.Proofs.Sync.Effects
import ContextIndex.Proofs.Sync.Deduplicated
import ContextIndex.Proofs.Sync.Archive
import ContextIndex.Proofs.Sync.Tenure
import ContextIndex.Proofs.Sync.Serialized
import ContextIndex.Proofs.Query.Tiers
import ContextIndex.Proofs.Query.Spending
import ContextIndex.Proofs.Query.Larger
import ContextIndex.Proofs.Query.Greedy
import ContextIndex.Proofs.Query.Context
import ContextIndex.Proofs.Query.Signatures
import ContextIndex.Proofs.Query.Batches
import ContextIndex.Proofs.Query.Nesting
import ContextIndex.Proofs.Store.Replacement
import ContextIndex.Proofs.Sync.Elsewhere
import ContextIndex.Proofs.Sync.Sweeps
import ContextIndex.Proofs.Sync.Fetches
import ContextIndex.Proofs.Sync.Failures
import ContextIndex.Proofs.Sync.Isolation
import ContextIndex.Proofs.Sync.Counting
import ContextIndex.Proofs.Sync.Accounted
import ContextIndex.Proofs.Extract.Placed
import ContextIndex.Proofs.Extract.Kept
import ContextIndex.Proofs.Store.Readings
import ContextIndex.Proofs.Store.Expiry
import ContextIndex.Proofs.Sync.Timed
import ContextIndex.Proofs.Sync.Waiting
import ContextIndex.Proofs.Text.Lines
import ContextIndex.Proofs.Extract.Captures
import ContextIndex.Proofs.Extract.Braces
import ContextIndex.Proofs.Extract.Located
import ContextIndex.Proofs.Extract.Offside
import ContextIndex.Proofs.Query.Preorder
import ContextIndex.Proofs.Query.Slices
import ContextIndex.Proofs.Query.Parts
import ContextIndex.Proofs.Query.Words
import ContextIndex.Proofs.Query.Lookups
import ContextIndex.Proofs.Store.Patterns
import ContextIndex.Proofs.Text.ByteOrder
import ContextIndex.Proofs.Query.Search
import ContextIndex.Proofs.Query.Candidates
import ContextIndex.Proofs.Extract.Legible
import ContextIndex.Proofs.Extract.Ranges
import ContextIndex.Proofs.Url.Encoding
import ContextIndex.Proofs.Url.Segments
import ContextIndex.Proofs.Remote.Addresses
import ContextIndex.Proofs.Remote.History
import ContextIndex.Proofs.Query.Diffs
import ContextIndex.Proofs.Query.Cuts
import ContextIndex.Proofs.Lists
import ContextIndex.Proofs.Toml.Values
import ContextIndex.Proofs.Toml.Documents
import ContextIndex.Proofs.Command.Files
import ContextIndex.Proofs.Config.RoundTrip
