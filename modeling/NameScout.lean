import NameScout.Availability
import NameScout.Batch.OneByOne
import NameScout.Batch.Outcome
import NameScout.Batch.Rehearsal
import NameScout.Batch.System
import NameScout.Batch.Timeline
import NameScout.Cache.Entry
import NameScout.Cache.Json
import NameScout.Cache.Results
import NameScout.CheckResult
import NameScout.CheckResult.Json
import NameScout.CheckType
import NameScout.Checker.Basic
import NameScout.Checker.Panel
import NameScout.Checker.Scripted
import NameScout.CommandLine.Command
import NameScout.CommandLine.Configuration
import NameScout.CommandLine.Fault
import NameScout.CommandLine.RateLimits
import NameScout.CommandLine.Run
import NameScout.Decimal.Reading
import NameScout.Decimal.Shortest
import NameScout.Description
import NameScout.Effect
import NameScout.Failure
import NameScout.Http.Exchange
import NameScout.Http.Network
import NameScout.Http.Status
import NameScout.Json.Basic
import NameScout.Json.Decode
import NameScout.Json.Number
import NameScout.Json.Parser
import NameScout.Json.Printer
import NameScout.Json.Tree
import NameScout.Lookup.Basic
import NameScout.Lookup.Checker
import NameScout.Lookup.Endpoint
import NameScout.Main
import NameScout.NameRule
import NameScout.Profile
import NameScout.Profile.Json
import NameScout.RateLimit.Json
import NameScout.RateLimit.Limiter
import NameScout.RateLimit.Row
import NameScout.Report
import NameScout.Settings
import NameScout.Settings.Json
import NameScout.Store.Basic
import NameScout.Store.Disk
import NameScout.Store.File
import NameScout.Store.Path
import NameScout.Store.Sharing
import NameScout.Store.Snapshot
import NameScout.Store.Table
import NameScout.Store.Tables
import NameScout.Survey
import NameScout.Text.Base64
import NameScout.Text.Blank
import NameScout.Text.CaseTable
import NameScout.Text.CategoryTable
import NameScout.Text.Composition
import NameScout.Text.CompositionTable
import NameScout.Text.Direction
import NameScout.Text.DirectionTable
import NameScout.Text.Joining
import NameScout.Text.JoiningTable
import NameScout.Text.Key
import NameScout.Text.Lossy
import NameScout.Text.Lowercase
import NameScout.Text.Quoted
import NameScout.Text.Ranges
import NameScout.Time.Calendar
import NameScout.Time.Clock
import NameScout.Time.Duration
import NameScout.Time.Instant
import NameScout.Time.Json
import NameScout.Time.Stamp
import NameScout.Url.Address
import NameScout.Url.Basic
import NameScout.Url.Domain
import NameScout.Url.DomainTable
import NameScout.Url.Fault
import NameScout.Url.Host
import NameScout.Url.Label
import NameScout.Url.Parser
import NameScout.Url.Path
import NameScout.Url.Percent
import NameScout.Url.Punycode
import NameScout.World
import NameScout.Proofs.Store.Reliable
import NameScout.Proofs.RateLimit.Run
import NameScout.Proofs.RateLimit.Quota
import NameScout.Proofs.Batch.Attribution
import NameScout.Proofs.Batch.Verdict
import NameScout.Proofs.RateLimit.History
import NameScout.Proofs.Decimal.Digits
import NameScout.Proofs.Json.Decoding
import NameScout.Proofs.Json.Records
import NameScout.Proofs.Store.Crash
import NameScout.Proofs.Cache.Latest
import NameScout.Proofs.Store.Restart
import NameScout.Proofs.Store.Flushing
import NameScout.Proofs.Store.Recovery
import NameScout.Proofs.Survey.FanOut
import NameScout.Proofs.Lookup.Quota
import NameScout.Proofs.Store.Independence
import NameScout.Proofs.Store.Restoring
import NameScout.Proofs.Decimal.Signed
import NameScout.Proofs.Lookup.Backoff
import NameScout.Proofs.Lookup.Later
import NameScout.Proofs.Lookup.Refusal
import NameScout.Proofs.Lookup.Repeat
import NameScout.Proofs.RateLimit.Listing
import NameScout.Proofs.Store.Writable
import NameScout.Proofs.Survey.Reported
import NameScout.Proofs.Batch.Cut
import NameScout.Proofs.Text.Normal
import NameScout.Proofs.Survey.Normalized
import NameScout.Proofs.Settings.Seconds
import NameScout.Proofs.Time.Nearest
import NameScout.Proofs.RateLimit.Backoff
import NameScout.Proofs.Text.Pieces
import NameScout.Proofs.CommandLine.RateLimits
import NameScout.Proofs.NameRule.Grammar
import NameScout.Proofs.Url.Parsing
import NameScout.Proofs.Lookup.Place
import NameScout.Proofs.Lookup.Effects
