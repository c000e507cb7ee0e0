import MarketFeed.Boundary.Argument
import MarketFeed.Boundary.Builder
import MarketFeed.Boundary.Foreign
import MarketFeed.Boundary.LogFilter
import MarketFeed.Boundary.Logging
import MarketFeed.Boundary.Memory
import MarketFeed.Boundary.Registry
import MarketFeed.Bytes
import MarketFeed.Codes.Dataset
import MarketFeed.Codes.RecordType
import MarketFeed.Codes.Schema
import MarketFeed.Codes.Symbology
import MarketFeed.Codes.UpgradePolicy
import MarketFeed.Codes.Verdict
import MarketFeed.Config.Basic
import MarketFeed.Config.Display
import MarketFeed.Config.Json
import MarketFeed.Engine.Basic
import MarketFeed.Engine.Connector
import MarketFeed.Engine.Manual
import MarketFeed.Engine.Replay
import MarketFeed.Error
import MarketFeed.Json.Printer
import MarketFeed.Json.Reader
import MarketFeed.Json.Value
import MarketFeed.Lifecycle.Basic
import MarketFeed.Lifecycle.Custody
import MarketFeed.Named
import MarketFeed.Pattern.Basic
import MarketFeed.Pattern.Reader
import MarketFeed.Pattern.Support
import MarketFeed.Price
import MarketFeed.Proofs.Boundary.CopyOut
import MarketFeed.Proofs.Boundary.Handles
import MarketFeed.Proofs.Config.Reading
import MarketFeed.Proofs.Config.Setters
import MarketFeed.Proofs.Engine.Feeds
import MarketFeed.Proofs.Json.Messages
import MarketFeed.Proofs.Lifecycle.History
import MarketFeed.Proofs.Lifecycle.Scopes
import MarketFeed.Proofs.Lifecycle.Stops
import MarketFeed.Proofs.Process.Isolation
import MarketFeed.Proofs.Process.Run
import MarketFeed.Proofs.Record.Access
import MarketFeed.Proofs.Record.Codec
import MarketFeed.Proofs.Record.Framing
import MarketFeed.Proofs.Record.Header
import MarketFeed.Proofs.Record.Sorting
import MarketFeed.Proofs.Rehearsal.Containment
import MarketFeed.Proofs.Rehearsal.Host
import MarketFeed.Proofs.Rehearsal.Isolation
import MarketFeed.Proofs.Rehearsal.Mirror
import MarketFeed.Proofs.Rehearsal.Pairs
import MarketFeed.Proofs.Rehearsal.Refinement
import MarketFeed.Proofs.Rehearsal.Refusals
import MarketFeed.Proofs.Rehearsal.Registry
import MarketFeed.Proofs.Rehearsal.Resolving
import MarketFeed.Proofs.Rehearsal.Runs
import MarketFeed.Proofs.Rehearsal.Secrecy
import MarketFeed.Proofs.Rehearsal.Settling
import MarketFeed.Proofs.Rehearsal.Slots
import MarketFeed.Proofs.Rehearsal.Upkeep
import MarketFeed.Proofs.Routing
import MarketFeed.Proofs.Session.Accounts
import MarketFeed.Proofs.Session.Disguise
import MarketFeed.Proofs.Session.Feeding
import MarketFeed.Proofs.Session.Greetings
import MarketFeed.Proofs.Session.Order
import MarketFeed.Proofs.Session.Outcome
import MarketFeed.Proofs.Session.Overruled
import MarketFeed.Proofs.Session.Panics
import MarketFeed.Proofs.Session.Restarts
import MarketFeed.Proofs.Session.Rules
import MarketFeed.Proofs.Session.Run
import MarketFeed.Proofs.Session.Settling
import MarketFeed.Proofs.Session.Steps
import MarketFeed.Proofs.Session.Stopping
import MarketFeed.Proofs.Session.Subscriptions
import MarketFeed.Proofs.Session.Symbols
import MarketFeed.Proofs.Session.Verbatim
import MarketFeed.Proofs.Text.Blank
import MarketFeed.Proofs.Text.FixedField
import MarketFeed.Proofs.Text.Truncation
import MarketFeed.Proofs.Threads.Cancellation
import MarketFeed.Proofs.Threads.Serial
import MarketFeed.Proofs.Threads.Subscriptions
import MarketFeed.Record.Frame
import MarketFeed.Record.Header
import MarketFeed.Record.Message
import MarketFeed.Rehearsal.Boundary
import MarketFeed.Rehearsal.Engine
import MarketFeed.Rehearsal.Script
import MarketFeed.Rehearsal.Session
import MarketFeed.Router
import MarketFeed.Session.Basic
import MarketFeed.Session.Delivery
import MarketFeed.Session.Opening
import MarketFeed.Session.Operations
import MarketFeed.Session.Threads
import MarketFeed.Stats
import MarketFeed.Subscription
import MarketFeed.SymbolTable
import MarketFeed.Text.Blank
import MarketFeed.Text.ByteIndex
import MarketFeed.Text.FixedField
import MarketFeed.Text.Letter
import MarketFeed.Text.Letter.Table
import MarketFeed.Text.LowerCase
import MarketFeed.Text.LowerCase.Table
import MarketFeed.Text.Quoted
import MarketFeed.Text.Quoted.Table
import MarketFeed.Text.Ranges
import MarketFeed.Text.Utf8
