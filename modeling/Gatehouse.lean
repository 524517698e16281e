import Gatehouse.Authn
import Gatehouse.Command
import Gatehouse.Cursor
import Gatehouse.Error
import Gatehouse.Followup
import Gatehouse.Gateway
import Gatehouse.Http.Headers
import Gatehouse.Http.Message
import Gatehouse.Http.Method
import Gatehouse.Http.Target
import Gatehouse.Json.Basic
import Gatehouse.Json.Lexeme
import Gatehouse.Json.Number
import Gatehouse.Json.Printer
import Gatehouse.Json.Record
import Gatehouse.Json.Tree
import Gatehouse.Ledger.Accounts
import Gatehouse.Ledger.Address
import Gatehouse.Ledger.Basic
import Gatehouse.Ledger.Bootstrap
import Gatehouse.Ledger.Grants
import Gatehouse.Ledger.Installation
import Gatehouse.Ledger.Raw
import Gatehouse.Ledger.Schema
import Gatehouse.Ledger.Secret
import Gatehouse.Level
import Gatehouse.Main
import Gatehouse.Management
import Gatehouse.Management.Answer
import Gatehouse.Narrowing
import Gatehouse.Number.Binary64
import Gatehouse.Number.Extended
import Gatehouse.Number.Shortest
import Gatehouse.Operation
import Gatehouse.Owner
import Gatehouse.Params
import Gatehouse.Path
import Gatehouse.Proofs.Action
import Gatehouse.Proofs.Authn
import Gatehouse.Proofs.Classification
import Gatehouse.Proofs.Cursor
import Gatehouse.Proofs.Gateway.Artifact
import Gatehouse.Proofs.Gateway.Bookkeeping
import Gatehouse.Proofs.Gateway.Bypass
import Gatehouse.Proofs.Gateway.Check
import Gatehouse.Proofs.Gateway.Creation
import Gatehouse.Proofs.Gateway.Indifference
import Gatehouse.Proofs.Gateway.Interleaving
import Gatehouse.Proofs.Gateway.Limit
import Gatehouse.Proofs.Gateway.Lookup
import Gatehouse.Proofs.Gateway.Management
import Gatehouse.Proofs.Gateway.Mediation
import Gatehouse.Proofs.Gateway.Relay
import Gatehouse.Proofs.Gateway.Retrieval
import Gatehouse.Proofs.Gateway.Skipping
import Gatehouse.Proofs.Json.Document
import Gatehouse.Proofs.Json.Lexemes
import Gatehouse.Proofs.Json.Numeral
import Gatehouse.Proofs.Json.RoundTrip
import Gatehouse.Proofs.Ledger.Book
import Gatehouse.Proofs.Ledger.Bootstrap
import Gatehouse.Proofs.Ledger.Confined
import Gatehouse.Proofs.Ledger.History
import Gatehouse.Proofs.Ledger.Migration
import Gatehouse.Proofs.Ledger.Models
import Gatehouse.Proofs.Ledger.Refinement
import Gatehouse.Proofs.Ledger.Renaming
import Gatehouse.Proofs.Ledger.Rows
import Gatehouse.Proofs.Ledger.Shows
import Gatehouse.Proofs.Ledger.Sound
import Gatehouse.Proofs.Ledger.Statement
import Gatehouse.Proofs.Narrowing.Disclosure
import Gatehouse.Proofs.Narrowing.ModelsPage
import Gatehouse.Proofs.Narrowing.ModelsWalk
import Gatehouse.Proofs.Narrowing.OffsetWalk
import Gatehouse.Proofs.Narrowing.Refill
import Gatehouse.Proofs.Narrowing.Response
import Gatehouse.Proofs.Narrowing.Searches
import Gatehouse.Proofs.Narrowing.Settled
import Gatehouse.Proofs.Narrowing.Sums
import Gatehouse.Proofs.Narrowing.Visits
import Gatehouse.Proofs.Narrowing.Walk
import Gatehouse.Proofs.Owner
import Gatehouse.Proofs.Params
import Gatehouse.Proofs.Path
import Gatehouse.Proofs.Pattern
import Gatehouse.Proofs.Route
import Gatehouse.Proofs.Spelling
import Gatehouse.Proofs.Text.Base64
import Gatehouse.Proofs.Text.Form
import Gatehouse.Proofs.Text.Numeral
import Gatehouse.Proofs.Text.Percent
import Gatehouse.Proofs.Text.Split
import Gatehouse.Proofs.Text.Utf8
import Gatehouse.Proofs.Tracker.Lookup
import Gatehouse.Proofs.Tracker.Memory
import Gatehouse.Proofs.Tracker.Reach
import Gatehouse.Proofs.Tracker.Search
import Gatehouse.Proofs.Tracker.Served
import Gatehouse.Proofs.Url.Address
import Gatehouse.Proofs.Url.Behind
import Gatehouse.Proofs.Url.Canonical
import Gatehouse.Proofs.Url.Coding
import Gatehouse.Proofs.Url.Host
import Gatehouse.Proofs.Url.Path
import Gatehouse.Proofs.Url.Reread
import Gatehouse.Proofs.Visibility
import Gatehouse.Proofs.World
import Gatehouse.Readability
import Gatehouse.Route
import Gatehouse.Search
import Gatehouse.Settings
import Gatehouse.Settings.Environment
import Gatehouse.Settings.Place
import Gatehouse.Settings.Setting
import Gatehouse.Socket
import Gatehouse.Startup
import Gatehouse.Text.Base64
import Gatehouse.Text.Blank
import Gatehouse.Text.Digit
import Gatehouse.Text.Form
import Gatehouse.Text.Numeral
import Gatehouse.Text.Percent
import Gatehouse.Text.Printable
import Gatehouse.Text.Quoted
import Gatehouse.Text.Reader
import Gatehouse.Text.Utf8
import Gatehouse.Toml.Document
import Gatehouse.Toml.Draft
import Gatehouse.Toml.Key
import Gatehouse.Toml.Moment
import Gatehouse.Toml.Quoted
import Gatehouse.Toml.Scalar
import Gatehouse.Toml.Space
import Gatehouse.Tracker
import Gatehouse.Tracker.Forward
import Gatehouse.Tracker.Memory
import Gatehouse.Tracker.Rest
import Gatehouse.Tracker.Site
import Gatehouse.Url
import Gatehouse.Url.Coding
import Gatehouse.Url.Host
import Gatehouse.Url.Path
import Gatehouse.World
