import Metastore.Backend
import Metastore.Client
import Metastore.Client.Creation
import Metastore.Client.Documents
import Metastore.Client.Items
import Metastore.CommandLine
import Metastore.CommandLine.Invocation
import Metastore.Config.Current
import Metastore.Config.Load
import Metastore.Config.Merge
import Metastore.Config.Settings
import Metastore.Config.Tree
import Metastore.Credentials.Chain
import Metastore.Credentials.Source
import Metastore.Decimal.Layout
import Metastore.Decimal.Rounded
import Metastore.Decimal.Shortest
import Metastore.Double
import Metastore.Endpoint
import Metastore.Endpoint.Address
import Metastore.Environment
import Metastore.Environment.Override
import Metastore.Environment.Placeholder
import Metastore.Failure
import Metastore.Files
import Metastore.Json.Reader
import Metastore.Json.Writer
import Metastore.Logging
import Metastore.Logging.Level
import Metastore.Logging.Line
import Metastore.Main
import Metastore.Privilege
import Metastore.Problem
import Metastore.Proofs.Credentials.Freshness
import Metastore.Proofs.Credentials.Use
import Metastore.Proofs.Run
import Metastore.Service
import Metastore.Service.Document
import Metastore.Service.Table
import Metastore.Services
import Metastore.Services.Connect
import Metastore.Template
import Metastore.Template.Fill
import Metastore.Tenancy
import Metastore.Text.Base64
import Metastore.Text.Blank
import Metastore.Text.Case
import Metastore.Text.CaseTable
import Metastore.Text.Digits
import Metastore.Text.Numeral
import Metastore.Text.Printable
import Metastore.Text.Quoted
import Metastore.Text.Range
import Metastore.Text.Split
import Metastore.Timestamp
import Metastore.Tls
import Metastore.Tls.Certificate
import Metastore.Transport
import Metastore.Url
import Metastore.Value
import Metastore.Value.Display
import Metastore.Value.Equality
import Metastore.Value.Mapping
import Metastore.Value.Shape
import Metastore.Yaml
import Metastore.Yaml.Characters
import Metastore.Yaml.Folding
import Metastore.Yaml.Lexer
import Metastore.Yaml.Meaning
import Metastore.Yaml.Node
import Metastore.Yaml.Scalar
import Metastore.Yaml.Schema
import Metastore.Yaml.Token
import Metastore.Proofs.Action
import Metastore.Proofs.Json.Strings
import Metastore.Proofs.Json.Numbers
import Metastore.Proofs.Json.RoundTrip
import Metastore.Proofs.Services.Reaction
import Metastore.Proofs.Client.History
import Metastore.Proofs.Client.Documents
import Metastore.Proofs.Client.Ownership
import Metastore.Proofs.Client.Items
import Metastore.Proofs.Client.Table
import Metastore.Proofs.Client.Refinement
import Metastore.Proofs.Client.Creation
import Metastore.Proofs.Client.Isolation
import Metastore.Proofs.Credentials.Resolution
import Metastore.Proofs.Client.Agreement
import Metastore.Proofs.Client.Commands
import Metastore.Proofs.Services.Connection
import Metastore.Proofs.Client.Building
import Metastore.Proofs.Client.SignedCreation
import Metastore.Proofs.Client.SharedCache
import Metastore.Proofs.Client.MissingCredentials
import Metastore.Proofs.Text.Words
import Metastore.Proofs.Config.Settings
import Metastore.Proofs.Value.Keyed
import Metastore.Proofs.Yaml.Keyed
import Metastore.Proofs.Config.Tree
import Metastore.Proofs.Environment.Overrides
import Metastore.Proofs.Environment.Resolve
import Metastore.Proofs.Config.Merge
import Metastore.Proofs.Client.Release
import Metastore.Proofs.Client.Verification
import Metastore.Proofs.Client.SearchScope
import Metastore.Proofs.Config.Precedence
import Metastore.Proofs.Text.Split
import Metastore.Proofs.Client.Closing
import Metastore.Proofs.CommandLine.Asking
import Metastore.Proofs.CommandLine.Overrides
import Metastore.Proofs.CommandLine.Check
import Metastore.Proofs.Endpoint.Authority
import Metastore.Proofs.Endpoint.Reading
import Metastore.Proofs.Endpoint.Splitting
import Metastore.Proofs.Endpoint.Host
import Metastore.Proofs.Endpoint.Blanks
import Metastore.Proofs.Failure.Walk
import Metastore.Proofs.Client.Requests
import Metastore.Proofs.Client.Surfacing
import Metastore.Proofs.Services.Readiness
import Metastore.Proofs.Client.Lists
import Metastore.Proofs.Value.Reordered
import Metastore.Proofs.Json.Canonical
import Metastore.Proofs.Client.Sources
import Metastore.Proofs.Client.OwnWrites
import Metastore.Proofs.Value.Node
import Metastore.Proofs.Environment.Substitution
import Metastore.Proofs.Tenancy.Narrowing
import Metastore.Proofs.Text.Ascii
import Metastore.Proofs.Endpoint.Address
import Metastore.Proofs.Endpoint.Parts
import Metastore.Proofs.Endpoint.Grammar
import Metastore.Proofs.Endpoint.Normal
import Metastore.Proofs.Double
import Metastore.Proofs.Value.Keys
import Metastore.Proofs.Config.Overlay
import Metastore.Proofs.Config.Updates
import Metastore.Proofs.Value.Leaves
import Metastore.Proofs.Environment.Leaves
import Metastore.Proofs.Environment.Reordering
import Metastore.Proofs.Backend
import Metastore.Proofs.Config.Reads
import Metastore.Proofs.Client.Spelling
import Metastore.Proofs.Client.Notices
import Metastore.Proofs.Failure.Search
import Metastore.Proofs.Privilege
import Metastore.Proofs.Client.Elevation
