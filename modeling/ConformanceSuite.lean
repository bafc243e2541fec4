import ConformanceSuite.Api
import ConformanceSuite.Base64
import ConformanceSuite.ConsentTokens
import ConformanceSuite.Context
import ConformanceSuite.Discovery.ConfigField
import ConformanceSuite.Discovery.Document
import ConformanceSuite.Discovery.FieldRules
import ConformanceSuite.Discovery.Specification
import ConformanceSuite.Discovery.Validation
import ConformanceSuite.Double
import ConformanceSuite.EventLog
import ConformanceSuite.Files.Basic
import ConformanceSuite.Files.Tree
import ConformanceSuite.Http.Body
import ConformanceSuite.Http.Executor
import ConformanceSuite.Http.Head
import ConformanceSuite.HttpResponse
import ConformanceSuite.IpAddress
import ConformanceSuite.Json.Basic
import ConformanceSuite.Json.Decoder
import ConformanceSuite.Json.Encoder
import ConformanceSuite.Json.Printer
import ConformanceSuite.Json.Problem
import ConformanceSuite.Json.Scanner
import ConformanceSuite.Json.Source
import ConformanceSuite.JsonPath.Basic
import ConformanceSuite.JsonPath.Select
import ConformanceSuite.JsonPath.Token
import ConformanceSuite.JsonSchema.Basic
import ConformanceSuite.JsonSchema.Compile
import ConformanceSuite.JsonSchema.Format
import ConformanceSuite.JsonSchema.Judgement
import ConformanceSuite.JsonSchema.Metaschema
import ConformanceSuite.KeyMap
import ConformanceSuite.LogRecord
import ConformanceSuite.Pattern.Basic
import ConformanceSuite.Pattern.Reader
import ConformanceSuite.Proofs.Base64
import ConformanceSuite.Proofs.Capture
import ConformanceSuite.Proofs.ConsentTokens
import ConformanceSuite.Proofs.ConsentTokens.History
import ConformanceSuite.Proofs.Context.History
import ConformanceSuite.Proofs.Discovery.Exactness
import ConformanceSuite.Proofs.Discovery.Fields
import ConformanceSuite.Proofs.Discovery.Keys
import ConformanceSuite.Proofs.Discovery.Rules
import ConformanceSuite.Proofs.Discovery.Trust
import ConformanceSuite.Proofs.Double
import ConformanceSuite.Proofs.EventLog
import ConformanceSuite.Proofs.Files.Append
import ConformanceSuite.Proofs.Http.Limit
import ConformanceSuite.Proofs.Interleaving
import ConformanceSuite.Proofs.Json.Grammar
import ConformanceSuite.Proofs.Json.Leaves
import ConformanceSuite.Proofs.Json.Lossless
import ConformanceSuite.Proofs.Json.Members
import ConformanceSuite.Proofs.Json.Records
import ConformanceSuite.Proofs.Json.Reparsed
import ConformanceSuite.Proofs.Json.Written
import ConformanceSuite.Proofs.JsonSchema.Meaning
import ConformanceSuite.Proofs.JsonSchema.Reading
import ConformanceSuite.Proofs.KeyMap
import ConformanceSuite.Proofs.LastOf
import ConformanceSuite.Proofs.LogRecord
import ConformanceSuite.Proofs.ReadsBack
import ConformanceSuite.Proofs.Redirect.Accounts
import ConformanceSuite.Proofs.Redirect.Answered
import ConformanceSuite.Proofs.Redirect.CodeHash
import ConformanceSuite.Proofs.Redirect.CompactToken
import ConformanceSuite.Proofs.Redirect.ConsentGate
import ConformanceSuite.Proofs.Redirect.Echo
import ConformanceSuite.Proofs.Redirect.History
import ConformanceSuite.Proofs.Redirect.Interleaved
import ConformanceSuite.Proofs.Redirect.Receive
import ConformanceSuite.Proofs.Redirect.Sessions
import ConformanceSuite.Proofs.Run.Calls
import ConformanceSuite.Proofs.Run.Chronicle
import ConformanceSuite.Proofs.Run.DataFlow
import ConformanceSuite.Proofs.Run.Mirror
import ConformanceSuite.Proofs.Run.Poisoned
import ConformanceSuite.Proofs.Run.Resolver
import ConformanceSuite.Proofs.Run.Secrecy
import ConformanceSuite.Proofs.Run.Trace
import ConformanceSuite.Proofs.Settings.Paths
import ConformanceSuite.Proofs.Sharing
import ConformanceSuite.Proofs.Swagger.BodySchema
import ConformanceSuite.Proofs.Swagger.Choice
import ConformanceSuite.Proofs.Swagger.Contract
import ConformanceSuite.Proofs.Swagger.Operations
import ConformanceSuite.Proofs.Swagger.Paths
import ConformanceSuite.Proofs.Swagger.PreparedRequests
import ConformanceSuite.Proofs.Swagger.References
import ConformanceSuite.Proofs.Swagger.Registry
import ConformanceSuite.Proofs.Swagger.Selection
import ConformanceSuite.Proofs.TestCase.Address
import ConformanceSuite.Proofs.TestCase.Alike
import ConformanceSuite.Proofs.TestCase.Captures
import ConformanceSuite.Proofs.TestCase.Mention
import ConformanceSuite.Proofs.TestCase.Preparation
import ConformanceSuite.Proofs.TestCase.Request
import ConformanceSuite.Proofs.TestCase.Template
import ConformanceSuite.Proofs.TestCase.Verdict
import ConformanceSuite.Proofs.Text.Blank
import ConformanceSuite.Proofs.Text.ByteOrder
import ConformanceSuite.Proofs.Text.Split
import ConformanceSuite.Redirect.Audit
import ConformanceSuite.Redirect.IdToken
import ConformanceSuite.Redirect.Validator
import ConformanceSuite.Report
import ConformanceSuite.Run.Controller
import ConformanceSuite.Run.Event
import ConformanceSuite.Settings.Basic
import ConformanceSuite.Settings.Decode
import ConformanceSuite.Settings.Load
import ConformanceSuite.Sha2
import ConformanceSuite.Swagger.Contract
import ConformanceSuite.Swagger.Document
import ConformanceSuite.Swagger.Files
import ConformanceSuite.Swagger.Operation
import ConformanceSuite.Swagger.PathTemplate
import ConformanceSuite.Swagger.Registry
import ConformanceSuite.TestCase.Basic
import ConformanceSuite.TestCase.Request
import ConformanceSuite.TestCase.Template
import ConformanceSuite.TestCase.Verdict
import ConformanceSuite.Text.Blank
import ConformanceSuite.Text.Category
import ConformanceSuite.Text.Decimal
import ConformanceSuite.Text.Hex
import ConformanceSuite.Text.Percent
import ConformanceSuite.Text.Printable
import ConformanceSuite.Text.Quoted
import ConformanceSuite.Text.Runs
import ConformanceSuite.Text.Split
import ConformanceSuite.Toml.Basic
import ConformanceSuite.Toml.Reader
import ConformanceSuite.Url.Host
import ConformanceSuite.Url.Parsed
import ConformanceSuite.Url.Punycode
import ConformanceSuite.Uuid
import ConformanceSuite.Yaml.Cursor
import ConformanceSuite.Yaml.Layout
import ConformanceSuite.Yaml.Node
import ConformanceSuite.Yaml.Reader
import ConformanceSuite.Yaml.Scalar
import ConformanceSuite.Yaml.Token
