import Waymark.Channel.Pair
import Waymark.Command.Arguments
import Waymark.Command.Basic
import Waymark.Command.Execution
import Waymark.Converter
import Waymark.Echo
import Waymark.Exchange
import Waymark.Failure
import Waymark.Json.Basic
import Waymark.Json.Number
import Waymark.Json.Printer
import Waymark.Json.Reader
import Waymark.Lifespan.Handshake
import Waymark.Lifespan.State
import Waymark.Log.Directive
import Waymark.Log.Event
import Waymark.Log.FieldValue
import Waymark.Log.Filter
import Waymark.Log.Sampling
import Waymark.Log.Settings
import Waymark.Main
import Waymark.Message.Basic
import Waymark.Message.Reader
import Waymark.Number.Binary64
import Waymark.Number.Decimal
import Waymark.Param.Params
import Waymark.Param.Value
import Waymark.Pattern.Basic
import Waymark.Pattern.Reach
import Waymark.Pattern.Reader
import Waymark.Program
import Waymark.Proofs.Converter.Builtin
import Waymark.Proofs.Except
import Waymark.Proofs.Lifespan.Course
import Waymark.Proofs.Lifespan.History
import Waymark.Proofs.Param.Laws
import Waymark.Proofs.Pattern.Language
import Waymark.Proofs.Template.Atoms
import Waymark.Proofs.Template.Captures
import Waymark.Proofs.Template.Reading
import Waymark.Proofs.Template.Refilling
import Waymark.Proofs.Text.Cut
import Waymark.Proofs.Text.Integer
import Waymark.Proofs.Tree.Answers
import Waymark.Proofs.Tree.Bound
import Waymark.Proofs.Tree.Calls
import Waymark.Proofs.Tree.Descent
import Waymark.Proofs.Tree.Lookup
import Waymark.Proofs.Tree.Mounting
import Waymark.Proofs.Tree.Registered
import Waymark.Proofs.Tree.Rematch
import Waymark.Proofs.Tree.RoundTrip
import Waymark.Proofs.Uuid
import Waymark.Request
import Waymark.RequestId
import Waymark.Response
import Waymark.RouteError
import Waymark.RuntimeConfig
import Waymark.Scope
import Waymark.Session
import Waymark.Table.Basic
import Waymark.Table.Building
import Waymark.Table.Reader
import Waymark.Template.Basic
import Waymark.Template.Filling
import Waymark.Template.Matching
import Waymark.Template.Notation
import Waymark.Text.Ascii
import Waymark.Text.Blank
import Waymark.Text.Cut
import Waymark.Text.Integer
import Waymark.Text.Outline
import Waymark.Text.Percent
import Waymark.Text.Quoted
import Waymark.Text.Utf8
import Waymark.Tree.Basic
import Waymark.Tree.Dispatch
import Waymark.Tree.Listing
import Waymark.Tree.Matching
import Waymark.Tree.Outline
import Waymark.Tree.Refusals
import Waymark.Tree.Registration
import Waymark.Tree.Reverse
import Waymark.Tree.Schema
import Waymark.Unicode.Alphanumeric
import Waymark.Unicode.Assignment
import Waymark.Unicode.CombiningClass
import Waymark.Unicode.Decomposition
import Waymark.Unicode.Direction
import Waymark.Unicode.Joining
import Waymark.Unicode.Mark
import Waymark.Unicode.Normalization
import Waymark.Unicode.Printable
import Waymark.Unicode.Table
import Waymark.Url.Address
import Waymark.Url.Basic
import Waymark.Url.Domain
import Waymark.Url.Domain.Label
import Waymark.Url.Domain.Mapping
import Waymark.Url.Domain.Table
import Waymark.Url.Error
import Waymark.Url.Path
import Waymark.Url.Punycode
import Waymark.Url.Reader
import Waymark.UrlPath
import Waymark.Uuid
import Waymark.WorkerPool
import Waymark.Yaml.Glyph
import Waymark.Yaml.Layout
import Waymark.Yaml.Node
import Waymark.Yaml.Property
import Waymark.Yaml.Reading
import Waymark.Yaml.Scalar
import Waymark.Yaml.Token
import Waymark.Proofs.Tree.Endings
import Waymark.Proofs.Tree.Redirection
import Waymark.Proofs.Exchange
import Waymark.Proofs.Tree.Gating
import Waymark.Proofs.Tree.Precedence
import Waymark.Proofs.Template.Writing
import Waymark.Proofs.Tree.Chains
import Waymark.Proofs.Tree.Completeness
import Waymark.Proofs.Lifespan.Serving
import Waymark.Proofs.Tree.Rooted
import Waymark.Proofs.Url.Authority
import Waymark.Proofs.Converter.Spelling
import Waymark.Proofs.Tree.Spelling
import Waymark.Proofs.Template.Validity
import Waymark.Proofs.Table.Steps
import Waymark.Proofs.Table.Description
import Waymark.Proofs.Table.Built
import Waymark.Proofs.WorkerPool.Steps
import Waymark.Proofs.WorkerPool.Stages
import Waymark.Proofs.WorkerPool.Counters
import Waymark.Proofs.WorkerPool.Progress
import Waymark.Proofs.WorkerPool.Isolation
import Waymark.Proofs.Number.Rounding
import Waymark.Proofs.Number.Shortest
import Waymark.Proofs.Converter.Kinds
import Waymark.Proofs.Converter.Inverse
import Waymark.Proofs.Template.Notation
import Waymark.Proofs.Template.Grammar
import Waymark.Proofs.Template.Recovery
import Waymark.Proofs.Echo
import Waymark.Proofs.Lifespan.Reporting
import Waymark.Proofs.Text.Percent
import Waymark.Proofs.Tree.Ports
import Waymark.Proofs.Url.Path
import Waymark.Proofs.Url.Punycode
import Waymark.Proofs.Url.Address
import Waymark.Proofs.Url.Host
import Waymark.Proofs.Url.Absolute
import Waymark.Proofs.Json.RoundTrip
import Waymark.Proofs.Message.Wire
import Waymark.Proofs.Param.Edits
import Waymark.Proofs.Template.Erasing
import Waymark.Proofs.Template.Artifacts
import Waymark.Proofs.Tree.Documented
import Waymark.Proofs.Channel.Delivery
import Waymark.Proofs.Number.Value
import Waymark.Proofs.Log.Sampling
import Waymark.Proofs.Template.Substitution
