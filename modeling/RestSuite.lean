import RestSuite.Behavior.Assertions
import RestSuite.Behavior.Basic
import RestSuite.Behavior.Extractors
import RestSuite.Behavior.Registry
import RestSuite.Bindings
import RestSuite.Call.Build
import RestSuite.Call.Check
import RestSuite.Call.Record
import RestSuite.Call.Run
import RestSuite.Decimal.Shortest
import RestSuite.Disk.Basic
import RestSuite.Disk.Path
import RestSuite.Environment
import RestSuite.Evaluation
import RestSuite.Event
import RestSuite.Expansion
import RestSuite.Http.Message
import RestSuite.Http.Method
import RestSuite.Json.Basic
import RestSuite.Json.Parser
import RestSuite.Json.Path
import RestSuite.Json.Printer
import RestSuite.Json.SyntaxError
import RestSuite.Notice
import RestSuite.OrderedMap
import RestSuite.Pattern.Basic
import RestSuite.Pattern.ByteForm
import RestSuite.Pattern.Class
import RestSuite.Pattern.Escape
import RestSuite.Pattern.Flags
import RestSuite.Pattern.Parser
import RestSuite.Pattern.Program
import RestSuite.Pattern.Reach
import RestSuite.Pattern.Read
import RestSuite.Pattern.Search
import RestSuite.Pattern.Shape
import RestSuite.Pattern.Sharing
import RestSuite.Pattern.Size
import RestSuite.Placeholder
import RestSuite.Proofs.Behavior.Anchoring
import RestSuite.Proofs.Behavior.Equality
import RestSuite.Proofs.Behavior.Redirects
import RestSuite.Proofs.Behavior.Storing
import RestSuite.Proofs.Behavior.Targets
import RestSuite.Proofs.Call.Accounting
import RestSuite.Proofs.Call.Bodies
import RestSuite.Proofs.Call.Conclusion
import RestSuite.Proofs.Call.Confinement
import RestSuite.Proofs.Call.Course
import RestSuite.Proofs.Call.Exchange
import RestSuite.Proofs.Call.Extraction
import RestSuite.Proofs.Call.Frame
import RestSuite.Proofs.Call.Headers
import RestSuite.Proofs.Call.Ledger
import RestSuite.Proofs.Call.Parallel
import RestSuite.Proofs.Call.Parts
import RestSuite.Proofs.Call.Stages
import RestSuite.Proofs.Call.Stopping
import RestSuite.Proofs.Call.Success
import RestSuite.Proofs.Call.Taking
import RestSuite.Proofs.Call.Validation
import RestSuite.Proofs.Call.Variables
import RestSuite.Proofs.Disk.Writing
import RestSuite.Proofs.Expansion
import RestSuite.Proofs.Http.Collapsed
import RestSuite.Proofs.Json.Alike
import RestSuite.Proofs.Json.Brackets
import RestSuite.Proofs.Json.Leaves
import RestSuite.Proofs.Json.Path
import RestSuite.Proofs.Json.RoundTrip
import RestSuite.Proofs.Pattern.Locality
import RestSuite.Proofs.Pattern.Signs
import RestSuite.Proofs.Pattern.Takes
import RestSuite.Proofs.Pattern.Tokens
import RestSuite.Proofs.Pattern.Wrapping
import RestSuite.Proofs.Placeholder
import RestSuite.Proofs.Script.Climb
import RestSuite.Proofs.Script.Implicit
import RestSuite.Proofs.Script.Inheritance
import RestSuite.Proofs.Script.Lineage
import RestSuite.Proofs.Script.Locality
import RestSuite.Proofs.Script.Registration
import RestSuite.Proofs.Script.Sections
import RestSuite.Proofs.Script.Staged
import RestSuite.Proofs.Sequencing
import RestSuite.Proofs.Settings.InForce
import RestSuite.Proofs.Suite.Cancellation
import RestSuite.Proofs.Suite.Conclusion
import RestSuite.Proofs.Suite.Course
import RestSuite.Proofs.Suite.FailFast
import RestSuite.Proofs.Suite.Isolation
import RestSuite.Proofs.Suite.Pieces
import RestSuite.Proofs.Suite.Reachable
import RestSuite.Proofs.Suite.Records
import RestSuite.Proofs.Suite.Replay
import RestSuite.Proofs.Suite.Separation
import RestSuite.Proofs.Suite.Steps
import RestSuite.Proofs.Suite.Success
import RestSuite.Proofs.Suite.Templates
import RestSuite.Proofs.Suite.Transport
import RestSuite.Script.Basic
import RestSuite.Script.Chain
import RestSuite.Script.Error
import RestSuite.Script.Resolved
import RestSuite.Script.Rule
import RestSuite.Script.Stage
import RestSuite.Settings.Basic
import RestSuite.Settings.Reader
import RestSuite.Settings.Store
import RestSuite.Suite.Basic
import RestSuite.Suite.Run
import RestSuite.Text.Blank
import RestSuite.Text.Quoted
import RestSuite.Text.Utf8
import RestSuite.Unicode.Age
import RestSuite.Unicode.Category
import RestSuite.Unicode.CharSet
import RestSuite.Unicode.CombiningClass
import RestSuite.Unicode.Decomposition
import RestSuite.Unicode.Direction
import RestSuite.Unicode.DomainMapping
import RestSuite.Unicode.Fold
import RestSuite.Unicode.Hidden
import RestSuite.Unicode.Letter
import RestSuite.Unicode.Normalization
import RestSuite.Unicode.Property
import RestSuite.Unicode.Query
import RestSuite.Unicode.Script
import RestSuite.Unicode.ScriptExtensions
import RestSuite.Unicode.Segmentation
import RestSuite.Url.Address
import RestSuite.Url.Basic
import RestSuite.Url.Domain
import RestSuite.Url.Encoding
import RestSuite.Url.Parser
import RestSuite.Url.Punycode
import RestSuite.World
