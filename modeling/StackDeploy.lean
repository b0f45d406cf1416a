import StackDeploy.Assembly.Assembler
import StackDeploy.Assembly.Build
import StackDeploy.Assembly.Graph
import StackDeploy.CommandLine.Arguments
import StackDeploy.CommandLine.Folder
import StackDeploy.CommandLine.Report
import StackDeploy.CommandLine.Run
import StackDeploy.Decimal.Double
import StackDeploy.Decimal.Shortest
import StackDeploy.Deployment.Deploy
import StackDeploy.Deployment.Plan
import StackDeploy.Deployment.Rehearsal
import StackDeploy.Diff.Basic
import StackDeploy.Diff.Equality
import StackDeploy.Diff.Replacement
import StackDeploy.Digest.Hmac
import StackDeploy.Digest.Sha256
import StackDeploy.Json.Number
import StackDeploy.Json.Printer
import StackDeploy.Json.Problem
import StackDeploy.Json.Reader
import StackDeploy.Json.Token
import StackDeploy.Json.Tree
import StackDeploy.Json.Value
import StackDeploy.Main
import StackDeploy.Names.Map
import StackDeploy.Names.Set
import StackDeploy.Proofs.Assembly.Additions
import StackDeploy.Proofs.Assembly.Contents
import StackDeploy.Proofs.Assembly.CreationOrder
import StackDeploy.Proofs.Assembly.Declarations
import StackDeploy.Proofs.Assembly.Independence
import StackDeploy.Proofs.Assembly.Merge
import StackDeploy.Proofs.Assembly.ReportedCycle
import StackDeploy.Proofs.Assembly.Search
import StackDeploy.Proofs.Assembly.State
import StackDeploy.Proofs.Assembly.Walk
import StackDeploy.Proofs.Decimal.Whole
import StackDeploy.Proofs.Deployment.Assembled
import StackDeploy.Proofs.Deployment.Calls
import StackDeploy.Proofs.Deployment.Destruction
import StackDeploy.Proofs.Deployment.Protocol
import StackDeploy.Proofs.Deployment.Redeployment
import StackDeploy.Proofs.Deployment.Repetition
import StackDeploy.Proofs.Deployment.Report
import StackDeploy.Proofs.Deployment.Submission
import StackDeploy.Proofs.Diff.Comparison
import StackDeploy.Proofs.Diff.Equivalence
import StackDeploy.Proofs.Diff.Identity
import StackDeploy.Proofs.Diff.KeyOrder
import StackDeploy.Proofs.Diff.Partition
import StackDeploy.Proofs.Diff.References
import StackDeploy.Proofs.Diff.Replacement
import StackDeploy.Proofs.Json.Integers
import StackDeploy.Proofs.Json.KeyOrder
import StackDeploy.Proofs.Json.Layout
import StackDeploy.Proofs.Json.Reading
import StackDeploy.Proofs.Json.Record
import StackDeploy.Proofs.Json.RecordReordering
import StackDeploy.Proofs.Json.Reordering
import StackDeploy.Proofs.Json.Scanning
import StackDeploy.Proofs.Json.Written
import StackDeploy.Proofs.Names.Lookup
import StackDeploy.Proofs.Names.Rearranged
import StackDeploy.Proofs.Provider.Absence
import StackDeploy.Proofs.Provider.Classification
import StackDeploy.Proofs.Provider.Envelopes
import StackDeploy.Proofs.Provider.Exchange
import StackDeploy.Proofs.Provider.Form
import StackDeploy.Proofs.Provider.Rendered
import StackDeploy.Proofs.Provider.Transmission
import StackDeploy.Proofs.Provider.Unambiguity
import StackDeploy.Proofs.Settings.Padding
import StackDeploy.Proofs.Signing.CanonicalContent
import StackDeploy.Proofs.Signing.Pairs
import StackDeploy.Proofs.Signing.PlainPath
import StackDeploy.Proofs.Signing.Query
import StackDeploy.Proofs.Signing.Verification
import StackDeploy.Proofs.Stack.RoundTrip
import StackDeploy.Proofs.Template.Content
import StackDeploy.Proofs.Template.Dangling
import StackDeploy.Proofs.Template.Expression
import StackDeploy.Proofs.Template.Faithful
import StackDeploy.Proofs.Template.Mention
import StackDeploy.Proofs.Template.Reordering
import StackDeploy.Proofs.Template.RoundTrip
import StackDeploy.Proofs.Template.Substitution
import StackDeploy.Proofs.Text.Collapse
import StackDeploy.Proofs.Text.EncodedSegments
import StackDeploy.Proofs.Text.Plain
import StackDeploy.Proofs.Waiting.Cancellation
import StackDeploy.Proofs.Waiting.Course
import StackDeploy.Proofs.Waiting.Outcome
import StackDeploy.Proofs.Waiting.Rehearsed
import StackDeploy.Proofs.Web.DotSegments
import StackDeploy.Proofs.Xml.Children
import StackDeploy.Proofs.Xml.Decoding
import StackDeploy.Proofs.Xml.Document
import StackDeploy.Proofs.Xml.Escaping
import StackDeploy.Proofs.Xml.Shape
import StackDeploy.Proofs.Xml.Written
import StackDeploy.Provider.Client
import StackDeploy.Provider.CloudFormation
import StackDeploy.Provider.Error
import StackDeploy.Provider.Offline
import StackDeploy.Provider.Response
import StackDeploy.Settings.Access
import StackDeploy.Settings.Document
import StackDeploy.Settings.Field
import StackDeploy.Settings.Line
import StackDeploy.Settings.Polling
import StackDeploy.Settings.Setting
import StackDeploy.Settings.Sources
import StackDeploy.Settings.Table
import StackDeploy.Settings.Word
import StackDeploy.Signing.Canonical
import StackDeploy.Signing.Request
import StackDeploy.Signing.Signer
import StackDeploy.Signing.Timestamp
import StackDeploy.Stack.ControlPlane
import StackDeploy.Stack.Error
import StackDeploy.Stack.Snapshot
import StackDeploy.Stack.Status
import StackDeploy.Stack.Wait
import StackDeploy.Template.Basic
import StackDeploy.Template.Printer
import StackDeploy.Template.Reader
import StackDeploy.Template.Reference
import StackDeploy.Template.Validation
import StackDeploy.Text.Blank
import StackDeploy.Text.CodePoints
import StackDeploy.Text.Cut
import StackDeploy.Text.Hidden
import StackDeploy.Text.Percent
import StackDeploy.Text.Quoted
import StackDeploy.Web.Domain.Composites
import StackDeploy.Web.Domain.Composition
import StackDeploy.Web.Domain.Directions
import StackDeploy.Web.Domain.Images
import StackDeploy.Web.Domain.Joining
import StackDeploy.Web.Domain.Mapping
import StackDeploy.Web.Domain.Marks
import StackDeploy.Web.Domain.Name
import StackDeploy.Web.Domain.Refused
import StackDeploy.Web.Host
import StackDeploy.Web.Punycode
import StackDeploy.Web.Url
import StackDeploy.Xml.Element
import StackDeploy.Xml.Markup
import StackDeploy.Xml.Reference
import StackDeploy.Xml.Value
