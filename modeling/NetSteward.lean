import NetSteward.Action
import NetSteward.Arguments
import NetSteward.Binding.Config
import NetSteward.Binding.Lifecycle
import NetSteward.Caller
import NetSteward.Crypto.Sha2
import NetSteward.Dns.Config
import NetSteward.Dns.Lifecycle
import NetSteward.Dns.Patch
import NetSteward.Failure
import NetSteward.Json.Access
import NetSteward.Json.Bytes
import NetSteward.Json.Display
import NetSteward.Json.Escape
import NetSteward.Json.Reader
import NetSteward.Json.Sendable
import NetSteward.Json.Value
import NetSteward.Json.Writer
import NetSteward.Keyed
import NetSteward.Number.Binary64
import NetSteward.Number.Shortest
import NetSteward.Operation
import NetSteward.Placement.Config
import NetSteward.Placement.Lifecycle
import NetSteward.Proofs.Caller
import NetSteward.Proofs.Deletion
import NetSteward.Proofs.Dns.Adoption
import NetSteward.Proofs.Dns.Agreement
import NetSteward.Proofs.Dns.Answered
import NetSteward.Proofs.Dns.Custody
import NetSteward.Proofs.Dns.Ending
import NetSteward.Proofs.Dns.Loading
import NetSteward.Proofs.Dns.Patches
import NetSteward.Proofs.Dns.Projection
import NetSteward.Proofs.Dns.Provenance
import NetSteward.Proofs.Dns.Record
import NetSteward.Proofs.Dns.Retention
import NetSteward.Proofs.Dns.Rollback
import NetSteward.Proofs.Dns.Scope
import NetSteward.Proofs.Dns.Stale
import NetSteward.Proofs.Dns.Step
import NetSteward.Proofs.Dns.Succession
import NetSteward.Proofs.Dns.Teardown
import NetSteward.Proofs.Dns.Trace
import NetSteward.Proofs.Dns.Typed
import NetSteward.Proofs.Dns.Upkeep
import NetSteward.Proofs.Ending
import NetSteward.Proofs.History
import NetSteward.Proofs.Json.Quoted
import NetSteward.Proofs.Json.Reread
import NetSteward.Proofs.Management
import NetSteward.Proofs.Objection
import NetSteward.Proofs.Web.Rejection
import NetSteward.Proofs.OtherKinds
import NetSteward.Proofs.Ownership
import NetSteward.Proofs.Remote.Cursor
import NetSteward.Proofs.Remote.Paging
import NetSteward.Proofs.Remote.Replies
import NetSteward.Proofs.Renewal
import NetSteward.Proofs.Rereading
import NetSteward.Proofs.Route.Map
import NetSteward.Proofs.Route.Variant
import NetSteward.Proofs.Schema.Field
import NetSteward.Proofs.Schema.Reread
import NetSteward.Proofs.Shape
import NetSteward.Proofs.Store.Admission
import NetSteward.Proofs.Store.Connection
import NetSteward.Proofs.Store.Ending
import NetSteward.Proofs.Store.Refinement
import NetSteward.Proofs.Survival
import NetSteward.Proofs.Text.Base64url
import NetSteward.Proofs.Text.Percent
import NetSteward.Proofs.Text.Split
import NetSteward.Proofs.Text.Utf8
import NetSteward.Proofs.Token.Acceptance
import NetSteward.Proofs.Token.Soundness
import NetSteward.Proofs.Token.Reading
import NetSteward.Proofs.Url.Query
import NetSteward.Remote.Call
import NetSteward.Remote.Cursor
import NetSteward.Remote.Exchange
import NetSteward.Remote.Link
import NetSteward.Remote.Method
import NetSteward.Resource
import NetSteward.Route.Config
import NetSteward.Route.Lookup
import NetSteward.Route.Map
import NetSteward.Schema.Catalogue
import NetSteward.Schema.Checked
import NetSteward.Schema.Issue
import NetSteward.Schema.Record
import NetSteward.Schema.Scalar
import NetSteward.Schema.Unreadable
import NetSteward.Settings
import NetSteward.Settings.CommandLine
import NetSteward.Settings.Environment
import NetSteward.Settings.Source
import NetSteward.Store.Access
import NetSteward.Store.Fault
import NetSteward.Store.Memory
import NetSteward.Store.Method
import NetSteward.Store.Repository
import NetSteward.Text.Base64url
import NetSteward.Text.Blank
import NetSteward.Text.Charset
import NetSteward.Text.Charset.Big5
import NetSteward.Text.Charset.Chinese
import NetSteward.Text.Charset.CodePage
import NetSteward.Text.Charset.Desktop
import NetSteward.Text.Charset.Dos
import NetSteward.Text.Charset.Escaped
import NetSteward.Text.Charset.Gb18030
import NetSteward.Text.Charset.Gb2312
import NetSteward.Text.Charset.Gbk
import NetSteward.Text.Charset.Grid
import NetSteward.Text.Charset.Hkscs
import NetSteward.Text.Charset.Host
import NetSteward.Text.Charset.Iso
import NetSteward.Text.Charset.Japanese
import NetSteward.Text.Charset.Jis0208
import NetSteward.Text.Charset.Jis0212
import NetSteward.Text.Charset.Jis0213
import NetSteward.Text.Charset.Korean
import NetSteward.Text.Charset.Ksx1001
import NetSteward.Text.Charset.MakerRows
import NetSteward.Text.Charset.Multibyte
import NetSteward.Text.Charset.Prepared
import NetSteward.Text.Charset.Punycode
import NetSteward.Text.Charset.Switched
import NetSteward.Text.Charset.Utf7
import NetSteward.Text.Charset.Windows
import NetSteward.Text.CodePoint
import NetSteward.Text.Composed
import NetSteward.Text.Digit
import NetSteward.Text.Integer
import NetSteward.Text.Lower
import NetSteward.Text.Name
import NetSteward.Text.Name.Alias
import NetSteward.Text.Name.Asian
import NetSteward.Text.Name.Eastern
import NetSteward.Text.Name.European
import NetSteward.Text.Name.Historic
import NetSteward.Text.Name.Pictures
import NetSteward.Text.Name.Run
import NetSteward.Text.Name.Signs
import NetSteward.Text.Percent
import NetSteward.Text.Printable
import NetSteward.Text.Utf16
import NetSteward.Text.Utf8
import NetSteward.Time.Instant
import NetSteward.Token.Form
import NetSteward.Token.Key
import NetSteward.Token.Lifetime
import NetSteward.Url.Domain
import NetSteward.Url.Domain.Context
import NetSteward.Url.Domain.Direction
import NetSteward.Url.Domain.Permitted
import NetSteward.Url.Host
import NetSteward.Url.Query
import NetSteward.Web.Body
import NetSteward.Web.Endpoint
import NetSteward.Web.Front
import NetSteward.Web.Multipart
import NetSteward.Web.Parameterized
import NetSteward.Web.Request
import NetSteward.Web.Response
import NetSteward.Web.Target
import NetSteward.World
import NetSteward.Proofs.Dns.Observation
import NetSteward.Proofs.Dns.Stability
import NetSteward.Proofs.Dns.Reapplication
