import TypedQuery.Capture
import TypedQuery.Hosting.Client
import TypedQuery.Samples
import TypedQuery.Proofs.Outcome
import TypedQuery.Proofs.Strictness
import TypedQuery.Proofs.Registry
import TypedQuery.Proofs.Members
import TypedQuery.Proofs.Requests
import TypedQuery.Proofs.Validation
import TypedQuery.Proofs.Reachability
import TypedQuery.Proofs.Retrying
import TypedQuery.Proofs.Execution
import TypedQuery.Proofs.Accounting
import TypedQuery.Proofs.Reports
import TypedQuery.Proofs.Utf8
import TypedQuery.Proofs.Diagnostics
import TypedQuery.Proofs.Payloads
import TypedQuery.Proofs.Rendering
import TypedQuery.Proofs.Configuration
import TypedQuery.Proofs.Naming
import TypedQuery.Proofs.Redaction
import TypedQuery.Proofs.Loading
import TypedQuery.Proofs.Noninterference
import TypedQuery.Proofs.Layout
import TypedQuery.Proofs.Roots
import TypedQuery.Proofs.Lexing
import TypedQuery.Proofs.Literals
import TypedQuery.Proofs.Grammar
import TypedQuery.Proofs.Definitions
import TypedQuery.Proofs.RoundTrip
import TypedQuery.Proofs.Tokens
import TypedQuery.Proofs.Reading
import TypedQuery.Proofs.Soundness
import TypedQuery.Proofs.Records
import TypedQuery.Proofs.Messages
import TypedQuery.Proofs.Unfolding
import TypedQuery.Proofs.Absence
import TypedQuery.Proofs.Instants
import TypedQuery.Proofs.Encoding
import TypedQuery.Proofs.Bundled
import TypedQuery.Proofs.Awaiting
import TypedQuery.Proofs.Compatibility
import TypedQuery.Proofs.Presence
import TypedQuery.Proofs.Undeclared
import TypedQuery.Proofs.Nesting
import TypedQuery.Proofs.Responses
import TypedQuery.Proofs.Entries
import TypedQuery.Proofs.CamelCase
import TypedQuery.Proofs.Capturing
import TypedQuery.Proofs.Visibility
import TypedQuery.Proofs.Timestamps
import TypedQuery.Proofs.Lines
import TypedQuery.Proofs.BuildOrder
import TypedQuery.Proofs.Construction
