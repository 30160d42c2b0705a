import SqlBridge.Session
import SqlBridge.Proofs.Template.Alphabet
import SqlBridge.Proofs.Template.Grammar
import SqlBridge.Proofs.Template.Occurrence
import SqlBridge.Proofs.Template.Cut
import SqlBridge.Proofs.Template.Resolution
import SqlBridge.Proofs.Template.Confinement
import SqlBridge.Proofs.Literal.Reader
import SqlBridge.Proofs.Literal.RoundTrip
import SqlBridge.Proofs.Clause.Strings
import SqlBridge.Proofs.Clause.Confinement
import SqlBridge.Proofs.Driver.Calls
import SqlBridge.Proofs.Driver.Interaction
import SqlBridge.Proofs.Connection.Statements
import SqlBridge.Proofs.Connection.Charset
import SqlBridge.Proofs.Connection.Opening
import SqlBridge.Proofs.Connection.Request
import SqlBridge.Proofs.Session.Effect
import SqlBridge.Proofs.Charset.Accepted
import SqlBridge.Proofs.Session.Cursors
import SqlBridge.Proofs.Charset.Record
import SqlBridge.Proofs.Credentials.Redaction
import SqlBridge.Proofs.Credentials.Requests
import SqlBridge.Proofs.Credentials.Secrecy
import SqlBridge.Proofs.Credentials.Environment
import SqlBridge.Proofs.Driver.Failures
import SqlBridge.Proofs.Connection.Surfacing
import SqlBridge.Proofs.Connection.Handover
import SqlBridge.Proofs.Connection.Setup
import SqlBridge.Proofs.Connection.Frame
import SqlBridge.Proofs.Session.Frame
import SqlBridge.Proofs.Connection.Liveness
import SqlBridge.Proofs.Session.Closing
import SqlBridge.Proofs.Clause.Faults
import SqlBridge.Proofs.Connection.Executions
import SqlBridge.Proofs.Connection.Closed
import SqlBridge.Proofs.Session.Refusal
import SqlBridge.Proofs.Environment.Assignments
import SqlBridge.Proofs.Environment.RoundTrip
import SqlBridge.Proofs.Session.Registry
import SqlBridge.Proofs.Template.Printing
import SqlBridge.Proofs.Template.Finality
import SqlBridge.Proofs.Clause.Columns
import SqlBridge.Proofs.Connection.Counting
import SqlBridge.Proofs.Template.Defaults
import SqlBridge.Proofs.Environment.Declarations
import SqlBridge.Proofs.Environment.Loading
import SqlBridge.Proofs.Environment.Rereading
import SqlBridge.Proofs.Environment.Quotes
import SqlBridge.Proofs.Driver.Answers
import SqlBridge.Proofs.Connection.Results
import SqlBridge.Proofs.Connection.Existence
import SqlBridge.Proofs.Connection.ChangeReport
import SqlBridge.Proofs.Connection.Causes
import SqlBridge.Proofs.Limit.Normalization
import SqlBridge.Proofs.Limit.Final
import SqlBridge.Proofs.Limit.Ending
import SqlBridge.Proofs.Connection.Limiting
import SqlBridge.Proofs.Clause.Raw
import SqlBridge.Proofs.Clause.Formatted
import SqlBridge.Proofs.Connection.Binding
