import Tenancy.Text.Blank
import Tenancy.Text.Utf8
import Tenancy.Text.Utf16
import Tenancy.Text.Quoted
import Tenancy.Text.FormEncoding
import Tenancy.Address.Basic
import Tenancy.Decimal.Notation
import Tenancy.Json.Printer
import Tenancy.Json.Reader
import Tenancy.Json.Record
import Tenancy.Json.Outline
import Tenancy.Session
import Tenancy.Role
import Tenancy.Filter
import Tenancy.User
import Tenancy.Request
import Tenancy.Program
import Tenancy.Directory.Lookup
import Tenancy.Directory.Lifecycle
import Tenancy.Directory.Granting
import Tenancy.Http.Paging
import Tenancy.Script.Services
import Tenancy.Script.Server
import Tenancy.Settings
import Tenancy.Main
import Tenancy.Proofs.Run
import Tenancy.Proofs.World
import Tenancy.Proofs.Directory.Action
import Tenancy.Proofs.Call
import Tenancy.Proofs.Directory.Population
import Tenancy.Proofs.Http.Exchange
import Tenancy.Proofs.Http.Paging
import Tenancy.Proofs.Http.Ending
import Tenancy.Proofs.Directory.Document
import Tenancy.Proofs.Directory.Holders
import Tenancy.Proofs.Text.Utf8
import Tenancy.Proofs.Text.Utf16
import Tenancy.Proofs.Text.FormEncoding
import Tenancy.Proofs.Text.Parts
import Tenancy.Proofs.Filter.Sentence
import Tenancy.Proofs.Filter.Reading
import Tenancy.Proofs.Grant
import Tenancy.Proofs.Directory.Relations
import Tenancy.Proofs.Directory.Membership
import Tenancy.Proofs.Stopping
import Tenancy.Proofs.Directory.Operation
import Tenancy.Proofs.Directory.Faults
import Tenancy.Proofs.Lockstep
import Tenancy.Proofs.Hidden
import Tenancy.Proofs.Directory.Lockstep
import Tenancy.Proofs.Http.Lockstep
import Tenancy.Proofs.Directory.Secrecy
import Tenancy.Proofs.Expansion
import Tenancy.Proofs.Directory.Phases
import Tenancy.Proofs.Directory.Naming
import Tenancy.Proofs.Directory.Plan
import Tenancy.Proofs.Directory.Confinement
import Tenancy.Proofs.Directory.BadInput
import Tenancy.Proofs.Directory.Discovery
import Tenancy.Proofs.Reports
import Tenancy.Proofs.Json.Number
import Tenancy.Proofs.Http.Complaint
import Tenancy.Proofs.Directory.Wire
import Tenancy.Proofs.Directory.Deletion
import Tenancy.Proofs.Directory.Audit
import Tenancy.Proofs.Directory.Resumption
import Tenancy.Proofs.Directory.Orphans
import Tenancy.Proofs.Directory.Removal
import Tenancy.Proofs.Join
import Tenancy.Proofs.Directory.Creation
import Tenancy.Proofs.Directory.Resource
import Tenancy.Proofs.Json.Grammar
import Tenancy.Proofs.Json.Lexemes
import Tenancy.Proofs.Json.Skipping
import Tenancy.Proofs.Json.Strings
import Tenancy.Proofs.Json.Outline
import Tenancy.Proofs.Json.Scalars
import Tenancy.Proofs.Http.Meaning
import Tenancy.Proofs.Directory.Revocation
import Tenancy.Proofs.Grant.Reading
import Tenancy.Proofs.Http.Attempt
import Tenancy.Proofs.Json.Readings
import Tenancy.Proofs.Http.Code
import Tenancy.Proofs.Json.Fields
import Tenancy.Proofs.Json.Spelling
import Tenancy.Proofs.Directory.Spelling
import Tenancy.Proofs.Directory.Finding
import Tenancy.Proofs.Json.Written
import Tenancy.Proofs.Directory.Credentials
import Tenancy.Proofs.Http.Trace
import Tenancy.Proofs.Text.Trimming
import Tenancy.Proofs.Identifier
import Tenancy.Proofs.Settings.Number
import Tenancy.Proofs.Settings.Loading
import Tenancy.Proofs.Settings.Cleaning
import Tenancy.Proofs.Printing.Lines
import Tenancy.Proofs.Printing.Listing
import Tenancy.Proofs.Text.Beginning
import Tenancy.Proofs.Http.Token
