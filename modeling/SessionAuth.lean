import SessionAuth.Account.Directory
import SessionAuth.Account.Seed
import SessionAuth.Account.User
import SessionAuth.Api.Login
import SessionAuth.Api.Messages
import SessionAuth.Api.Router
import SessionAuth.Clock
import SessionAuth.Config
import SessionAuth.Cookie.Reading
import SessionAuth.Cookie.Settings
import SessionAuth.Cookie.Writing
import SessionAuth.Credential.Digest
import SessionAuth.Credential.Hasher
import SessionAuth.Credential.Verifier
import SessionAuth.Crypto.Argon2
import SessionAuth.Crypto.Base64
import SessionAuth.Crypto.Blake2b
import SessionAuth.Crypto.Block
import SessionAuth.Crypto.Words
import SessionAuth.Email
import SessionAuth.Fault
import SessionAuth.Http.Address
import SessionAuth.Http.Header
import SessionAuth.Http.MediaType
import SessionAuth.Http.Message
import SessionAuth.IdSource
import SessionAuth.Json.Decode
import SessionAuth.Json.NumberScan
import SessionAuth.Json.Outline
import SessionAuth.Json.Scan
import SessionAuth.Json.StringScan
import SessionAuth.Json.Value
import SessionAuth.Service.Authentication
import SessionAuth.Service.Guard
import SessionAuth.Service.Program
import SessionAuth.Session.Basic
import SessionAuth.Session.Ledger
import SessionAuth.Session.Metadata
import SessionAuth.Session.Record
import SessionAuth.Table
import SessionAuth.Text.Blank
import SessionAuth.Text.Decimal
import SessionAuth.Text.Graphic
import SessionAuth.Text.Hexadecimal
import SessionAuth.Text.Quoted
import SessionAuth.Text.Split
import SessionAuth.Text.Utf8
import SessionAuth.Text.Word
import SessionAuth.Time.Calendar
import SessionAuth.Time.HttpDate
import SessionAuth.Time.Instant
import SessionAuth.Time.Span
import SessionAuth.Time.Timestamp
import SessionAuth.Uuid
import SessionAuth.Proofs.Session.History
import SessionAuth.Proofs.Service.Running
import SessionAuth.Proofs.Account.RoleOrder
import SessionAuth.Proofs.Service.Verdict
import SessionAuth.Proofs.Api.Agreement
import SessionAuth.Proofs.Cookie.Characters
import SessionAuth.Proofs.Service.Credentials
import SessionAuth.Proofs.Time.Elapsed
import SessionAuth.Proofs.Api.Attempt
import SessionAuth.Proofs.Api.Confinement
import SessionAuth.Proofs.Api.Refusal
import SessionAuth.Proofs.Api.Outcome
import SessionAuth.Proofs.Api.Delivery
import SessionAuth.Proofs.Service.Faults
import SessionAuth.Proofs.Api.Gate
import SessionAuth.Proofs.Cookie.Legibility
import SessionAuth.Proofs.Cookie.Segments
import SessionAuth.Proofs.Cookie.Attributes
import SessionAuth.Proofs.Service.Interleaving
import SessionAuth.Proofs.Account.Standing
import SessionAuth.Proofs.Service.Tasks
import SessionAuth.Proofs.Service.Writes
import SessionAuth.Proofs.Service.Concurrency
import SessionAuth.Proofs.Api.Answered
import SessionAuth.Proofs.Api.Calls
import SessionAuth.Proofs.Api.Discretion
import SessionAuth.Proofs.Api.Audit
import SessionAuth.Proofs.Credential.Hasher
import SessionAuth.Proofs.Account.Deletion
import SessionAuth.Proofs.Account.Uniqueness
import SessionAuth.Proofs.Account.Assignments
import SessionAuth.Proofs.Text.Numerals
import SessionAuth.Proofs.Text.Split
import SessionAuth.Proofs.Configuration.Acceptance
import SessionAuth.Proofs.Time.Calendar
import SessionAuth.Proofs.Time.Timestamp
import SessionAuth.Proofs.Time.HttpDate
import SessionAuth.Proofs.Json.Grammar
import SessionAuth.Proofs.Json.Scanning
import SessionAuth.Proofs.Json.Writing
import SessionAuth.Proofs.Json.Records
import SessionAuth.Proofs.Json.RoundTrip
import SessionAuth.Proofs.Session.Metadata
import SessionAuth.Proofs.Api.Authentication
import SessionAuth.Proofs.Time.Range
import SessionAuth.Proofs.Api.Issuance
import SessionAuth.Proofs.Account.Seeding
import SessionAuth.Proofs.Api.Seeding
import SessionAuth.Proofs.Email
import SessionAuth.Proofs.Api.LoginForm
